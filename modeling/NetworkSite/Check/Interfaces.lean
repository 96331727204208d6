/-
  Checks of interfaces: shape, references and addressing.
-/
import NetworkSite.Check.Subnets
import NetworkSite.Net.Mac

namespace NetworkSite

open Finding

/-- The text is an address of the family. -/
def Family.isAddress (f : Family) (text : String) : Bool :=
  (Address.ofText? text : Option (Address f)).isSome

def Family.name : Family → String
  | .v4 => "IPv4"
  | .v6 => "IPv6"

/-- A text that has to be an address of the family. -/
def addressFindings (f : Family) (place : Place) (field text : String) : List Finding :=
  require (f.isAddress text) (.invalidField place field s!"'{text}' is not an {f.name} address")

namespace Interface

/-! ## Uplinks -/

/-- The IPv4 addressing of an uplink.  Beyond the site no vlan gives the prefix
    length of a fixed address. -/
def uplink4Findings (place : Place) (i : Interface) : List Finding :=
  match i.ipv4 with
  | .fixed text =>
    addressFindings .v4 place "ipv4_address" text ++
      require (i.ipv4Length.any fun n => 1 ≤ n && n ≤ 32)
        (.invalidField place "ipv4_prefixlen" "a static uplink needs a prefix length of 1-32")
  | .slaac => [.invalidField place "ipv4_address" "slaac is IPv6 only"]
  | .dhcp => []

/-- The gateway and the IPv6 address of an uplink. -/
def uplinkAddressFindings (place : Place) (i : Interface) : List Finding :=
  (match i.ipv4Gateway with
    | some text => addressFindings .v4 place "ipv4_gateway" text
    | none => []) ++
  (match i.ipv6 with
    | some (.fixed text) => addressFindings .v6 place "ipv6_address" text
    | _ => [])

/-- A delegated prefix that is known in advance has the requested length. -/
def prefixFindings (place : Place) (requested : Nat) (text : String) : List Finding :=
  match (Network.ofText text : Except NetworkError (Network .v6)) with
  | .ok network =>
    require (network.length == requested)
      (.invalidField place "ipv6_delegated_prefix"
        s!"{network.text} does not match the requested /{requested}")
  | .error e => [.invalidField place "ipv6_delegated_prefix" e.message]

/-- Only the router asks for a prefix, of a length from 48 to 63. -/
def delegationFindings (place : Place) (h : Host) (i : Interface) : List Finding :=
  match i.requestedLength? with
  | some n =>
    require (h.hasRole .router)
        (.invalidField place "ipv6_pd_prefixlen" "only the router can request prefix delegation") ++
      require (48 ≤ n && n ≤ 63) (.invalidField place "ipv6_pd_prefixlen" s!"/{n} is not in /48-/63") ++
      (match i.delegatedPrefix with
        | some text => prefixFindings place n text
        | none => [])
  | none =>
    forbid i.delegatedPrefix.isSome
      (.invalidField place "ipv6_delegated_prefix" "set without requesting prefix delegation")

def uplinkFindings (place : Place) (h : Host) (i : Interface) : List Finding :=
  i.uplink4Findings place ++ i.uplinkAddressFindings place ++ i.delegationFindings place h

/-! ## Interfaces on vlans -/

/-- The address lies in the subnet of its family, if there is one. -/
def insideFindings (place : Place) (v : Vlan) (a : IpAddress) : List Finding :=
  match v.subnetText? a with
  | some subnet => require (v.holds a) (.addressOutsideSubnet place a subnet)
  | none => []

/-- The IPv4 addressing on a vlan, whose subnets are those of `networks`. -/
def vlan4Findings (place : Place) (h : Host) (v networks : Vlan) (i : Interface) : List Finding :=
  match i.ipv4 with
  | .slaac => [.invalidField place "ipv4_address" "slaac is IPv6 only"]
  | .dhcp =>
    if h.hasRole .dns || h.hasRole .dhcp then
      [.invalidField place "ipv4_address" "DNS and DHCP servers need a static address"]
    else
      require v.allowDhcp (.invalidField place "ipv4_address" s!"vlan '{v.name}' does not offer DHCP")
  | .fixed text =>
    match (Address.ofText? text : Option (Address .v4)) with
    | none => [.invalidField place "ipv4_address" s!"'{text}' is not an IPv4 address"]
    | some a => insideFindings place networks (.v4 a)

/-- The IPv6 addressing on a vlan, whose subnets are those of `networks`. -/
def vlan6Findings (place : Place) (v networks : Vlan) (i : Interface) : List Finding :=
  match i.ipv6 with
  | some (.fixed text) =>
    match (Address.ofText? text : Option (Address .v6)) with
    | none => [.invalidField place "ipv6_address" s!"'{text}' is not an IPv6 address"]
    | some a =>
      if networks.subnet6?.isNone then
        [.invalidField place "ipv6_address" s!"vlan '{v.name}' has no explicit IPv6 subnet"]
      else insideFindings place networks (.v6 a)
  | _ => []

/-- Findings on an interface that joins a switch. -/
def switchFindings (s : Site) (place : Place) (h : Host) (switch : String) (i : Interface) :
    List Finding :=
  if (s.findSwitch? switch).isNone then [.unknownReference place "vswitch" switch]
  else
    match s.interfaceVlan? i with
    | some (_, v) => i.vlan4Findings place h v (s.namesake v) ++ i.vlan6Findings place v (s.namesake v)
    | none =>
      match i.vlan with
      | some ref => [.unknownReference place "vlan" ref.text]
      | none =>
        [.invalidField place "vlan" s!"vswitch '{switch}' has no untagged or default vlan"]

/-! ## All interfaces -/

/-- An interface joins a switch or is an uplink, and not both. -/
def shapeFindings (s : Site) (place : Place) (h : Host) (i : Interface) : List Finding :=
  match i.uplink, i.switch with
  | some _, some _ => [.invalidField place "uplink" "an uplink cannot also join a vswitch"]
  | none, none => [.invalidField place "vswitch" "either vswitch or uplink is required"]
  | some _, none => i.uplinkFindings place h
  | none, some switch => i.switchFindings s place h switch

def macFindings (place : Place) (text : String) : List Finding :=
  require (Mac.normalize? text).isSome (.invalidField place "mac_address" s!"'{text}' is not a MAC address")

end Interface

/-- Findings on the interfaces of a host. -/
def Host.interfaceFindings (s : Site) (h : Host) : List Finding :=
  (withEarlier h.namedInterfaces).flatMap fun (before, name, i) =>
    let place := Place.interface h.hostname name
    forbid (before.any (·.1 == name)) (.duplicateName "interface" s!"{h.hostname}/{name}") ++
      (match i.mac with
        | some text => Interface.macFindings place text
        | none => []) ++
      i.shapeFindings s place h

/-- Findings on all interfaces. -/
def Site.interfaceFindings (s : Site) : List Finding :=
  s.hosts.flatMap (·.interfaceFindings s)

end NetworkSite
