/-
  Address plans: the concrete addressing of a site.

  A plan holds the vlans with their subnets, gateways, pools and entries, the
  hosts with the addresses of their interfaces, and the request for a delegated
  prefix.
-/
import NetworkSite.Addressing.Delegation
import NetworkSite.Net.Pool

namespace NetworkSite

/-- How a vlan gets its IPv6 subnet. -/
inductive Ipv6Mode where
  | none
  | fixed (subnet : Network .v6)
  | delegated (share : DelegatedSubnet)
  deriving DecidableEq

namespace Ipv6Mode

/-- The subnet, where it is known. -/
def subnet? : Ipv6Mode → Option (Network .v6)
  | none => Option.none
  | fixed subnet => some subnet
  | delegated share => share.subnet

/-- The prefix length of the subnet. -/
def length? : Ipv6Mode → Option Nat
  | none => Option.none
  | fixed subnet => some subnet.length
  | delegated share => some share.length

def isEnabled : Ipv6Mode → Bool
  | none => false
  | _ => true

def isDelegated : Ipv6Mode → Bool
  | delegated _ => true
  | _ => false

end Ipv6Mode

/-- What an entry stands for. -/
inductive EntryKind where
  | interface
  | staticHost
  | reservation
  | gateway
  deriving DecidableEq

/-- A named holder of addresses on a vlan. -/
structure Entry where
  hostname : String
  kind : EntryKind
  ipv4 : Option (Address .v4)
  ipv6 : Option (Address .v6)
  mac : Option String := none
  aliases : List String := []
  deriving DecidableEq

/-- The addresses of an entry, IPv4 first. -/
def Entry.addresses (e : Entry) : List IpAddress :=
  (e.ipv4.map IpAddress.v4).toList ++ (e.ipv6.map IpAddress.v6).toList

/-- The addressing of a vlan. -/
structure PlannedVlan where
  name : String
  switch : String
  id : Option Nat
  routable : Bool
  /-- The domain of its own, or else the one of the site. -/
  domain : String
  subnet4 : Network .v4
  gateway4 : Option (Address .v4) := none
  ipv6 : Ipv6Mode
  gateway6 : Option (Address .v6) := none
  pool4 : Pool .v4 := {}
  pool6 : Pool .v6 := {}
  entries : List Entry := []
  deriving DecidableEq

/-- The addressing of an interface in one family. -/
inductive InterfaceAddress (f : Family) where
  | disabled
  | dhcp
  | slaac
  | fixed (a : Address f)
  /-- The first address of a delegated subnet that is not known yet. -/
  | delegated
  deriving DecidableEq

namespace InterfaceAddress

variable {f : Family}

def fixed? : InterfaceAddress f → Option (Address f)
  | fixed a => some a
  | _ => none

def text : InterfaceAddress f → String
  | disabled => "disabled"
  | dhcp => "dhcp"
  | slaac => "slaac"
  | fixed a => a.text
  | delegated => "delegated"

end InterfaceAddress

/-- The addressing of an interface. -/
structure PlannedInterface where
  name : String
  switch : Option String := none
  vlan : Option String := none
  uplink : Option String := none
  ipv4 : InterfaceAddress .v4
  ipv4Length : Option Nat := none
  ipv4Gateway : Option (Address .v4) := none
  ipv6 : InterfaceAddress .v6
  ipv6Length : Option Nat := none
  mac : Option String := none
  firewallZone : Option String := none
  deriving DecidableEq

/-- The fixed addresses of an interface, IPv4 first. -/
def PlannedInterface.fixedAddresses (i : PlannedInterface) : List IpAddress :=
  (i.ipv4.fixed?.map IpAddress.v4).toList ++ (i.ipv6.fixed?.map IpAddress.v6).toList

/-- The addressing of a host. -/
structure PlannedHost where
  hostname : String
  interfaces : List PlannedInterface
  deriving DecidableEq

namespace PlannedHost

/-- The interfaces on the vlan with a name, up to its case. -/
def interfacesOn (h : PlannedHost) (vlan : String) : List PlannedInterface :=
  h.interfaces.filter fun i => i.vlan.any (Text.sameIgnoringCase · vlan)

/-- The fixed addresses on a vlan, IPv4 first. -/
def fixedAddressesOn (h : PlannedHost) (vlan : String) : List IpAddress :=
  let on := h.interfacesOn vlan
  on.filterMap (fun i => i.ipv4.fixed?.map IpAddress.v4) ++
    on.filterMap (fun i => i.ipv6.fixed?.map IpAddress.v6)

/-- The host has an interface on the vlan with exactly this name. -/
def isOn (h : PlannedHost) (vlan : String) : Bool :=
  h.interfaces.any (·.vlan == some vlan)

end PlannedHost

/-- The addressing of a site. -/
structure AddressPlan where
  vlans : List PlannedVlan
  hosts : List PlannedHost
  request : Option PrefixRequest
  deriving DecidableEq

namespace AddressPlan

/-- The first vlan with this name, up to its case. -/
def vlan? (p : AddressPlan) (name : String) : Option PlannedVlan :=
  p.vlans.find? fun v => Text.sameIgnoringCase v.name name

def host? (p : AddressPlan) (hostname : String) : Option PlannedHost :=
  p.hosts.find? (·.hostname == hostname)

end AddressPlan

end NetworkSite
