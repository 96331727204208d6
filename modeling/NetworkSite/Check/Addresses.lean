/-
  Checks of addresses: every fixed address lies in its subnet and outside the
  pool, and has one owner in the whole site.

  The gateways are claimed first.  Then vlan by vlan the entries, and last the
  interfaces of hosts claim their addresses; the findings come in that order.
-/
import NetworkSite.Check.Hosts
import NetworkSite.Check.Interfaces
import NetworkSite.Net.Registry

namespace NetworkSite

open Finding

/-- One step of the check of addresses. -/
abbrev AddressStep := ClaimStep Finding

namespace Site

/-- The gateways of the routable vlans. -/
def gateways (s : Site) : List IpAddress :=
  s.routableVlans.flatMap fun (_, v) =>
    let networks := s.namesake v
    ((networks.subnet4?.bind (·.gateway?)).map IpAddress.v4).toList ++
      ((networks.subnet6?.bind (·.gateway?)).map IpAddress.v6).toList

/-- The registry in which the gateways are claimed. -/
def gatewayRegistry (s : Site) : Registry :=
  s.gateways.foldl (fun r a => r.tryClaim a s.gatewayOwner) Registry.empty

/-- The address is free of the pool of its vlan. -/
def poolFindings (s : Site) (v : Vlan) (a : IpAddress) (owner : String) : List Finding :=
  match (s.namesake v).leasedBounds? a with
  | some (first, last) =>
    forbid (first ≤ a && a ≤ last) (.addressInPool v.name a owner first last)
  | none => []

/-- The steps of an owner that takes an address on a vlan.  An address outside
    the subnet is not claimed. -/
def claimSteps (s : Site) (v : Vlan) (a : IpAddress) (owner : String) : List AddressStep :=
  match Interface.insideFindings (.entry v.name owner) (s.namesake v) a with
  | [] =>
    (s.poolFindings v a owner).map .remark ++ [.claim a owner fun other => .duplicateAddress a owner other]
  | findings => findings.map .remark

/-! ## Entries of vlans -/

/-- No earlier name on the vlan is the same up to its case. -/
def entryNameFindings (v : Vlan) (taken : List String) (name : String) : List Finding :=
  forbid (taken.any fun other => Text.lower other == Text.lower name)
    (.duplicateName "vlan hostname" s!"{v.name}/{name}")

/-- Findings on the aliases of an entry; `taken` are the names in front. -/
def entryAliasFindings (place : Place) (v : Vlan) (taken : List String) : List String → List Finding
  | [] => []
  | name :: rest =>
    aliasFindings place name ++ entryNameFindings v taken name ++
      entryAliasFindings place v (taken ++ [name]) rest

/-- Findings on the names of an entry; `taken` are the names in front. -/
def entryFindings (place : Place) (v : Vlan) (taken : List String) (hostname : String)
    (aliases : List String) : List Finding :=
  require (Text.isHostname hostname) (.invalidField place "hostname" "not a valid DNS label") ++
    entryNameFindings v taken hostname ++ entryAliasFindings place v (taken ++ [hostname]) aliases

/-- The steps of an entry that takes an IPv4 address. -/
def entry4Steps (s : Site) (place : Place) (v : Vlan) (owner text : String) : List AddressStep :=
  match (Address.ofText? text : Option (Address .v4)) with
  | some a => s.claimSteps v (.v4 a) owner
  | none => [.remark (.invalidField place "ipv4_address" s!"'{text}' is not an IPv4 address")]

/-- The steps of an entry that takes an IPv6 address. -/
def entry6Steps (s : Site) (place : Place) (v : Vlan) (owner text : String) : List AddressStep :=
  match (Address.ofText? text : Option (Address .v6)) with
  | none => [.remark (.invalidField place "ipv6_address" s!"'{text}' is not an IPv6 address")]
  | some a =>
    if (s.namesake v).subnet6?.isNone then
      [.remark (.invalidField place "ipv6_address" s!"vlan '{v.name}' has no explicit IPv6 subnet")]
    else s.claimSteps v (.v6 a) owner

end Site

def StaticHost.names (h : StaticHost) : List String :=
  h.hostname :: h.aliases

def Reservation.names (r : Reservation) : List String :=
  r.hostname :: r.aliases

namespace Site

def staticHostSteps (s : Site) (v : Vlan) (taken : List String) (h : StaticHost) : List AddressStep :=
  let place := Place.staticHost v.name h.hostname
  (entryFindings place v taken h.hostname h.aliases).map .remark ++
    s.entry4Steps place v h.hostname h.ipv4 ++
    h.ipv6.toList.flatMap (s.entry6Steps place v h.hostname)

def reservationSteps (s : Site) (v : Vlan) (taken : List String) (r : Reservation) : List AddressStep :=
  let place := Place.reservation v.name r.hostname
  (entryFindings place v taken r.hostname r.aliases).map .remark ++
    (Interface.macFindings place r.mac).map .remark ++
    r.ipv4.toList.flatMap (s.entry4Steps place v r.hostname) ++
    r.ipv6.toList.flatMap (s.entry6Steps place v r.hostname)

/-- The steps of the entries of a vlan. -/
def vlanSteps (s : Site) (v : Vlan) : List AddressStep :=
  ((withEarlier v.staticHosts).flatMap fun (before, h) =>
    s.staticHostSteps v (before.flatMap (·.names)) h) ++
  ((withEarlier v.reservations).flatMap fun (before, r) =>
    s.reservationSteps v (v.staticHosts.flatMap (·.names) ++ before.flatMap (·.names)) r)

/-! ## Interfaces -/

/-- The steps of a host that takes an address, if that lies in the subnet; one
    outside is a finding of the interface. -/
def innerSteps (s : Site) (v : Vlan) (owner : String) (a : IpAddress) : List AddressStep :=
  if (s.namesake v).holds a then s.claimSteps v a owner else []

/-- The fixed addresses of an interface. -/
def fixedAddresses (i : Interface) : List IpAddress :=
  (match i.ipv4 with
    | .fixed text => (Address.ofText? text).toList.map .v4
    | _ => []) ++
  (match i.ipv6 with
    | some (.fixed text) => (Address.ofText? text).toList.map .v6
    | _ => [])

/-- The steps of the interfaces of a host on vlans. -/
def hostSteps (s : Site) (h : Host) : List AddressStep :=
  (h.interfaces.filter (!·.isUplink)).flatMap fun i =>
    match s.interfaceVlan? i with
    | some (_, v) => (fixedAddresses i).flatMap (s.innerSteps v h.hostname)
    | none => []

/-! ## All addresses -/

/-- All steps in order. -/
def addressSteps (s : Site) : List AddressStep :=
  s.vlans.flatMap (fun (_, v) => s.vlanSteps v) ++ s.hosts.flatMap s.hostSteps

/-- Findings on addresses. -/
def addressFindings (s : Site) : List Finding :=
  (s.gatewayRegistry.run s.addressSteps).1

end Site

end NetworkSite
