/-
  Switches and their vlans.

  A vlan has an IPv6 subnet of its own if one is given (`explicitIpv6?`), or
  takes one out of the prefix that is delegated to the router
  (`usesDelegation`).
-/
import NetworkSite.Duration
import NetworkSite.Text.Case

namespace NetworkSite

/-- A reference to a vlan by its number or its name. -/
inductive VlanRef where
  | id (id : Nat)
  | name (name : String)
  deriving DecidableEq

namespace VlanRef

def text : VlanRef → String
  | id n => s!"{n}"
  | name s => s

/-- The name that stands for every vlan. -/
def isAll : VlanRef → Bool
  | id _ => false
  | name s => Text.sameIgnoringCase s "all"

end VlanRef

/-- A host with a fixed address that the site does not provision. -/
structure StaticHost where
  hostname : String
  ipv4 : String
  ipv6 : Option String := none
  aliases : List String := []
  deriving DecidableEq

/-- A lease that is reserved for a MAC address. -/
structure Reservation where
  hostname : String
  mac : String
  ipv4 : Option String := none
  ipv6 : Option String := none
  aliases : List String := []
  deriving DecidableEq

/-- A broadcast domain with its addresses and its policy. -/
structure Vlan where
  name : String
  /-- The tag of its frames; untagged without one. -/
  id : Option Nat := none
  /-- The router has an interface on it. -/
  routable : Bool := true
  domain : String := ""
  /-- Interfaces that name no vlan may land here. -/
  isDefault : Bool := false
  ipv4Subnet : String
  ipv6Subnet : Option String := none
  ipv6Disabled : Bool := false
  /-- Takes its IPv6 subnet out of the delegated prefix. -/
  ipv6Delegated : Bool := false
  /-- The index of its subnet within the delegated prefix. -/
  delegationIndex : Option Nat := none
  /-- The prefix length of a subnet out of the delegated prefix. -/
  ipv6Length : Nat := 64
  /-- IPv4 addresses are leased on it. -/
  allowDhcp : Bool := true
  /-- IPv6 addresses are leased on it. -/
  dhcp6Managed : Bool := false
  /-- Offsets of the first and the last leased address in the subnet. -/
  dhcp4First : UInt32 := 16
  dhcp4Last : UInt32 := 252
  dhcp6First : UInt64 := 16
  dhcp6Last : UInt64 := 0xffff
  leaseTime : Duration := { seconds := 3600 }
  allowInternet : Bool := false
  allowDnsUpdate : Bool := false
  /-- Vlans that it may reach without restriction. -/
  accessVlans : List VlanRef := []
  staticHosts : List StaticHost := []
  reservations : List Reservation := []
  deriving DecidableEq

namespace Vlan

/-- The vlan takes its IPv6 subnet out of the delegated prefix. -/
def usesDelegation (v : Vlan) : Bool :=
  !v.ipv6Disabled && v.ipv6Subnet.isNone && (v.ipv6Delegated || v.delegationIndex.isSome)

/-- The vlan has IPv6 addresses of either kind. -/
def hasIpv6 (v : Vlan) : Bool :=
  !v.ipv6Disabled && (v.ipv6Subnet.isSome || v.usesDelegation)

/-- The text of the vlan's own IPv6 subnet. -/
def explicitIpv6? (v : Vlan) : Option String :=
  if v.ipv6Disabled then none else v.ipv6Subnet

/-- The vlan is the one that a reference names. -/
def isNamedBy (v : Vlan) : VlanRef → Bool
  | .id n => v.id == some n
  | .name s => Text.sameIgnoringCase v.name s

end Vlan

/-- A virtual switch with its vlans. -/
structure Switch where
  name : String
  /-- The physical interface that the switch is bridged to. -/
  uplink : Option String := none
  vlans : List Vlan
  deriving DecidableEq

namespace Switch

/-- The first vlan of the switch that a reference names. -/
def findVlan? (s : Switch) (ref : VlanRef) : Option Vlan :=
  s.vlans.find? (·.isNamedBy ref)

/-- The first untagged vlan of the switch. -/
def untagged? (s : Switch) : Option Vlan :=
  s.vlans.find? (·.id.isNone)

/-- The vlan for interfaces that name none: the untagged one, else the default
    one, else the only one. -/
def fallbackVlan? (s : Switch) : Option Vlan :=
  match s.untagged? with
  | some v => some v
  | none =>
    match s.vlans.find? (·.isDefault) with
    | some v => some v
    | none =>
      match s.vlans with
      | [v] => some v
      | _ => none

end Switch

end NetworkSite
