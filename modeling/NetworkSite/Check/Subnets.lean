/-
  Checks of subnets: they are well formed, pools fit into them, and no two of
  them overlap.

  `Vlan.subnet4?` and `Vlan.subnet6?` are the declared subnets that later
  checks go by; `Vlan.leased4?` and `Vlan.leased6?` the addresses leased there.
-/
import NetworkSite.Check.Finding
import NetworkSite.Data.Earlier
import NetworkSite.Net.Network
import NetworkSite.Net.Pool
import NetworkSite.Site.Basic

namespace NetworkSite

open Finding

namespace Vlan

/-- The declared IPv4 subnet. -/
def subnet4? (v : Vlan) : Option (Network .v4) :=
  Network.ofText? v.ipv4Subnet

/-- The declared IPv6 subnet, which holds interface identifiers of 64 bits. -/
def subnet6? (v : Vlan) : Option (Network .v6) :=
  v.explicitIpv6?.bind fun text => (Network.ofText? text).filter (·.length ≤ 64)

/-- The leased addresses of an IPv4 subnet, strictly between its base and its
    broadcast address. -/
def range4? (v : Vlan) (subnet : Network .v4) : Option (AddressRange .v4) :=
  if 0 < v.dhcp4First ∧ v.dhcp4First ≤ v.dhcp4Last ∧ v.dhcp4Last.toNat < subnet.size - 1 then
    match subnet.nth? v.dhcp4First.toNat, subnet.nth? v.dhcp4Last.toNat with
    | some first, some last => some { first, last }
    | _, _ => none
  else none

/-- The leased addresses of an IPv6 subnet, after its base. -/
def range6? (v : Vlan) (subnet : Network .v6) : Option (AddressRange .v6) :=
  if 0 < v.dhcp6First ∧ v.dhcp6First ≤ v.dhcp6Last then
    match subnet.nth? v.dhcp6First.toNat, subnet.nth? v.dhcp6Last.toNat with
    | some first, some last => some { first, last }
    | _, _ => none
  else none

/-- The IPv4 addresses that the vlan leases. -/
def leased4? (v : Vlan) : Option (AddressRange .v4) :=
  if v.allowDhcp then v.subnet4?.bind v.range4? else none

/-- The IPv6 addresses that the vlan leases. -/
def leased6? (v : Vlan) : Option (AddressRange .v6) :=
  if v.dhcp6Managed then v.subnet6?.bind v.range6? else none

/-- The text of the declared subnet of an address's family. -/
def subnetText? (v : Vlan) : IpAddress → Option String
  | .v4 _ => v.subnet4?.map (·.text)
  | .v6 _ => v.subnet6?.map (·.text)

/-- The address lies in a declared subnet of the vlan. -/
def holds (v : Vlan) : IpAddress → Bool
  | .v4 a => v.subnet4?.any (·.contains a)
  | .v6 a => v.subnet6?.any (·.contains a)

/-- The first and the last leased address of an address's family. -/
def leasedBounds? (v : Vlan) : IpAddress → Option (IpAddress × IpAddress)
  | .v4 _ => v.leased4?.map fun r => (.v4 r.first, .v4 r.last)
  | .v6 _ => v.leased6?.map fun r => (.v6 r.first, .v6 r.last)

/-- The subnet of a vlan overlaps none of the others. -/
def overlapFindings {f : Family} (v : Vlan) (subnet : Network f) (others : List (Vlan × Network f)) :
    List Finding :=
  others.flatMap fun (w, other) =>
    forbid (subnet.overlaps other) (.subnetOverlap v.name subnet.text w.name other.text)

/-- Findings on the IPv4 subnet; `earlier` are the vlans in front. -/
def subnet4Findings (earlier : List Vlan) (v : Vlan) : List Finding :=
  match (Network.ofText v.ipv4Subnet : Except NetworkError (Network .v4)) with
  | .error e => [.invalidField (.vlan v.name) "ipv4_subnet" e.message]
  | .ok subnet =>
    v.overlapFindings subnet (earlier.filterMap fun w => w.subnet4?.map (w, ·)) ++
      forbid (v.allowDhcp && (v.range4? subnet).isNone)
        (.poolOutOfSubnet v.name subnet.text v.dhcp4First.toNat v.dhcp4Last.toNat)

/-- Findings on the IPv6 subnet; `earlier` are the vlans in front. -/
def subnet6Findings (earlier : List Vlan) (v : Vlan) : List Finding :=
  match v.explicitIpv6? with
  | none => []
  | some text =>
    match (Network.ofText text : Except NetworkError (Network .v6)) with
    | .error e => [.invalidField (.vlan v.name) "ipv6_subnet" e.message]
    | .ok subnet =>
      if 64 < subnet.length then
        [.invalidField (.vlan v.name) "ipv6_subnet" s!"{subnet.text} is longer than /64"]
      else
        v.overlapFindings subnet (earlier.filterMap fun w => w.subnet6?.map (w, ·)) ++
          forbid (v.dhcp6Managed && (v.range6? subnet).isNone)
            (.poolOutOfSubnet v.name subnet.text v.dhcp6First.toNat v.dhcp6Last.toNat)

/-- A subnet out of the delegated prefix has a length from 1 to 64. -/
def lengthFindings (v : Vlan) : List Finding :=
  forbid (v.usesDelegation && !(1 ≤ v.ipv6Length && v.ipv6Length ≤ 64))
    (.invalidField (.vlan v.name) "ipv6_prefixlen" s!"/{v.ipv6Length} is not in /1-/64")

end Vlan

namespace Site

/-- Findings on subnets. -/
def subnetFindings (s : Site) : List Finding :=
  (withEarlier (s.vlans.map (·.2))).flatMap fun (earlier, v) =>
    v.subnet4Findings earlier ++ v.subnet6Findings earlier ++ v.lengthFindings

/-- The vlan whose subnets count for the name of `v`: the last one with it. -/
def namesake (s : Site) (v : Vlan) : Vlan :=
  (((s.vlans.map (·.2)).filter (·.name == v.name)).getLast?).getD v

end Site

end NetworkSite
