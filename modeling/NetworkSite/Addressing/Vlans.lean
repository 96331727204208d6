/-
  The addressing of vlans, before hosts are placed on them.

  `Site.vlanOutline?` holds subnets, gateways and the entries that the vlan
  itself declares; a vlan without a readable IPv4 subnet has none.
-/
import NetworkSite.Addressing.Plan
import NetworkSite.Net.Mac

namespace NetworkSite

namespace Vlan

/-- How the vlan gets its IPv6 subnet: an explicit one goes before a delegated
    one. -/
def ipv6Mode (v : Vlan) (share : Option DelegatedSubnet) : Ipv6Mode :=
  match v.explicitIpv6? with
  | some text =>
    match (Network.ofText? text : Option (Network .v6)) with
    | some subnet => .fixed subnet
    | none => .none
  | none =>
    match share with
    | some share => .delegated share
    | none => .none

/-- Subnets that cannot be read.  The IPv6 subnet does not count where the IPv4
    subnet is unreadable. -/
def subnetErrors (v : Vlan) : List AddressingError :=
  match (Network.ofText v.ipv4Subnet : Except NetworkError (Network .v4)), v.explicitIpv6? with
  | .error e, _ => [.badSubnet v.name e]
  | .ok _, none => []
  | .ok _, some text =>
    match (Network.ofText text : Except NetworkError (Network .v6)) with
    | .error e => [.badSubnet v.name e]
    | .ok _ => []

end Vlan

/-! ## Entries -/

def StaticHost.entry (h : StaticHost) : Entry :=
  { hostname := h.hostname
    kind := .staticHost
    ipv4 := Address.ofText? h.ipv4
    ipv6 := h.ipv6.bind Address.ofText?
    aliases := h.aliases }

def Reservation.entry (r : Reservation) : Entry :=
  { hostname := r.hostname
    kind := .reservation
    ipv4 := r.ipv4.bind Address.ofText?
    ipv6 := r.ipv6.bind Address.ofText?
    mac := Mac.normalize? r.mac
    aliases := r.aliases }

/-- The entries that the vlan declares. -/
def Vlan.entries (v : Vlan) : List Entry :=
  v.staticHosts.map (·.entry) ++ v.reservations.map (·.entry)

/-- The entry of a router on a vlan, which holds the gateway addresses. -/
def Host.gatewayEntry (router : Host) (gateway4 : Option (Address .v4))
    (gateway6 : Option (Address .v6)) : Entry :=
  { hostname := router.hostname
    kind := .gateway
    ipv4 := gateway4
    ipv6 := gateway6
    aliases := [Site.routerAlias] }

namespace Site

/-- The domain of names on a vlan. -/
def domainOf (s : Site) (v : Vlan) : String :=
  if v.domain.isEmpty then s.domain else v.domain

/-- The addressing of a vlan on its IPv4 subnet, without hosts and pools. -/
def outlineOn (s : Site) (d : Delegation) (switch : Switch) (v : Vlan) (subnet4 : Network .v4) :
    PlannedVlan :=
  let ipv6 := v.ipv6Mode (d.get? v.name)
  let gateway4 := if v.routable then subnet4.gateway? else none
  let gateway6 := if v.routable then ipv6.subnet?.bind (·.gateway?) else none
  { name := v.name
    switch := switch.name
    id := v.id
    routable := v.routable
    domain := s.domainOf v
    subnet4, gateway4, ipv6, gateway6
    entries :=
      (if v.routable then s.router?.toList.map (·.gatewayEntry gateway4 gateway6) else []) ++
        v.entries }

/-- The addressing of a vlan without hosts and pools. -/
def vlanOutline? (s : Site) (d : Delegation) (switch : Switch) (v : Vlan) : Option PlannedVlan :=
  (Network.ofText? v.ipv4Subnet).map (s.outlineOn d switch v)

/-- The addressing of all vlans without hosts and pools. -/
def vlanOutlines (s : Site) (d : Delegation) : List PlannedVlan :=
  s.vlans.filterMap fun (switch, v) => s.vlanOutline? d switch v

end Site

end NetworkSite
