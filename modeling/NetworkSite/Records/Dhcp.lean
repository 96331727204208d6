/-
  DHCP settings of a site: the subnets with leased addresses, and the leases
  that are reserved.
-/
import NetworkSite.Addressing.Plan

namespace NetworkSite

/-- The settings of one vlan for one family. -/
structure DhcpSubnet (f : Family) where
  vlan : String
  subnet : Network f
  pool : Pool f
  gateway : Option (Address f)
  dnsServers : List (Address f)
  domain : String
  leaseSeconds : Nat
  deriving DecidableEq

/-- A text, or `-` for the empty one. -/
def orDash (s : String) : String :=
  if s.isEmpty then "-" else s

namespace DhcpSubnet

variable {f : Family}

def line (d : DhcpSubnet f) : String :=
  "\t".intercalate [
    d.vlan,
    d.subnet.text,
    ",".intercalate (d.pool.ranges.map (·.text)),
    (d.gateway.map (·.text)).getD "-",
    orDash (",".intercalate (d.dnsServers.map (·.text))),
    orDash d.domain,
    s!"{d.leaseSeconds}"]

end DhcpSubnet

/-- A lease that is reserved for a MAC address. -/
structure DhcpReservation where
  vlan : String
  hostname : String
  mac : String
  ipv4 : Option (Address .v4)
  ipv6 : Option (Address .v6)
  deriving DecidableEq

def DhcpReservation.line (r : DhcpReservation) : String :=
  "\t".intercalate
    [r.vlan, r.hostname, r.mac, (r.ipv4.map (·.text)).getD "-", (r.ipv6.map (·.text)).getD "-"]

/-- The DHCP settings of a site. -/
structure DhcpSettings where
  subnets4 : List (DhcpSubnet .v4)
  subnets6 : List (DhcpSubnet .v6)
  reservations : List DhcpReservation
  deriving DecidableEq

namespace Site

/-! ## Name servers -/

/-- The addresses of name servers on a vlan. -/
def dnsServersOn (s : Site) (p : AddressPlan) (w : PlannedVlan) : List IpAddress :=
  ((s.hostsWithRole .dns).filterMap fun h => p.host? h.hostname).flatMap (·.fixedAddressesOn w.name)

/-- The addresses of name servers for a vlan: those on the vlan itself, or else,
    on a routable vlan, those on all routable ones. -/
def dnsServersFor (s : Site) (p : AddressPlan) (w : PlannedVlan) : List IpAddress :=
  match s.dnsServersOn p w with
  | [] => if w.routable then (p.vlans.filter (·.routable)).flatMap (s.dnsServersOn p) else []
  | servers => servers

/-! ## Settings -/

/-- The IPv4 settings of a vlan, if it leases addresses. -/
def dhcpSubnet4? (s : Site) (p : AddressPlan) (v : Vlan) (w : PlannedVlan) : Option (DhcpSubnet .v4) :=
  if w.pool4.isEmpty then none
  else
    some {
      vlan := w.name
      subnet := w.subnet4
      pool := w.pool4
      gateway := w.gateway4
      dnsServers := (s.dnsServersFor p w).filterMap (·.inFamily? .v4)
      domain := w.domain
      leaseSeconds := v.leaseTime.seconds }

/-- The IPv6 settings of a vlan, if it leases addresses.  Routers announce
    themselves, so no gateway is given. -/
def dhcpSubnet6? (s : Site) (p : AddressPlan) (v : Vlan) (w : PlannedVlan) : Option (DhcpSubnet .v6) := do
  let subnet ← w.ipv6.subnet?
  if w.pool6.isEmpty then none
  else
    some {
      vlan := w.name
      subnet
      pool := w.pool6
      gateway := none
      dnsServers := (s.dnsServersFor p w).filterMap (·.inFamily? .v6)
      domain := w.domain
      leaseSeconds := v.leaseTime.seconds }

end Site

/-- The reserved leases of a vlan. -/
def PlannedVlan.dhcpReservations (w : PlannedVlan) : List DhcpReservation :=
  (w.entries.filter (·.kind == .reservation)).filterMap fun e =>
    e.mac.map fun mac =>
      { vlan := w.name, hostname := e.hostname, mac, ipv4 := e.ipv4, ipv6 := e.ipv6 }

namespace Site

/-- Each vlan of a site with its addressing. -/
def vlansWithPlan (s : Site) (p : AddressPlan) : List (Vlan × PlannedVlan) :=
  s.vlans.filterMap fun (_, v) => (p.vlan? v.name).map (v, ·)

/-- The DHCP settings of all vlans. -/
def dhcpSettings (s : Site) (p : AddressPlan) : DhcpSettings :=
  let vlans := s.vlansWithPlan p
  { subnets4 := vlans.filterMap fun (v, w) => s.dhcpSubnet4? p v w
    subnets6 := vlans.filterMap fun (v, w) => s.dhcpSubnet6? p v w
    reservations := vlans.flatMap (·.2.dhcpReservations) }

end Site

end NetworkSite
