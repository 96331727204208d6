/-
  The addressing of hosts.

  A host has its declared interfaces.  The router gets one more on each
  routable vlan on which it declares none, and there holds the gateway
  addresses.
-/
import NetworkSite.Addressing.Vlans

namespace NetworkSite

namespace Interface

/-- The addressing of an uplink; outside the site nothing is known about the
    network. -/
def planUplink (i : Interface) (name : String) (mac : Option String) : PlannedInterface where
  name := name
  uplink := i.uplink
  ipv4 :=
    match i.ipv4 with
    | .fixed text => ((Address.ofText? text).map .fixed).getD .disabled
    | .dhcp | .slaac => .dhcp
  ipv4Length := i.ipv4Length
  ipv4Gateway := i.ipv4Gateway.bind Address.ofText?
  ipv6 :=
    if i.ipv6Disabled then .disabled
    else
      match i.ipv6 with
      | some (.fixed text) => ((Address.ofText? text).map .fixed).getD .disabled
      | some .dhcp => .dhcp
      | some .slaac | none => .slaac
  mac := mac
  firewallZone := some (i.firewallZone.getD "internet")

/-- The IPv4 addressing on a vlan. -/
def ipv4On (i : Interface) : InterfaceAddress .v4 :=
  match i.ipv4 with
  | .fixed text => ((Address.ofText? text).map .fixed).getD .disabled
  | .dhcp | .slaac => .dhcp

/-- The IPv6 addressing on a vlan; without a declared mode it is the one that
    the vlan offers. -/
def ipv6On (i : Interface) (v : Vlan) (mode : Ipv6Mode) : InterfaceAddress .v6 :=
  if i.ipv6Disabled || !mode.isEnabled then .disabled
  else
    match i.ipv6 with
    | some (.fixed text) => ((Address.ofText? text).map .fixed).getD .disabled
    | some .dhcp => .dhcp
    | some .slaac => .slaac
    | none => if v.dhcp6Managed then .dhcp else .slaac

end Interface

/-- A host owns the gateway addresses. -/
def Site.isRouter (s : Site) (h : Host) : Bool :=
  s.router?.any (·.hostname == h.hostname)

namespace Host

/-- The MAC address of an interface: the declared one; for a virtual machine
    without it a generated one. -/
def macOf (s : Site) (h : Host) (name : String) (i : Interface) : Option String :=
  match i.mac with
  | some text => Mac.normalize? text
  | none => if h.isVm then some (Mac.generate s.name h.hostname name) else none

/-- The vlan of an interface, as declared and as planned. -/
def vlanOf? (s : Site) (outlines : List PlannedVlan) (i : Interface) :
    Option (Switch × Vlan × PlannedVlan) := do
  let (switch, v) ← s.interfaceVlan? i
  let w ← outlines.find? (·.name == v.name)
  return (switch, v, w)

/-- The addressing of an interface on a vlan.  The router itself has no
    gateway. -/
def planOnVlan (s : Site) (h : Host) (name : String) (i : Interface) (switch : Switch) (v : Vlan)
    (w : PlannedVlan) : PlannedInterface where
  name := name
  switch := some switch.name
  vlan := some v.name
  ipv4 := i.ipv4On
  ipv4Length := some w.subnet4.length
  ipv4Gateway := if s.isRouter h then none else w.gateway4
  ipv6 := i.ipv6On v w.ipv6
  ipv6Length := w.ipv6.length?
  mac := h.macOf s name i
  firewallZone := some (i.firewallZone.getD v.name)

/-- The addressing of a declared interface, if it can be placed. -/
def planInterface? (s : Site) (outlines : List PlannedVlan) (h : Host) (name : String)
    (i : Interface) : Option PlannedInterface :=
  if i.isUplink then some (i.planUplink name (h.macOf s name i))
  else
    (vlanOf? s outlines i).map fun (switch, v, w) => h.planOnVlan s name i switch v w

/-- The addressing of the declared interfaces. -/
def planDeclared (s : Site) (outlines : List PlannedVlan) (h : Host) : List PlannedInterface :=
  h.namedInterfaces.filterMap fun (name, i) => h.planInterface? s outlines name i

end Host

namespace PlannedVlan

/-- The interface of the router that holds the gateway addresses of a vlan. -/
def gatewayInterface (w : PlannedVlan) : PlannedInterface where
  name :=
    match w.id with
    | some id => s!"{w.switch}.{id}"
    | none => w.switch
  switch := some w.switch
  vlan := some w.name
  ipv4 := (w.gateway4.map .fixed).getD .disabled
  ipv4Length := some w.subnet4.length
  ipv6 :=
    match w.gateway6 with
    | some a => .fixed a
    | none => if w.ipv6.isDelegated then .delegated else .disabled
  ipv6Length := w.ipv6.length?
  firewallZone := some w.name

/-- The entry of an interface with a fixed address on the vlan.  The router's
    gateway address has an entry already. -/
def interfaceEntry? (w : PlannedVlan) (isRouter : Bool) (hostname : String) (i : PlannedInterface) :
    Option Entry :=
  let ipv4 := i.ipv4.fixed?
  let ipv6 := i.ipv6.fixed?
  if (ipv4.isSome || ipv6.isSome) && !(isRouter && ipv4.isSome && ipv4 == w.gateway4) then
    some { hostname, kind := .interface, ipv4, ipv6, mac := i.mac }
  else none

end PlannedVlan

/-- The interfaces of a router beside its declared ones: one for each routable
    vlan that has none of these.  Of vlans with one name only the first counts. -/
def gatewayInterfaces (outlines : List PlannedVlan) (declared : List PlannedInterface) :
    List PlannedInterface :=
  ((withEarlier (outlines.filter (·.routable))).filter fun (before, w) =>
    !(declared.any (·.vlan == some w.name)) && !(before.any (·.name == w.name))).map
      (·.2.gatewayInterface)

namespace Site

/-- The addressing of a host. -/
def planHost (s : Site) (outlines : List PlannedVlan) (h : Host) : PlannedHost where
  hostname := h.hostname
  interfaces :=
    let declared := h.planDeclared s outlines
    declared ++ if s.isRouter h then gatewayInterfaces outlines declared else []

/-- The entries of a host on a vlan. -/
def hostEntries (s : Site) (outlines : List PlannedVlan) (w : PlannedVlan) (h : Host) : List Entry :=
  ((h.planDeclared s outlines).filter (·.vlan == some w.name)).filterMap
    (w.interfaceEntry? (s.isRouter h) h.hostname)

end Site

end NetworkSite
