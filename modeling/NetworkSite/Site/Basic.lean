/-
  A site: its switches, its policy and its hosts, and how names in it are
  looked up.
-/
import NetworkSite.Site.Host
import NetworkSite.Site.Policy

namespace NetworkSite

/-- The definition of a site. -/
structure Site where
  name : String := ""
  domain : String := ""
  timezone : String := "UTC"
  ntpServers : List String := ["0.pool.ntp.org", "1.pool.ntp.org", "2.pool.ntp.org", "3.pool.ntp.org"]
  externalDns : List String := ["8.8.8.8", "9.9.9.9", "1.1.1.1"]
  /-- The first index for vlans that take a delegated subnet without naming its
      index. -/
  firstDelegationIndex : Nat := 0
  switches : List Switch
  policy : Policy := {}
  hosts : List Host := []
  deriving DecidableEq

namespace Site

/-- All vlans with their switches, in order. -/
def vlans (s : Site) : List (Switch × Vlan) :=
  s.switches.flatMap fun switch => switch.vlans.map fun vlan => (switch, vlan)

def routableVlans (s : Site) : List (Switch × Vlan) :=
  s.vlans.filter (·.2.routable)

def findSwitch? (s : Site) (name : String) : Option Switch :=
  s.switches.find? (·.name == name)

/-- The first vlan with this name, up to its case. -/
def findVlan? (s : Site) (name : String) : Option (Switch × Vlan) :=
  s.vlans.find? fun (_, vlan) => Text.sameIgnoringCase vlan.name name

/-- The vlan that a reference names, on one switch if that is given.  Without a
    switch the reference must name a vlan on exactly one switch. -/
def lookupVlan? (s : Site) (switch : Option String) (ref : VlanRef) : Option (Switch × Vlan) :=
  match switch with
  | some name => (s.findSwitch? name).bind fun switch => (switch.findVlan? ref).map (switch, ·)
  | none =>
    match s.switches.filterMap fun switch => (switch.findVlan? ref).map (switch, ·) with
    | [found] => some found
    | _ => none

/-- The first vlan that is marked as default. -/
def defaultVlan? (s : Site) : Option (Switch × Vlan) :=
  s.vlans.find? (·.2.isDefault)

/-- The vlan that an interface is attached to. -/
def interfaceVlan? (s : Site) (i : Interface) : Option (Switch × Vlan) := do
  let switch ← s.findSwitch? (← i.switch)
  let vlan ←
    match i.vlan with
    | some ref => switch.findVlan? ref
    | none => switch.fallbackVlan?
  return (switch, vlan)

def findHost? (s : Site) (hostname : String) : Option Host :=
  s.hosts.find? (·.hostname == hostname)

def hostsWithRole (s : Site) (r : Role) : List Host :=
  s.hosts.filter (·.hasRole r)

/-- The first host with the role of router. -/
def router? (s : Site) : Option Host :=
  (s.hostsWithRole .router).head?

/-- Who owns the gateway addresses: the router, if there is one. -/
def gatewayOwner (s : Site) : String :=
  match s.router? with
  | some router => router.hostname
  | none => "gateway"

/-- The alias under which the router's gateway address is known on each vlan. -/
def routerAlias : String := "router"

/-- The full name of a host in a domain; the site's domain stands for an empty
    one. -/
def fullName (s : Site) (hostname domain : String) : String :=
  let domain := if domain.isEmpty then s.domain else domain
  if domain.isEmpty then hostname else s!"{hostname}.{domain}"

end Site

end NetworkSite
