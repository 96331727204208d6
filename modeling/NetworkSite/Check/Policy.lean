/-
  Checks of the firewall policy: address sets and the references of rules.

  `Site.hasNameOn` says which names a locator may use on a vlan.
-/
import NetworkSite.Check.Interfaces

namespace NetworkSite

open Finding

namespace IpSet

/-- Findings on a set; `before` are the sets in front of it. -/
def findings (before : List IpSet) (set : IpSet) : List Finding :=
  let place := Place.ipset set.name
  let families := set.addresses.filterMap Family.ofText?
  forbid (before.any (·.name == set.name)) (.duplicateName "ipset" set.name) ++
    forbid set.addresses.isEmpty
      (.invalidField place "addresses" "an ipset needs at least one address") ++
    set.addresses.flatMap (fun text =>
      require (Family.ofText? text).isSome
        (.invalidField place "addresses" s!"'{text}' is not an address or network")) ++
    forbid (families.contains .v4 && families.contains .v6)
      (.invalidField place "addresses" "mixes IPv4 and IPv6 entries")

end IpSet

/-! ## Names -/

namespace Host

/-- A host goes by its name, its aliases and, as router, the alias of the
    router. -/
def answersTo (h : Host) (name : String) : Bool :=
  Text.sameIgnoringCase h.hostname name || h.aliases.any (Text.sameIgnoringCase · name) ||
    (h.hasRole .router && Text.sameIgnoringCase Site.routerAlias name)

/-- The host has an interface on the vlan with this name, or its gateway. -/
def isOn (s : Site) (v : Vlan) (h : Host) : Bool :=
  (h.hasRole .router && v.routable) ||
    h.interfaces.any fun i => (s.interfaceVlan? i).any fun (_, w) => w.name == v.name

end Host

namespace Site

/-- A name of a host, a static host or a reservation on a vlan, up to its
    case. -/
def hasNameOn (s : Site) (v : Vlan) (name : String) : Bool :=
  let isIt (other : String) := Text.sameIgnoringCase other name
  v.staticHosts.any (fun h => isIt h.hostname || h.aliases.any isIt) ||
    v.reservations.any (fun r => isIt r.hostname || r.aliases.any isIt) ||
    s.hosts.any fun h => h.answersTo name && h.isOn s v

end Site

/-! ## Locators -/

namespace Locator

/-- The addresses of a locator that can be read. -/
def addresses (l : Locator) : List IpAddress :=
  (l.ipv4.bind fun text => (Address.ofText? text).map IpAddress.v4).toList ++
    (l.ipv6.bind fun text => (Address.ofText? text).map IpAddress.v6).toList

/-- Findings on the ways in which a locator is narrowed. -/
def narrowingFindings (s : Site) (place : Place) (l : Locator) : List Finding :=
  forbid (1 < l.narrowings)
      (.invalidField place "locator" s!"'{l.vlan.text}' is narrowed more than once") ++
    (l.ipset.toList.flatMap fun name =>
      require (s.policy.hasIpSet name) (.unknownReference place "ipset" name)) ++
    l.ipv4.toList.flatMap (addressFindings .v4 place "ipv4_address") ++
    l.ipv6.toList.flatMap (addressFindings .v6 place "ipv6_address")

/-- Findings on a locator outside the site: its addresses lie in no vlan. -/
def outsideFindings (s : Site) (place : Place) (l : Locator) : List Finding :=
  forbid l.hostname.isSome (.invalidField place "hostname" "the internet has no named hosts") ++
    l.addresses.flatMap fun a =>
      match s.vlans.find? fun (_, v) => (s.namesake v).holds a with
      | some (_, v) => [.internetAddressInVlan place a v.name]
      | none => []

/-- Findings on a locator on a vlan: the vlan and the name on it exist, and the
    addresses lie in its subnets. -/
def vlanFindings (s : Site) (place : Place) (ref : VlanRef) (l : Locator) : List Finding :=
  match s.lookupVlan? l.switch ref with
  | none => [.unknownReference place "vlan" ref.text]
  | some (_, v) =>
    (l.hostname.toList.flatMap fun name =>
      require (s.hasNameOn v name) (.unknownReference place "host" s!"{v.name}/{name}")) ++
    l.addresses.flatMap (Interface.insideFindings place (s.namesake v))

/-- Findings on a locator. -/
def findings (s : Site) (place : Place) (l : Locator) : List Finding :=
  l.narrowingFindings s place ++
    match l.scope with
    | .all | .firewall =>
      forbid l.isNarrowed (.invalidField place "locator" s!"'{l.vlan.text}' cannot be narrowed")
    | .internet => l.outsideFindings s place
    | .vlan ref => l.vlanFindings s place ref

end Locator

/-! ## Rules -/

namespace Rule

/-- The place of the rule with an index. -/
def place (index : Nat) (r : Rule) : Place :=
  if r.comment.isEmpty then .ruleNumber (index + 1) else .rule r.comment

/-- Findings on the rule with an index. -/
def findings (s : Site) (index : Nat) (r : Rule) : List Finding :=
  let place := r.place index
  forbid r.sources.isEmpty (.invalidField place "sources" "at least one source is required") ++
    forbid r.destinations.isEmpty
      (.invalidField place "destinations" "at least one destination is required") ++
    (r.sources ++ r.destinations).flatMap (·.findings s place)

end Rule

/-- Findings on the policy. -/
def Site.policyFindings (s : Site) : List Finding :=
  ((withEarlier s.policy.ipsets).flatMap fun (before, set) => set.findings before) ++
    s.policy.rules.zipIdx.flatMap fun (r, index) => r.findings s index

end NetworkSite
