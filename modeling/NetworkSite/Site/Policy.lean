/-
  The declared firewall policy.
-/
import NetworkSite.Site.Vlan

namespace NetworkSite

/-- A port number, or a port range as text. -/
inductive PortValue where
  | number (n : Int)
  | text (s : String)
  deriving DecidableEq

namespace PortValue

def toText : PortValue → String
  | number n => s!"{n}"
  | text s => s

end PortValue

/-- One port value or a list of them. -/
inductive PortSpec where
  | one (value : PortValue)
  | many (values : List PortValue)
  deriving DecidableEq

namespace PortSpec

def values : PortSpec → List PortValue
  | one value => [value]
  | many values => values

end PortSpec

/-- A service by name, or a protocol with ports. -/
inductive ServiceSpec where
  | named (name : String)
  | ports (protocol : String) (ports : PortSpec) (comment : String)
  deriving DecidableEq

/-- A source or destination of a rule.  The vlan may be one of the names `all`,
    `internet` and `firewall`; a hostname, a set or an address narrows it. -/
structure Locator where
  vlan : VlanRef
  switch : Option String := none
  hostname : Option String := none
  ipset : Option String := none
  ipv4 : Option String := none
  ipv6 : Option String := none
  deriving DecidableEq

/-- What the vlan of a locator stands for. -/
inductive Scope where
  /-- Every routable vlan. -/
  | all
  /-- Everything outside the site. -/
  | internet
  /-- The router itself. -/
  | firewall
  | vlan (ref : VlanRef)
  deriving DecidableEq

namespace Locator

/-- The locator of a whole vlan. -/
def ofVlan (name : String) : Locator :=
  { vlan := .name name }

def everywhere : Locator := ofVlan "all"

def outside : Locator := ofVlan "internet"

def router : Locator := ofVlan "firewall"

/-- The locator of a host on a vlan. -/
def ofHost (vlan hostname : String) : Locator :=
  { vlan := .name vlan, hostname := some hostname }

def scope (l : Locator) : Scope :=
  match l.vlan with
  | .id n => .vlan (.id n)
  | .name s =>
    if Text.sameIgnoringCase s "all" then .all
    else if Text.sameIgnoringCase s "internet" then .internet
    else if Text.sameIgnoringCase s "firewall" then .firewall
    else .vlan (.name s)

/-- The ways in which the locator is narrowed. -/
def narrowings (l : Locator) : Nat :=
  [l.hostname.isSome, l.ipset.isSome, l.ipv4.isSome, l.ipv6.isSome].countP id

/-- The locator stands for less than a whole vlan. -/
def isNarrowed (l : Locator) : Bool :=
  0 < l.narrowings

/-- The locator as errors show it. -/
def text (l : Locator) : String :=
  match l.hostname, l.ipset, l.ipv4, l.ipv6 with
  | some hostname, _, _, _ => s!"{l.vlan.text}/{hostname}"
  | none, some ipset, _, _ => s!"{l.vlan.text}:+{ipset}"
  | none, none, some address, _ => s!"{l.vlan.text}:{address}"
  | none, none, none, some address => s!"{l.vlan.text}:{address}"
  | none, none, none, none => l.vlan.text

end Locator

/-- A declared rule. -/
structure Rule where
  comment : String := ""
  sources : List Locator
  destinations : List Locator
  allowAll : Bool := false
  allow : List ServiceSpec := []
  forward : List ServiceSpec := []
  deriving DecidableEq

/-- What a rule does. -/
inductive RuleAction where
  | allowAll
  | allow (services : List ServiceSpec)
  | forward (services : List ServiceSpec)
  | none
  deriving DecidableEq

namespace Rule

/-- Allowing all goes before allowing services, and that before forwarding. -/
def action (r : Rule) : RuleAction :=
  if r.allowAll then .allowAll
  else if !r.allow.isEmpty then .allow r.allow
  else if !r.forward.isEmpty then .forward r.forward
  else .none

/-- The rule that allows everything between two places. -/
def opening (comment : String) (source destination : Locator) : Rule :=
  { comment, sources := [source], destinations := [destination], allowAll := true }

/-- The rule that allows named services. -/
def serving (comment : String) (source : Locator) (destinations : List Locator)
    (services : List String) : Rule :=
  { comment, sources := [source], destinations, allow := services.map .named }

end Rule

/-- A named set of addresses or networks of one family. -/
structure IpSet where
  name : String
  addresses : List String
  deriving DecidableEq

/-- The firewall section of a site. -/
structure Policy where
  ipsets : List IpSet := []
  rules : List Rule := []
  deriving DecidableEq

/-- A set with this name is declared. -/
def Policy.hasIpSet (p : Policy) (name : String) : Bool :=
  p.ipsets.any (·.name == name)

end NetworkSite
