/-
  The expansion of rules into tuples.

  A rule stands for every source with every destination and every port of its
  services.  `Rule.faults` is everything that stands in the way; a rule with a
  fault has no tuples, and a site with a faulty rule has no tuples at all.
-/
import NetworkSite.Addressing.Plan
import NetworkSite.Firewall.Implied
import NetworkSite.Firewall.Tuple

namespace NetworkSite

/-- The sides of a rule. -/
inductive Side where
  | source
  | destination
  deriving DecidableEq

def Side.text : Side → String
  | source => "source"
  | destination => "destination"

/-- Why a rule cannot be expanded. -/
inductive RuleFault where
  | service (error : ServiceError)
  /-- A locator that stands for nothing. -/
  | noEndpoints (side : Side) (locator : String)
  | unknownReference (kind name : String)
  /-- Connections cannot be redirected to a whole zone. -/
  | forwardWithoutTarget (locator : String)
  | noAction
  deriving DecidableEq

/-- A fault with the label of its rule. -/
structure RuleError where
  rule : String
  fault : RuleFault
  deriving DecidableEq

def RuleFault.message : RuleFault → String
  | service (.unknownService name) => s!"unknown service '{name}'"
  | service (.unknownProtocol name) => s!"unknown protocol '{name}'"
  | service (.badPort text) => s!"invalid port '{text}'"
  | noEndpoints side locator => s!"{side.text} '{locator}' resolves to no endpoints"
  | unknownReference kind name => s!"unknown {kind} '{name}'"
  | forwardWithoutTarget locator =>
    s!"forward destination '{locator}' must name a host or address"
  | noAction => "no allow-all, allow or forward action"

def RuleError.message (e : RuleError) : String :=
  s!"rule '{e.rule}': {e.fault.message}"

/-! ## Names on vlans -/

/-- The entry goes by this name, up to its case. -/
def Entry.answersTo (e : Entry) (name : String) : Bool :=
  Text.sameIgnoringCase e.hostname name || e.aliases.any (Text.sameIgnoringCase · name)

/-- The host goes by this name or has it as an alias, up to its case. -/
def Host.isCalled (h : Host) (name : String) : Bool :=
  Text.sameIgnoringCase h.hostname name || h.aliases.any (Text.sameIgnoringCase · name)

namespace PlannedVlan

/-- The hostname for which a name stands on the vlan: that of an entry, or else
    that of a host with an interface there. -/
def hostnameOf? (s : Site) (p : AddressPlan) (w : PlannedVlan) (name : String) : Option String :=
  match w.entries.find? (·.answersTo name) with
  | some e => some e.hostname
  | none =>
    (((p.hosts.filter (·.isOn w.name)).filterMap fun h => s.findHost? h.hostname).find?
      (·.isCalled name)).map (·.hostname)

/-- The addresses of a hostname on the vlan, IPv4 first. -/
def addressesOf (w : PlannedVlan) (hostname : String) : List IpAddress :=
  let own := w.entries.filter (·.hostname == hostname)
  (own.filterMap (fun e => e.ipv4.map IpAddress.v4) ++
    own.filterMap (fun e => e.ipv6.map IpAddress.v6)).eraseReps

end PlannedVlan

/-! ## Locators -/

/-- An endpoint; `fromAll` if it comes from the locator of all vlans. -/
structure SideEndpoint where
  endpoint : Endpoint
  fromAll : Bool := false
  deriving DecidableEq

namespace Locator

/-- The endpoint of a set or an address in a zone, if the locator is narrowed
    to one. -/
def narrowedEndpoint (s : Site) (zone : String) (l : Locator) :
    Except RuleFault (Option Endpoint) :=
  match l.ipset with
  | some name =>
    if s.policy.hasIpSet name then .ok (some (.ipset zone name))
    else .error (.unknownReference "ipset" name)
  | none =>
    match l.ipv4.or l.ipv6 with
    | none => .ok none
    | some text =>
      match IpAddress.ofText? text with
      | some a => .ok (some (.address zone a))
      | none => .error (.unknownReference "address" text)

/-- The endpoint of a zone, narrowed if the locator is. -/
def zoneEndpoint (s : Site) (zone : String) (whole : Endpoint) (l : Locator) :
    Except RuleFault (List SideEndpoint) :=
  match l.narrowedEndpoint s zone with
  | .ok (some e) => .ok [{ endpoint := e }]
  | .ok none => .ok [{ endpoint := whole }]
  | .error fault => .error fault

/-- The endpoint of a name on a vlan, if the name has addresses there. -/
def hostEndpoints (s : Site) (p : AddressPlan) (w : PlannedVlan) (name : String) :
    Except RuleFault (List SideEndpoint) :=
  match w.hostnameOf? s p name with
  | none => .error (.unknownReference "host" s!"{w.name}/{name}")
  | some hostname =>
    match w.addressesOf hostname with
    | [] => .ok []
    | addresses => .ok [{ endpoint := .host w.name hostname addresses }]

/-- The endpoints of a locator on a vlan. -/
def vlanEndpoints (s : Site) (p : AddressPlan) (ref : VlanRef) (l : Locator) :
    Except RuleFault (List SideEndpoint) :=
  match (s.lookupVlan? l.switch ref).bind fun (_, v) => p.vlan? v.name with
  | none => .error (.unknownReference "vlan" ref.text)
  | some w =>
    match l.hostname with
    | some name => hostEndpoints s p w name
    | none => l.zoneEndpoint s w.name (.vlan w.name)

/-- The endpoints of a locator. -/
def endpoints (s : Site) (p : AddressPlan) (l : Locator) : Except RuleFault (List SideEndpoint) :=
  match l.scope with
  | .all =>
    .ok ((p.vlans.filter (·.routable)).map fun w => { endpoint := .vlan w.name, fromAll := true })
  | .firewall => .ok [{ endpoint := .firewall }]
  | .internet => l.zoneEndpoint s internetZone .internet
  | .vlan ref => l.vlanEndpoints s p ref

/-- The endpoints of a locator on one side of a rule; a locator without any is a
    fault. -/
def sideEndpoints (s : Site) (p : AddressPlan) (side : Side) (l : Locator) :
    Except RuleFault (List SideEndpoint) :=
  match l.endpoints s p with
  | .ok [] => .error (.noEndpoints side l.text)
  | result => result

end Locator

/-! ## Rules -/

section Results

variable {ε α : Type}

/-- All errors among results. -/
def errorsOf (results : List (Except ε (List α))) : List ε :=
  results.filterMap fun
    | .error e => some e
    | .ok _ => none

/-- All values among results. -/
def valuesOf (results : List (Except ε (List α))) : List α :=
  results.flatMap fun
    | .error _ => []
    | .ok values => values

end Results

namespace Rule

def sourceResults (s : Site) (p : AddressPlan) (r : Rule) : List (Except RuleFault (List SideEndpoint)) :=
  r.sources.map (·.sideEndpoints s p .source)

def destinationResults (s : Site) (p : AddressPlan) (r : Rule) :
    List (Except RuleFault (List SideEndpoint)) :=
  r.destinations.map (·.sideEndpoints s p .destination)

/-- What the tuples of a rule do. -/
def tupleAction (r : Rule) : TupleAction :=
  match r.action with
  | .forward _ => .forward
  | _ => .accept

/-- The ports of services, and the faults of those that have none. -/
def portsOf (services : List ServiceSpec) : List (Except RuleFault (List ServicePort)) :=
  services.map fun service =>
    match service.resolve with
    | .ok ports => .ok ports
    | .error e => .error (.service e)

/-- The ports that a rule opens. -/
def portResults (r : Rule) : List (Except RuleFault (List ServicePort)) :=
  match r.action with
  | .allowAll => [.ok [{ protocol := .any, ports := none, comment := "" }]]
  | .allow services => portsOf services
  | .forward services => portsOf services
  | .none => [.error .noAction]

theorem portResults_eq (r : Rule) : r.portResults =
    if r.allowAll then [.ok [{ protocol := .any, ports := none, comment := "" }]]
    else if !r.allow.isEmpty then portsOf r.allow
    else if !r.forward.isEmpty then portsOf r.forward
    else [.error .noAction] := by
  unfold portResults action
  cases r.allowAll <;> cases r.allow.isEmpty <;> cases r.forward.isEmpty <;> rfl

/-- Redirecting needs a narrowed destination. -/
def forwardFaults (s : Site) (p : AddressPlan) (r : Rule) : List RuleFault :=
  match r.tupleAction with
  | .accept => []
  | .forward =>
    ((valuesOf (r.destinationResults s p)).filter (!·.endpoint.isNarrowed)).map fun d =>
      .forwardWithoutTarget d.endpoint.name

/-- Everything that stands in the way of expanding a rule. -/
def faults (s : Site) (p : AddressPlan) (r : Rule) : List RuleFault :=
  errorsOf (r.sourceResults s p) ++ errorsOf (r.destinationResults s p) ++ errorsOf r.portResults ++
    r.forwardFaults s p

/-- The locator of all vlans pairs no vlan with itself. -/
def isSkipped (source destination : SideEndpoint) : Bool :=
  (source.fromAll || destination.fromAll) && source.endpoint.zone == destination.endpoint.zone

/-- The tuple for one source, destination and port. -/
def tuple (r : Rule) (source destination : SideEndpoint) (port : ServicePort) : RuleTuple where
  source := source.endpoint
  destination := destination.endpoint
  protocol := port.protocol
  ports := port.ports
  action := r.tupleAction
  comment := if r.comment.isEmpty then port.comment else r.comment

/-- The tuples of a rule without faults: sources, destinations and ports in
    this order. -/
def tuples (s : Site) (p : AddressPlan) (r : Rule) : List RuleTuple :=
  let destinations := valuesOf (r.destinationResults s p)
  let ports := valuesOf r.portResults
  (valuesOf (r.sourceResults s p)).flatMap fun source =>
    destinations.flatMap fun destination =>
      if isSkipped source destination then [] else ports.map (r.tuple source destination)

/-- The tuples of a rule, or all its faults. -/
def expand (s : Site) (p : AddressPlan) (r : Rule) : Except (List RuleFault) (List RuleTuple) :=
  match r.faults s p with
  | [] => .ok (r.tuples s p)
  | faults => .error faults

/-- The label of the rule with an index, for errors. -/
def label (index : Nat) (r : Rule) : String :=
  if r.comment.isEmpty then s!"#{index + 1}" else r.comment

end Rule

/-! ## The policy of a site -/

namespace Site

/-- All rules with their labels, the declared ones first. -/
def labelledRules (s : Site) : List (String × Rule) :=
  (s.policy.rules.zipIdx.map fun (r, index) => (r.label index, r)) ++
    s.impliedRules.map fun r => (r.comment, r)

/-- The errors of all rules. -/
def ruleErrors (s : Site) (p : AddressPlan) : List RuleError :=
  s.labelledRules.flatMap fun (label, r) => (r.faults s p).map fun fault => { rule := label, fault }

/-- The tuples of all rules. -/
def ruleTuples (s : Site) (p : AddressPlan) : List RuleTuple :=
  s.labelledRules.flatMap fun (_, r) => r.tuples s p

/-- The tuples of all rules in order and without repetition, or all errors. -/
def expandRules (s : Site) (p : AddressPlan) : Except (List RuleError) (List RuleTuple) :=
  match s.ruleErrors p with
  | [] => .ok (RuleTuple.normalize (s.ruleTuples p))
  | errors => .error errors

end Site

end NetworkSite
