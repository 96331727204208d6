/-
  The compilation of a site: check, addresses, rules, stages and files in this
  order.  The first step that fails ends it, with everything that this step
  found.  A crossed lookup ends it without any report.
-/
import NetworkSite.Build.Plan
import NetworkSite.Check
import NetworkSite.Firewall.Expansion

namespace NetworkSite

/-- Why a site has no build plan. -/
inductive CompileError where
  | invalid (findings : List Finding)
  | addressing (errors : List AddressingError)
  /-- Claims were looked up between bounds in the wrong order. -/
  | crossed (first last : IpAddress)
  | firewall (errors : List RuleError)
  /-- Hosts that wait for each other. -/
  | cycle (hosts : List String)
  | missing (all : List MissingVariable)
  deriving DecidableEq

namespace CompileError

def message : CompileError → String
  | invalid findings => s!"site validation failed with {findings.length} error(s)"
  | addressing errors => s!"address resolution failed with {errors.length} error(s)"
  | crossed _ _ => "range start is greater than range end"
  | firewall errors => s!"firewall expansion failed with {errors.length} error(s)"
  | cycle hosts => "cyclic build dependency between hosts: " ++ ", ".intercalate hosts
  | missing all => s!"{all.length} template variable(s) could not be resolved"

/-- One line for each single error. -/
def diagnostics : CompileError → List String
  | invalid findings => findings.map (·.message)
  | addressing errors => errors.map (·.message)
  | crossed _ _ => []
  | firewall errors => errors.map (·.message)
  | cycle hosts => [(cycle hosts).message]
  | missing all => all.map (·.message)

def ofAddressing : AddressingFailure → CompileError
  | .errors all => addressing all
  | .crossed first last => crossed first last

end CompileError

namespace Site

/-- The site, if nothing is wrong with it. -/
def validate (s : Site) : Except CompileError Unit :=
  match s.findings with
  | [] => .ok ()
  | findings => .error (.invalid findings)

/-- The build plan of a site with templates. -/
def compile (s : Site) (templates : List Template) : Except CompileError BuildPlan := do
  s.validate
  let addresses ← s.addressPlan.mapError .ofAddressing
  let rules ← (s.expandRules addresses).mapError .firewall
  let graph := s.dependencies
  let schedule ← graph.schedule.mapError .cycle
  let blueprint : Blueprint := { site := s, addresses, rules, graph, schedule }
  (blueprint.emit templates).mapError .missing

end Site

end NetworkSite
