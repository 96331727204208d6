/-
  Build plans: what is built where, in which order and from which files.

  There is a plan only if every host defines all variables that it needs.
-/
import NetworkSite.Build.Environment

namespace NetworkSite

/-- A file made from a template. -/
structure RenderedFile where
  name : String
  contents : String
  deriving DecidableEq

/-- The plan of a host. -/
structure HostPlan where
  hostname : String
  roles : List Role
  /-- The stage in which it is built. -/
  stage : Nat
  /-- The hosts that are built before it. -/
  dependsOn : List String
  environment : Environment
  files : List RenderedFile

/-- The plan of a site. -/
structure BuildPlan where
  site : String
  domain : String
  schedule : Schedule
  hosts : List HostPlan
  addresses : AddressPlan
  firewall : List RuleTuple

namespace Blueprint

variable (b : Blueprint)

/-- The variables that some host needs and does not define. -/
def missing (templates : List Template) : List MissingVariable :=
  b.site.hosts.flatMap fun h =>
    missingVariables templates h.hostname h.effectiveRoles (b.environment h)

/-- The file made from a template for a host. -/
def renderFile (hostname : String) (env : Environment) (t : Template) :
    Except (List MissingVariable) RenderedFile :=
  match t.render env with
  | .ok contents => .ok { name := t.name, contents }
  | .error names => .error (names.map fun name => { host := hostname, name })

/-- The plan of a host. -/
def hostPlan (templates : List Template) (h : Host) : Except (List MissingVariable) HostPlan := do
  let env := b.environment h
  let files ← (Template.ofRoles templates h.effectiveRoles).mapM (renderFile h.hostname env)
  return {
    hostname := h.hostname
    roles := h.effectiveRoles
    stage := (b.schedule.stageOf? h.hostname).getD 0
    dependsOn := b.dependenciesOf h
    environment := env
    files }

/-- The plan of all hosts, or all variables that are missing. -/
def emit (templates : List Template) : Except (List MissingVariable) BuildPlan :=
  match b.missing templates with
  | [] => do
    let hosts ← b.site.hosts.mapM (b.hostPlan templates)
    return {
      site := b.site.name
      domain := b.site.domain
      schedule := b.schedule
      hosts
      addresses := b.addresses
      firewall := b.rules }
  | missing => .error missing

end Blueprint

end NetworkSite
