/-
  Runs of the command line.

  `CommandLine.prepare` is what the arguments come to before anything is
  written: a text to print, or a plan for an output directory.
  `CommandLine.run` writes the plan as well.  Only a run that gets as far as
  writing changes the file tree.
-/
import NetworkSite.Build.Compile
import NetworkSite.CommandLine.Arguments
import NetworkSite.Files.PlanDirectory
import NetworkSite.Files.SiteDirectory
import NetworkSite.Text.Quoted

namespace NetworkSite

/-- Why a run fails. -/
inductive RunError where
  | arguments (e : ArgumentError)
  | load (e : LoadError)
  | compile (site : String) (e : CompileError)
  | write (e : WriteError)
  deriving DecidableEq

def ArgumentError.message : ArgumentError → String
  | unexpected argument => s!"unexpected argument '{argument}'"
  | repeated option => s!"the option '{option}' cannot be used several times"
  | noValue option => s!"the option '{option}' requires a value"
  | emptyValue option => s!"the value of the option '{option}' is empty"
  | valueOfFlag option => s!"the option '{option}' takes no value"
  | noSite => "the option 'site' is required"

namespace RunError

def message : RunError → String
  | arguments e => e.message
  | load e => e.message
  | compile site _ => s!"Failed to compile site '{site}'"
  | write e => e.message

/-- The single errors, which are logged. -/
def diagnostics : RunError → List String
  | compile _ e => e.diagnostics
  | _ => []

/-- The exit status. -/
def status : RunError → Nat
  | arguments _ => 2
  | compile _ (.crossed ..) => 101
  | _ => 1

end RunError

/-- What is printed for a plan that was written. -/
def BuildPlan.summary (p : BuildPlan) (output : Location) : String :=
  let stages := (List.range p.schedule.size).zip p.schedule.stages
  let lines :=
    [s!"Generated build plan at {Text.quoted (output.join planFile).text}",
      s!"  - Site: {p.site}",
      s!"  - Hosts: {p.hosts.length}",
      s!"  - Vlans: {p.addresses.vlans.length}",
      s!"  - Firewall rules: {p.firewall.length}",
      "  - Build stages:"] ++
    stages.map fun (k, hostnames) => s!"    - {k}: " ++ ", ".intercalate hostnames
  String.join (lines.map (· ++ "\n"))

/-- The build plan of the site in a directory. -/
def BuildPlan.ofDirectory (t : FileTree) (directory : Location) : Except RunError BuildPlan := do
  let site ← (Site.ofDirectory t directory).mapError .load
  let templates ← (Template.ofDirectory t directory).mapError .load
  (site.compile templates).mapError (.compile site.name)

namespace CommandLine

def versionText : String :=
  "siteplan 0.1.0\n"

def helpText : String :=
  "Compile a network site definition into a resolved build plan\n\n" ++
  "Usage: siteplan [OPTIONS] --site <SITE>\n\n" ++
  "Options:\n" ++
  "  -s, --site <SITE>      Site directory holding site.yaml and one YAML file per host\n" ++
  "  -o, --output <OUTPUT>  Output directory for the plan [default: site_output]\n" ++
  "      --check            Validate and compile without writing anything\n" ++
  "  -h, --help             Print help\n" ++
  "  -V, --version          Print version\n"

/-- What a request comes to before anything is written. -/
inductive Step where
  /-- The run is done and prints this. -/
  | done (text : String)
  | write (plan : BuildPlan) (output : Location)

/-- What a request comes to in a working directory. -/
def answer (t : FileTree) (working : Path) : Request → Except RunError Step
  | .version => .ok (.done versionText)
  | .help => .ok (.done helpText)
  | .compile site output check => do
    let p ← BuildPlan.ofDirectory t (Location.ofText working site)
    return if check then .done "" else .write p (Location.ofText working output)

/-- What the arguments come to in a working directory. -/
def prepare (t : FileTree) (working : Path) (arguments : List String) : Except RunError Step := do
  let request ← (Request.ofArguments arguments).mapError .arguments
  answer t working request

/-- The tree after a run, and what the run prints or why it fails. -/
def run (t : FileTree) (working : Path) (arguments : List String) :
    FileTree × Except RunError String :=
  match prepare t working arguments with
  | .error e => (t, .error e)
  | .ok (.done text) => (t, .ok text)
  | .ok (.write p output) =>
    match p.write t output with
    | (t, none) => (t, .ok (p.summary output))
    | (t, some e) => (t, .error (.write e))

end CommandLine

end NetworkSite
