/-
  Plan directories: build plans on disk.

  A plan directory holds `build_plan.json` and a directory for each host with
  its `environment.json` and the files made from its templates.  A plan may be
  written to a directory that is empty or not there yet, or over an earlier
  plan.  `stale` is what has to go for that: the directories of the hosts that
  the earlier plan lists, and then its `build_plan.json`.  They go one after the
  other, and each is sought when its turn comes, as the location of the output
  directory may lead through one that is gone by then.
-/
import NetworkSite.Build.Writing
import NetworkSite.Document.Decode
import NetworkSite.Document.Json
import NetworkSite.Files.Change
import NetworkSite.Text.Label

namespace NetworkSite

/-- Why a plan cannot be written. -/
inductive WriteError where
  | notDirectory (output : Location)
  /-- There are files or directories and no earlier plan. -/
  | otherContent (output : Location)
  | unreadable (file : Location)
  | badPlan (file : Location)
  /-- The earlier plan is no longer found when its turn to go comes. -/
  | notRemoved (file : Location)
  | noDirectory (output : Location)
  | noHostDirectory (directory : Location)
  | noEnvironment (hostname : String)
  | noFile (file : Location)
  deriving DecidableEq

/-- The name of the file that describes a plan. -/
def planFile : String :=
  "build_plan.json"

/-- The name of the file with the environment of a host. -/
def environmentFile : String :=
  "environment.json"

def WriteError.message : WriteError → String
  | notDirectory output => s!"Output path '{output.text}' is not a directory"
  | otherContent output =>
    s!"Output directory '{output.text}' is not empty and holds no previous {planFile}; " ++
      "refusing to overwrite it"
  | unreadable file => s!"Failed to read '{file.text}'"
  | badPlan file => s!"Failed to parse previous plan '{file.text}'"
  | notRemoved file => s!"Failed to remove '{file.text}'"
  | noDirectory output => s!"Failed to create output directory '{output.text}'"
  | noHostDirectory directory => s!"Failed to create host directory '{directory.text}'"
  | noEnvironment hostname => s!"Failed to write environment for host '{hostname}'"
  | noFile file => s!"Failed to write '{file.text}'"

/-! ## Earlier plans -/

namespace PlanDirectory

/-- The hostname in an item of the list of hosts. -/
def hostname? : Decoder String := fun d => do
  let r ← Decode.record [{ name := "hostname" }] d
  r.required "hostname" Decode.string

/-- The hostnames that the text of a `build_plan.json` lists. -/
def hostnames? (text : String) : Option (List String) := do
  let d ← Document.ofJson? text
  let r ← Decode.record [{ name := "hosts" }] d
  r.withDefault "hosts" [] (Decode.list hostname?)

/-- What goes of the directory at a location: all of it, or only what stands in
    it if the location leads through that, and so does not lead to the empty
    directory. -/
def directoryPaths (t : FileTree) (place : Location) : List Path :=
  match t.follow? place with
  | some path =>
    if t.isDirectory path then
      let content := (t.childNames path).map fun n => path ++ [n]
      if (t.removeAll content).follow? place = some path then [path] else content
    else []
  | none => []

/-- What goes of the directories of hosts; a hostname that is not valid has
    none. -/
def hostPaths (t : FileTree) (output : Location) : List String → List Path
  | [] => []
  | hostname :: rest =>
    if Text.isHostname hostname then
      let gone := directoryPaths t (output.join hostname)
      gone ++ hostPaths (t.removeAll gone) output rest
    else hostPaths t output rest

/-- What goes of an earlier plan that lists the given hosts, and the error if
    its file is not found at the end. -/
def staleOf (t : FileTree) (output : Location) (hostnames : List String) :
    List Path × Option WriteError :=
  let gone := hostPaths t output hostnames
  let file := output.join planFile
  match (t.removeAll gone).follow? file with
  | some path =>
    if (t.removeAll gone).isFile path then (gone ++ [path], none)
    else (gone, some (.notRemoved file))
  | none => (gone, some (.notRemoved file))

/-- What has to go before a plan is written, in this order, and the error if
    none can be written then. -/
def stale (t : FileTree) (output : Location) : List Path × Option WriteError :=
  match t.follow? output with
  | none => ([], none)
  | some path =>
    match t.node? path with
    | none => ([], none)
    | some .directory =>
      let file := output.join planFile
      match t.nodeAt? file with
      | some (.file text) =>
        match hostnames? text with
        | some hostnames => staleOf t output hostnames
        | none => ([], some (.badPlan file))
      | some .binary => ([], some (.unreadable file))
      | _ => if (t.childNames path).isEmpty then ([], none) else ([], some (.otherContent output))
    | some _ => ([], some (.notDirectory output))

/-- The tree without what an earlier plan left, or as far as it could be taken
    away and the error. -/
def clear (t : FileTree) (output : Location) : FileTree × Option WriteError :=
  (t.removeAll (stale t output).1, (stale t output).2)

end PlanDirectory

/-! ## Writing -/

namespace HostPlan

variable (h : HostPlan)

/-- The changes that write the plan of a host, each with the error if it is not
    possible. -/
def changes (output : Location) : List (Change × WriteError) :=
  let directory := output.join h.hostname
  let environment := directory.join environmentFile
  (Change.directories directory).map (·, .noHostDirectory directory) ++
    [(.file environment h.environment.toDocument.pretty, .noEnvironment h.hostname)] ++
    h.files.map fun f =>
      (.file (directory.join f.name) f.contents, .noFile (directory.join f.name))

end HostPlan

namespace BuildPlan

variable (p : BuildPlan)

/-- The changes that write a plan, each with the error if it is not possible. -/
def changes (output : Location) : List (Change × WriteError) :=
  let file := output.join planFile
  (Change.directories output).map (·, .noDirectory output) ++
    [(.file file p.toDocument.pretty, .noFile file)] ++
    p.hosts.flatMap (·.changes output)

/-- The tree with the plan in the output directory in place of an earlier one,
    or as far as it could be written and the error. -/
def write (t : FileTree) (output : Location) : FileTree × Option WriteError :=
  match PlanDirectory.clear t output with
  | (t, none) => t.perform (p.changes output)
  | (t, some e) => (t, some e)

end BuildPlan

end NetworkSite
