/-
  The program: reads the directories that a request names, and makes on disk
  the changes that the request comes to.
-/
import NetworkSite.CommandLine.Run

namespace NetworkSite

/-! ## Reading the disk -/

/-- The path to which a location leads if all its names are directories. -/
def Location.path? (l : Location) : Option Path :=
  l.names.foldlM
    (fun here name =>
      if name == "." then some here
      else if name == ".." then some here.dropLast
      else (FileName.ofText? name).map fun n => here ++ [n])
    l.start

/-- What stands below a directory, as far down as `depth`. -/
def readBelow (directory : String) (path : Path) : Nat → IO (List (Path × Node))
  | 0 => return []
  | depth + 1 => do
    let here := (← IO.currentDir) / directory
    let found ← (← here.readDir).toList.mapM fun entry => do
      match FileName.ofText? entry.fileName with
      | none => return []
      | some n =>
        let below := path ++ [n]
        if ← (here / n.text).isDir then
          return (below, .directory) :: (← readBelow s!"{directory}/{n.text}" below depth)
        else
          try return [(below, .file (← IO.FS.readFile (here / n.text)))]
          catch _ => return [(below, .binary)]
    return found.flatten

/-- What stands at a location and below it. -/
def readLocation (l : Location) (depth : Nat) : IO (List (Path × Node)) := do
  match l.path? with
  | none => return []
  | some path =>
    let here := (← IO.currentDir) / l.text
    if ← here.isDir then return (path, .directory) :: (← readBelow l.text path depth)
    else if ← here.pathExists then return [(path, .binary)]
    else return []

/-- The part of the disk that a request depends on. -/
def readTree (working : Path) : Request → IO FileTree
  | .compile site output _ => do
    let inSite ← readLocation (Location.ofText working site) 3
    let place := Location.ofText working output
    let inOutput ← readLocation place (place.names.count ".." + 1)
    let nodes := (working, .directory) :: inSite ++ inOutput
    return nodes.foldl (fun t (path, node) => (t.place? path node).getD t) FileTree.empty
  | _ => return FileTree.empty

/-! ## Changing the disk -/

/-- Takes away what stands at a path. -/
def removeFromDisk (path : Path) : IO Unit := do
  let here := (← IO.currentDir) / ("/" ++ "/".intercalate (path.map (·.text)))
  if ← here.isDir then IO.FS.removeDirAll here
  else if ← here.pathExists then IO.FS.removeFile here

def makeOnDisk : Change → IO Unit
  | .directory place => IO.FS.createDirAll place.text
  | .file place text => IO.FS.writeFile place.text text

/-- Makes the changes up to the first that is not possible. -/
def performOnDisk : List (Change × WriteError) → IO (Except WriteError Unit)
  | [] => return .ok ()
  | (change, e) :: rest => do
    let made ← try
        makeOnDisk change
        pure true
      catch _ => pure false
    if made then performOnDisk rest else return .error e

/-- Writes a plan in place of an earlier one. -/
def writeToDisk (t : FileTree) (p : BuildPlan) (output : Location) :
    IO (Except WriteError Unit) := do
  let (old, error) := PlanDirectory.stale t output
  old.forM removeFromDisk
  match error with
  | some e => return .error e
  | none => performOnDisk (p.changes output)

/-! ## Runs -/

/-- Reports why a run failed. -/
def report (e : RunError) : IO UInt32 := do
  e.diagnostics.forM fun text => IO.eprintln s!"ERROR {text}"
  IO.eprintln s!"Error: {e.message}"
  return e.status.toUInt32

/-- Does what the arguments request. -/
def runOnDisk (arguments : List String) : IO UInt32 := do
  match Request.ofArguments arguments with
  | .error e => report (.arguments e)
  | .ok request =>
    let names := Location.namesOf s!"{← IO.currentDir}"
    let working := names.filterMap FileName.ofText?
    let t ← readTree working request
    match CommandLine.answer t working request with
    | .error e => report e
    | .ok (.done text) =>
      IO.print text
      return 0
    | .ok (.write p output) =>
      match ← writeToDisk t p output with
      | .error e => report (.write e)
      | .ok () =>
        IO.print (p.summary output)
        return 0

end NetworkSite

def main (arguments : List String) : IO UInt32 :=
  NetworkSite.runOnDisk arguments
