/-
  Changes of a file tree.

  `perform` makes changes one after the other and stops at the first that is
  not possible, of which it gives the fault; what was changed up to then stays.
-/
import NetworkSite.Files.Location

namespace NetworkSite

/-- A change of a file tree at one place. -/
inductive Change where
  /-- There is a directory. -/
  | directory (place : Location)
  /-- There is a file with this text. -/
  | file (place : Location) (text : String)
  deriving DecidableEq

/-- The changes that make a directory and those around it. -/
def Change.directories (place : Location) : List Change :=
  (place.around ++ [place]).map directory

namespace FileTree

/-- The tree after a change. -/
def change? (t : FileTree) : Change → Option FileTree
  | .directory place => (t.followNames? place).bind t.makeDirectory?
  | .file place text => (t.follow? place).bind (t.write? · text)

variable {ε : Type}

/-- The tree after the changes, and the fault of the first one that is not
    possible. -/
def perform (t : FileTree) : List (Change × ε) → FileTree × Option ε
  | [] => (t, none)
  | (change, fault) :: rest =>
    match t.change? change with
    | some t => t.perform rest
    | none => (t, some fault)

end FileTree

end NetworkSite
