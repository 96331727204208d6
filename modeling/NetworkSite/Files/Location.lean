/-
  Locations: places in a file tree as they are written.

  A location is the text in which it was given, with the names that it stands
  for.  `follow?` walks along them: a dot stays, two dots lead to the directory
  around, every other name leads to what has it, and nothing leads on from what
  is no directory.  So a location of something that is not there may still lead
  to a path, at which it could be made.
-/
import NetworkSite.Files.Tree

namespace NetworkSite

structure Location where
  /-- The text that messages show. -/
  text : String
  /-- The directory from which the names lead on. -/
  start : Path
  names : List String
  deriving DecidableEq

namespace Location

def isAbsolute (text : String) : Bool :=
  text.toList.head? == some '/'

/-- The parts of a text between its slashes. -/
def namesOf (text : String) : List String :=
  ((Text.split (· == '/') text.toList).filter (!·.isEmpty)).map String.ofList

/-- The location that a text means in the working directory. -/
def ofText (working : Path) (text : String) : Location where
  text
  start := if isAbsolute text then [] else working
  names := namesOf text

/-- Only a directory is meant. -/
def endsInSlash (l : Location) : Bool :=
  Text.endsWith "/" l.text

/-- The text of `name` in the directory with the text `base`. -/
def joinText (base name : String) : String :=
  if base.isEmpty || Text.endsWith "/" base then base ++ name else base ++ "/" ++ name

/-- The location of `name` in a directory. -/
def join (l : Location) (name : String) : Location :=
  if isAbsolute name then ofText l.start name
  else { text := joinText l.text name, start := l.start, names := l.names ++ namesOf name }

/-- The location with only some of the names. -/
def withNames (l : Location) (names : List String) : Location where
  text := (if isAbsolute l.text then "/" else "") ++ "/".intercalate names
  start := l.start
  names

/-- The locations of the directories on the way, from the outermost on. -/
def around (l : Location) : List Location :=
  let names := l.names.filter (· != ".")
  (List.range (names.length - 1)).map fun k => l.withNames (names.take (k + 1))

end Location

namespace FileTree

variable (t : FileTree)

/-- The path to which a name leads from a path. -/
def step? (here : Path) (name : String) : Option Path :=
  if !t.isDirectory here then none
  else if name == "." then some here
  else if name == ".." then some here.dropLast
  else (FileName.ofText? name).map fun n => here ++ [n]

/-- The path to which the names of a location lead. -/
def followNames? (l : Location) : Option Path :=
  l.names.foldlM t.step? l.start

/-- The path to which a location leads; a slash at its end leads on from a
    directory only. -/
def follow? (l : Location) : Option Path := do
  let p ← t.followNames? l
  if l.endsInSlash then t.step? p "." else some p

/-- What stands at a location. -/
def nodeAt? (l : Location) : Option Node :=
  (t.follow? l).bind t.node?

def isFileAt (l : Location) : Bool :=
  (t.follow? l).any t.isFile

end FileTree

end NetworkSite
