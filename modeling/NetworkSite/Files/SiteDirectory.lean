/-
  Site directories.

  A site directory holds `site.yaml` and a file for each further host, whose
  name up to the ending `.yaml` is the hostname if the file gives none.  In its
  directory `templates` there may be a directory for each role, whose files
  ending in `.tmpl` are the templates of the role.  All files are read in the
  order of their names.
-/
import NetworkSite.Build.Template
import NetworkSite.Document.Yaml
import NetworkSite.Files.Location
import NetworkSite.Site.Reading

namespace NetworkSite

/-- Why a site directory cannot be read. -/
inductive LoadError where
  | noSite (directory : Location)
  | unreadable (file : Location)
  | badSite (file : Location)
  | badHost (file : Location)
  deriving DecidableEq

def LoadError.message : LoadError → String
  | noSite directory => s!"Site directory '{directory.text}' has no site.yaml"
  | unreadable file => s!"Failed to read '{file.text}'"
  | badSite file => s!"Failed to parse '{file.text}'"
  | badHost file => s!"Failed to parse host file '{file.text}'"

namespace FileTree

variable (t : FileTree)

/-- The names of the files in a directory that end in `ending`. -/
def filesEndingIn (directory : Path) (ending : String) : List FileName :=
  (t.childNames directory).filter fun n =>
    Text.endsWith ending n.text && t.isFile (directory ++ [n])

/-- The names of the directories in a directory. -/
def directoriesIn (directory : Path) : List FileName :=
  (t.childNames directory).filter fun n => t.isDirectory (directory ++ [n])

def readText (file : Location) : Except LoadError String :=
  match t.nodeAt? file with
  | some (.file text) => .ok text
  | _ => .error (.unreadable file)

end FileTree

namespace Host

/-- The host of one file. -/
def ofFile (t : FileTree) (directory : Location) (name : FileName) : Except LoadError Host := do
  let file := directory.join name.text
  let text ← t.readText file
  match (Document.ofYaml? text).bind ofDocument? with
  | some h => return h.named name.stem
  | none => throw (.badHost file)

end Host

namespace Site

/-- The name of a site that has none of its own. -/
def defaultName (directory : Path) : String :=
  match directory.getLast? with
  | some n => n.text
  | none => "site"

/-- The site of one file, without the hosts of other files. -/
def ofFile (t : FileTree) (file : Location) : Except LoadError Site := do
  let text ← t.readText file
  match (Document.ofYaml? text).bind ofDocument? with
  | some s => return s
  | none => throw (.badSite file)

/-- The hosts of the other files in the directory of a site. -/
def hostsOfFiles (t : FileTree) (directory : Location) (path : Path) : Except LoadError (List Host) :=
  let names := (t.filesEndingIn path ".yaml").filter (·.text != "site.yaml")
  names.mapM (Host.ofFile t directory)

/-- The site of a directory. -/
def ofDirectory (t : FileTree) (directory : Location) : Except LoadError Site :=
  let file := directory.join "site.yaml"
  match t.follow? directory, t.isFileAt file with
  | some path, true => do
    let s ← ofFile t file
    let hosts ← hostsOfFiles t directory path
    return {
      s with
      name := if s.name.isEmpty then defaultName path else s.name
      hosts := s.hosts ++ hosts }
  | _, _ => .error (.noSite directory)

end Site

namespace Template

/-- The template of one file. -/
def ofFile (t : FileTree) (role : Role) (directory : Location) (name : FileName) :
    Except LoadError Template := do
  let text ← t.readText (directory.join name.text)
  return { role, name := Text.dropEndings ".tmpl" name.text, text }

/-- The templates in a directory that has the name of a role, and none in any
    other. -/
def ofRoleDirectory (t : FileTree) (templates : Location) (path : Path) (name : FileName) :
    Except LoadError (List Template) :=
  match Role.ofText? name.text with
  | none => .ok []
  | some role =>
    (t.filesEndingIn (path ++ [name]) ".tmpl").mapM (ofFile t role (templates.join name.text))

/-- The templates in the directories of the roles. -/
def ofRoleDirectories (t : FileTree) (templates : Location) (path : Path) :
    Except LoadError (List Template) := do
  let found ← (t.directoriesIn path).mapM (ofRoleDirectory t templates path)
  return found.flatten

/-- The templates of a site directory. -/
def ofDirectory (t : FileTree) (directory : Location) : Except LoadError (List Template) :=
  let templates := directory.join "templates"
  match t.follow? templates with
  | some path => if t.isDirectory path then ofRoleDirectories t templates path else .ok []
  | none => .ok []

end Template

end NetworkSite
