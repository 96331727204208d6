/-
  The arguments of the command line.

  Options are written `--name`, or as one letter after a hyphen; letters may
  stand together.  The value of an option follows as the next argument, after
  an equals sign, or right after the letter.  `Request.ofArguments` reads the
  arguments from the left; a request for the version or for help is answered as
  soon as it is read, whatever follows.
-/
import NetworkSite.Text.Split

namespace NetworkSite

/-- An option that takes a value. -/
inductive Parameter where
  | site
  | output
  deriving DecidableEq

/-- An option without a value. -/
inductive Flag where
  | check
  | version
  | help
  deriving DecidableEq

/-- Why arguments are refused. -/
inductive ArgumentError where
  | unexpected (argument : String)
  | repeated (option : String)
  | noValue (option : String)
  | emptyValue (option : String)
  /-- A value for an option that takes none. -/
  | valueOfFlag (option : String)
  | noSite
  deriving DecidableEq

/-- What a run is asked to do. -/
inductive Request where
  | version
  | help
  /-- Compile the site of a directory, and write its plan to the directory
      `output` unless it is only checked. -/
  | compile (site output : String) (check : Bool)
  deriving DecidableEq

namespace Parameter

def name : Parameter → String
  | site => "site"
  | output => "output"

def letter : Parameter → Char
  | site => 's'
  | output => 'o'

end Parameter

namespace Flag

def name : Flag → String
  | check => "check"
  | version => "version"
  | help => "help"

def letter? : Flag → Option Char
  | check => none
  | version => some 'V'
  | help => some 'h'

end Flag

/-- An option of the command line. -/
inductive CommandOption where
  | parameter (p : Parameter)
  | flag (f : Flag)
  deriving DecidableEq

namespace CommandOption

def all : List CommandOption :=
  [parameter .site, parameter .output, flag .check, flag .version, flag .help]

def name : CommandOption → String
  | parameter p => p.name
  | flag f => f.name

def letter? : CommandOption → Option Char
  | parameter p => some p.letter
  | flag f => f.letter?

def ofName? (name : String) : Option CommandOption :=
  all.find? (·.name == name)

def ofLetter? (c : Char) : Option CommandOption :=
  all.find? (·.letter? == some c)

end CommandOption

/-! ## Reading -/

/-- The options read so far. -/
structure Given where
  site : Option String := none
  output : Option String := none
  check : Bool := false
  /-- The parameter whose value is the next argument. -/
  pending : Option Parameter := none

namespace Given

/-- The value of an option is given. -/
def set (g : Given) (p : Parameter) (value : String) : Except ArgumentError Given :=
  if value.isEmpty then .error (.emptyValue p.name)
  else
    match p with
    | .site =>
      if g.site.isSome then .error (.repeated p.name)
      else .ok { g with site := some value, pending := none }
    | .output =>
      if g.output.isSome then .error (.repeated p.name)
      else .ok { g with output := some value, pending := none }

/-- An option without a value is given. -/
def raise (g : Given) : Flag → Except ArgumentError (Given ⊕ Request)
  | .check => if g.check then .error (.repeated "check") else .ok (.inl { g with check := true })
  | .version => .ok (.inr .version)
  | .help => .ok (.inr .help)

/-- The argument stands for options or ends them. -/
def isHyphened (argument : String) : Bool :=
  match argument.toList with
  | '-' :: _ :: _ => true
  | _ => false

/-- A long option, without its two hyphens. -/
def readLong (g : Given) (argument : String) : Except ArgumentError (Given ⊕ Request) :=
  let (name, value?) :=
    match Text.cut (· == '=') argument.toList with
    | some (name, value) => (String.ofList name, some (String.ofList value))
    | none => (argument, none)
  match CommandOption.ofName? name, value? with
  | none, _ => .error (.unexpected argument)
  | some (.parameter p), some value => (g.set p value).map .inl
  | some (.parameter p), none => .ok (.inl { g with pending := some p })
  | some (.flag f), some _ => .error (.valueOfFlag f.name)
  | some (.flag f), none => g.raise f

/-- The value that stands right after the letter of an option. -/
def attachedValue : List Char → Option String
  | [] => none
  | '=' :: value => some (String.ofList value)
  | value => some (String.ofList value)

/-- Options of one letter each; the first that takes a value takes the rest. -/
def readLetters (g : Given) : List Char → Except ArgumentError (Given ⊕ Request)
  | [] => .ok (.inl g)
  | c :: rest =>
    match CommandOption.ofLetter? c with
    | none => .error (.unexpected (String.singleton c))
    | some (.parameter p) =>
      match attachedValue rest with
      | some value => (g.set p value).map .inl
      | none => .ok (.inl { g with pending := some p })
    | some (.flag f) =>
      match g.raise f with
      | .ok (.inl g) => g.readLetters rest
      | answer => answer

/-- One argument. -/
def read (g : Given) (argument : String) : Except ArgumentError (Given ⊕ Request) :=
  match g.pending with
  | some p =>
    if isHyphened argument then .error (.noValue p.name) else (g.set p argument).map .inl
  | none =>
    match argument.toList with
    | '-' :: '-' :: name => g.readLong (String.ofList name)
    | '-' :: c :: rest => g.readLetters (c :: rest)
    | _ => .error (.unexpected argument)

/-- The request of all options together. -/
def request (g : Given) : Except ArgumentError Request :=
  match g.pending, g.site with
  | some p, _ => .error (.noValue p.name)
  | none, none => .error .noSite
  | none, some site => .ok (.compile site (g.output.getD "site_output") g.check)

/-- The request of the arguments from here on. -/
def readAll (g : Given) : List String → Except ArgumentError Request
  | [] => g.request
  | argument :: rest =>
    if argument == "--" && g.pending.isNone then
      match rest with
      | [] => g.request
      | next :: _ => .error (.unexpected next)
    else
      match g.read argument with
      | .ok (.inl g) => g.readAll rest
      | .ok (.inr request) => .ok request
      | .error e => .error e

end Given

/-- The request that the arguments make. -/
def Request.ofArguments (arguments : List String) : Except ArgumentError Request :=
  Given.readAll {} arguments

end NetworkSite
