/-
  Templates: texts with placeholders for the values of an environment.

  A placeholder is a dollar sign and a name in braces, where a name is a
  non-empty run of capital letters, digits and underscores.  `pieces` cuts a
  text into single characters and placeholders, from the left, and keeps all of
  it (`flatMap_chars_ofChars`); rendering replaces each placeholder by its
  value, and fails if one has none.

  `Role.variableNames` are the names that hosts of a role have to define in any
  case; `missingVariables` are those that a host lacks.
-/
import NetworkSite.Data.Earlier
import NetworkSite.Data.SortedMap
import NetworkSite.Site.Role

namespace NetworkSite

/-- The values of variables by their names. -/
abbrev Environment := SortedMap String String

namespace Environment

/-- The environment of a list; the last value of a name counts. -/
def ofList (values : List (String × String)) : Environment :=
  values.foldl (fun env (name, value) => env.insert name value) SortedMap.empty

end Environment

/-! ## Pieces -/

/-- A piece of a template. -/
inductive Piece where
  | char (c : Char)
  | placeholder (name : String)
  deriving DecidableEq

namespace Piece

/-- A character of the name of a variable. -/
def isNameChar (c : Char) : Bool :=
  c.isUpper || c.isDigit || c == '_'

/-- The name up to the closing brace, and what follows. -/
def readName? (cs : List Char) : Option (List Char × List Char) :=
  match cs.takeWhile isNameChar, cs.dropWhile isNameChar with
  | c :: name, '}' :: rest => some (c :: name, rest)
  | _, _ => none

theorem length_readName {cs name rest : List Char} (h : readName? cs = some (name, rest)) :
    rest.length < cs.length := by
  have hle : (cs.dropWhile isNameChar).length ≤ cs.length := (List.dropWhile_suffix _).length_le
  unfold readName? at h
  split at h
  next heq =>
    obtain ⟨-, rfl⟩ := Prod.mk.inj (Option.some.inj h)
    rw [heq, List.length_cons] at hle
    omega
  next => cases h

theorem eq_of_readName {cs name rest : List Char} (h : readName? cs = some (name, rest)) :
    cs = name ++ '}' :: rest := by
  have hcs := List.takeWhile_append_dropWhile (p := isNameChar) (l := cs)
  unfold readName? at h
  split at h
  next hname hrest =>
    obtain ⟨rfl, rfl⟩ := Prod.mk.inj (Option.some.inj h)
    rw [← hcs, hname, hrest]
  next => cases h

/-- The pieces of a text. -/
def ofChars : List Char → List Piece
  | [] => []
  | '$' :: '{' :: cs =>
    match _h : readName? cs with
    | some (name, rest) => placeholder (String.ofList name) :: ofChars rest
    | none => char '$' :: ofChars ('{' :: cs)
  | c :: cs => char c :: ofChars cs
termination_by cs => cs.length
decreasing_by
  · have := length_readName _h
    simp only [List.length_cons]
    omega
  all_goals simp

/-- The text of a piece in a template. -/
def chars : Piece → List Char
  | char c => [c]
  | placeholder name => '$' :: '{' :: name.toList ++ ['}']

theorem flatMap_chars_ofChars (cs : List Char) : (ofChars cs).flatMap (·.chars) = cs := by
  fun_induction ofChars cs with
  | case1 => rfl
  | case2 cs name rest h ih =>
    rw [List.flatMap_cons, ih, chars, String.toList_ofList, eq_of_readName h]
    simp
  | case3 cs h ih => rw [List.flatMap_cons, ih]; rfl
  | case4 c cs _ ih => rw [List.flatMap_cons, ih]; rfl

/-- The name of a placeholder. -/
def name? : Piece → Option String
  | char _ => none
  | placeholder name => some name

/-- The text that takes the place of a piece; an undefined variable is empty. -/
def fill (env : Environment) : Piece → List Char
  | char c => [c]
  | placeholder name => ((env.get? name).getD "").toList

end Piece

/-! ## Templates -/

/-- A template for the hosts of a role. -/
structure Template where
  role : Role
  /-- The name of the file made from it. -/
  name : String
  text : String
  deriving DecidableEq

namespace Template

/-- The pieces of a template. -/
def pieces (t : Template) : List Piece :=
  Piece.ofChars t.text.toList

/-- The names of the placeholders, in order and without repetition. -/
def variableNames (t : Template) : List String :=
  firstOccurrences (t.pieces.filterMap (·.name?))

/-- The placeholders without a value. -/
def missing (t : Template) (env : Environment) : List String :=
  t.variableNames.filter fun name => !env.contains name

/-- The text with all placeholders replaced, or the names without a value. -/
def render (t : Template) (env : Environment) : Except (List String) String :=
  match t.missing env with
  | [] => .ok (String.ofList (t.pieces.flatMap (·.fill env)))
  | names => .error names

/-- The templates of a role. -/
def ofRole (templates : List Template) (r : Role) : List Template :=
  templates.filter (·.role == r)

/-- The templates of roles, in the order of the roles. -/
def ofRoles (templates : List Template) (roles : List Role) : List Template :=
  roles.flatMap (ofRole templates)

end Template

/-! ## Variables of roles -/

/-- The names that hosts of a role have to define, whatever their templates. -/
def Role.variableNames : Role → List String
  | generic =>
    ["HOSTNAME", "DOMAIN", "FQDN", "SITE_NAME", "TIMEZONE", "BUILD_STAGE", "ROLES", "NAMESERVERS",
      "NTP_SERVERS"]
  | vmhost => ["VM_GUESTS", "VSWITCHES"]
  | router => ["FIREWALL_RULES", "FIREWALL_ZONES", "ROUTER_VLANS", "UPLINK_IFACE"]
  | dns => ["DNS_RECORDS", "DNS_ZONES", "DNS_REVERSE_ZONES", "DNS_FORWARDERS"]
  | dhcp => ["DHCP4_SUBNETS", "DHCP6_SUBNETS", "DHCP_RESERVATIONS"]
  | ntp => ["NTP_SERVERS"]
  | storage => []
  | build => []

/-- The names that hosts of a role need, with those of its templates. -/
def Role.needs (templates : List Template) (r : Role) : List String :=
  r.variableNames ++ (Template.ofRole templates r).flatMap (·.variableNames)

/-- A variable that a host needs and does not define. -/
structure MissingVariable where
  host : String
  name : String
  deriving DecidableEq

def MissingVariable.message (m : MissingVariable) : String :=
  s!"host '{m.host}': variable '{m.name}' is not defined"

/-- The variables that a host with the given roles needs and its environment
    lacks, each once. -/
def missingVariables (templates : List Template) (host : String) (roles : List Role)
    (env : Environment) : List MissingVariable :=
  ((firstOccurrences (roles.flatMap (·.needs templates))).filter fun name => !env.contains name).map
    fun name => { host, name }

end NetworkSite
