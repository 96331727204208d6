/-
  Documents as YAML.

  `Document.ofYaml?` reads one YAML document made of block and flow lists and
  tables with plain and quoted scalars and comments.  An empty text is an empty
  plain scalar.

  The functions here read values from tokens and give the tokens that follow.
  Each takes `fuel`, a bound on the count of steps, and `depth`, the count of
  lists and tables around.  What stands inside too many of them has to be
  well-formed but is `unreadable`.
-/
import NetworkSite.Document.Yaml.Token

namespace NetworkSite

namespace Yaml

/-- The count of lists and tables inside each other that can be read. -/
def depthLimit : Nat := 128

/-- A list or table inside `depth` others. -/
def nested (depth : Nat) (d : Document) : Document :=
  if depth < depthLimit then d else .unreadable

/-- A value that is not written. -/
def missing : Document :=
  .plain ""

/-- Where a value stands. -/
inductive Context where
  /-- Inside brackets. -/
  | flow
  /-- As the whole document or an item of a block list. -/
  | block
  /-- As a key or value of a block table, where a list needs no indentation. -/
  | entry

/-! ## Ends of values -/

def endsItem : Token → Bool
  | .dash => true
  | .key => true
  | .value => true
  | .blockEnd => true
  | _ => false

def endsEntry : Token → Bool
  | .key => true
  | .value => true
  | .blockEnd => true
  | _ => false

def endsFlowItem : Token → Bool
  | .comma => true
  | .closeBracket => true
  | _ => false

def endsFlowEntry : Token → Bool
  | .comma => true
  | .closeBrace => true
  | _ => false

/-- The token, or a colon, ends a key. -/
def orColon (ends : Token → Bool) : Token → Bool
  | .value => true
  | t => ends t

/-! ## Values -/

mutual

/-- A value. -/
def readValue? (fuel depth : Nat) (context : Context) (tokens : List Token) :
    Option (Document × List Token) :=
  match fuel with
  | 0 => none
  | fuel + 1 =>
    match context, tokens with
    | _, .scalar d :: rest => some (d, rest)
    | _, .openBracket :: rest =>
      (flowItems? fuel (depth + 1) rest).map fun (items, rest) =>
        (nested depth (.series items), rest)
    | _, .openBrace :: rest =>
      (flowEntries? fuel (depth + 1) rest).map fun (entries, rest) =>
        (nested depth (.table entries), rest)
    | .flow, _ => none
    | _, .listStart :: rest =>
      (blockItems? fuel (depth + 1) true rest).map fun (items, rest) =>
        (nested depth (.series items), rest)
    | _, .tableStart :: rest =>
      (blockEntries? fuel (depth + 1) rest).map fun (entries, rest) =>
        (nested depth (.table entries), rest)
    | .entry, .dash :: rest =>
      (blockItems? fuel (depth + 1) false (.dash :: rest)).map fun (items, rest) =>
        (nested depth (.series items), rest)
    | _, _ => none

/-- A value, which is missing if a token comes that ends it. -/
def valueUnless? (ends : Token → Bool) (fuel depth : Nat) (context : Context)
    (tokens : List Token) : Option (Document × List Token) :=
  match fuel with
  | 0 => none
  | fuel + 1 =>
    if tokens.head?.any ends then some (missing, tokens)
    else readValue? fuel depth context tokens

/-- The value behind a colon, if there is one. -/
def valueAfterColon? (ends : Token → Bool) (fuel depth : Nat) (context : Context)
    (tokens : List Token) : Option (Document × List Token) :=
  match fuel with
  | 0 => none
  | fuel + 1 =>
    match tokens with
    | .value :: rest => valueUnless? ends fuel depth context rest
    | rest => some (missing, rest)

/-- The items of a block list.  One that is indented closes like a table,
    another one where no dash follows. -/
def blockItems? (fuel depth : Nat) (indented : Bool) (tokens : List Token) :
    Option (List Document × List Token) :=
  match fuel with
  | 0 => none
  | fuel + 1 =>
    match tokens with
    | .dash :: rest => do
      let (item, rest) ← valueUnless? endsItem fuel depth .block rest
      let (items, rest) ← blockItems? fuel depth indented rest
      return (item :: items, rest)
    | .blockEnd :: rest => some ([], if indented then rest else .blockEnd :: rest)
    | rest => if indented then none else some ([], rest)

/-- The entries of a block table. -/
def blockEntries? (fuel depth : Nat) (tokens : List Token) :
    Option (List (Document × Document) × List Token) :=
  match fuel with
  | 0 => none
  | fuel + 1 =>
    match tokens with
    | .key :: rest => do
      let (key, rest) ← valueUnless? endsEntry fuel depth .entry rest
      let (value, rest) ← valueAfterColon? endsEntry fuel depth .entry rest
      let (entries, rest) ← blockEntries? fuel depth rest
      return ((key, value) :: entries, rest)
    | .blockEnd :: rest => some ([], rest)
    | _ => none

/-- An item inside brackets, which may be a table of one entry without braces.
    A mark of a key without a key takes the token behind it along. -/
def flowItem? (fuel depth : Nat) (tokens : List Token) : Option (Document × List Token) :=
  match fuel with
  | 0 => none
  | fuel + 1 =>
    match tokens with
    | .key :: rest => do
      let (key, rest) ←
        if rest.head?.any (orColon endsFlowItem) then some (missing, rest.tail)
        else readValue? fuel (depth + 1) .flow rest
      let (value, rest) ← valueAfterColon? endsFlowItem fuel (depth + 1) .flow rest
      return (nested depth (.table [(key, value)]), rest)
    | rest => readValue? fuel depth .flow rest

/-- The items up to the closing bracket. -/
def flowItems? (fuel depth : Nat) (tokens : List Token) : Option (List Document × List Token) :=
  match fuel with
  | 0 => none
  | fuel + 1 =>
    match tokens with
    | .closeBracket :: rest => some ([], rest)
    | rest => do
      let (item, rest) ← flowItem? fuel depth rest
      match rest with
      | .comma :: rest => do
        let (items, rest) ← flowItems? fuel depth rest
        return (item :: items, rest)
      | .closeBracket :: rest => return ([item], rest)
      | _ => none

/-- An entry inside braces.  A value without a colon is a key. -/
def flowEntry? (fuel depth : Nat) (tokens : List Token) :
    Option ((Document × Document) × List Token) :=
  match fuel with
  | 0 => none
  | fuel + 1 =>
    match tokens with
    | .key :: rest => do
      let (key, rest) ← valueUnless? (orColon endsFlowEntry) fuel depth .flow rest
      let (value, rest) ← valueAfterColon? endsFlowEntry fuel depth .flow rest
      return ((key, value), rest)
    | rest => do
      let (key, rest) ← readValue? fuel depth .flow rest
      return ((key, missing), rest)

/-- The entries up to the closing brace. -/
def flowEntries? (fuel depth : Nat) (tokens : List Token) :
    Option (List (Document × Document) × List Token) :=
  match fuel with
  | 0 => none
  | fuel + 1 =>
    match tokens with
    | .closeBrace :: rest => some ([], rest)
    | rest => do
      let (entry, rest) ← flowEntry? fuel depth rest
      match rest with
      | .comma :: rest => do
        let (entries, rest) ← flowEntries? fuel depth rest
        return (entry :: entries, rest)
      | .closeBrace :: rest => return ([entry], rest)
      | _ => none

end

/-! ## Documents -/

def isDocumentEnd : Token → Bool
  | .documentEnd => true
  | _ => false

def isBoundary : Token → Bool
  | .documentStart => true
  | .documentEnd => true
  | _ => false

/-- The only document of the tokens. -/
def document? (tokens : List Token) : Option Document := do
  let fuel := 4 * tokens.length + 4
  let (d, rest) ←
    match tokens with
    | [] => some (missing, [])
    | .documentStart :: rest =>
      if rest.head?.all isBoundary then some (missing, rest) else readValue? fuel 0 .block rest
    | tokens => readValue? fuel 0 .block tokens
  if rest.all isDocumentEnd then some d else none

end Yaml

/-- The document that a YAML text writes. -/
def Document.ofYaml? (s : String) : Option Document :=
  (Yaml.Token.ofText? s).bind Yaml.document?

end NetworkSite
