/-
  Documents as JSON.

  * `Document.ofJson?` reads a JSON text.  A number with a fraction or an
    exponent is a `fraction`, and so are `-0` and every integer that needs more
    than 64 bits.  A text with half of a surrogate pair is `unreadable`.
  * `Document.compact` writes a document on one line, `Document.pretty` with
    each item on a line of its own, indented by two spaces a level.  Quotes,
    backslashes and the characters below U+0020 are escaped, all else stands
    for itself.
-/
import NetworkSite.Document.Basic
import NetworkSite.Text.Split

namespace NetworkSite

namespace Json

/-! ## Reading -/

def isSpace (c : Char) : Bool :=
  c == ' ' || c == '\t' || c == '\n' || c == '\r'

def skipSpace (cs : List Char) : List Char :=
  cs.dropWhile isSpace

/-- The number of four hexadecimal digits. -/
def unit? (a b c d : Char) : Option Nat :=
  Text.readDigits 16 [a, b, c, d]

/-- The character of a short escape. -/
def escaped? : Char → Option Char
  | '"' => some '"'
  | '\\' => some '\\'
  | '/' => some '/'
  | 'b' => some '\x08'
  | 'f' => some '\x0c'
  | 'n' => some '\n'
  | 'r' => some '\r'
  | 't' => some '\t'
  | _ => none

/-- The codes of the characters up to the closing quote, and what follows it. -/
def readCodes? : List Char → Option (List Nat × List Char)
  | '"' :: rest => some ([], rest)
  | '\\' :: 'u' :: a :: b :: c :: d :: rest => do
    let code ← unit? a b c d
    let (codes, rest) ← readCodes? rest
    return (code :: codes, rest)
  | '\\' :: c :: rest => do
    let c ← escaped? c
    let (codes, rest) ← readCodes? rest
    return (c.toNat :: codes, rest)
  | c :: rest =>
    if c.toNat < 0x20 then none
    else do
      let (codes, rest) ← readCodes? rest
      return (c.toNat :: codes, rest)
  | [] => none

def isHighSurrogate (code : Nat) : Bool :=
  0xD800 ≤ code && code < 0xDC00

def isLowSurrogate (code : Nat) : Bool :=
  0xDC00 ≤ code && code < 0xE000

/-- The characters of codes, where a pair of surrogates is one character; a
    surrogate alone is an error. -/
def charsOf? : List Nat → Option (List Char)
  | [] => some []
  | high :: low :: codes =>
    if isHighSurrogate high && isLowSurrogate low then
      (charsOf? codes).map (Char.ofNat (0x10000 + (high - 0xD800) * 0x400 + (low - 0xDC00)) :: ·)
    else if isHighSurrogate high || isLowSurrogate high then none
    else (charsOf? (low :: codes)).map (Char.ofNat high :: ·)
  | [code] => if isHighSurrogate code || isLowSurrogate code then none else some [Char.ofNat code]

/-- A text after its opening quote, and what follows it. -/
def readText? (cs : List Char) : Option (Document × List Char) := do
  let (codes, rest) ← readCodes? cs
  return ((charsOf? codes).elim .unreadable fun cs => .text (String.ofList cs), rest)

/-- The part of a number after its integer digits, if there is one. -/
def skipFraction? : List Char → Option (List Char)
  | '.' :: rest =>
    if (rest.takeWhile Char.isDigit).isEmpty then none else some (rest.dropWhile Char.isDigit)
  | rest => some rest

def skipExponent? : List Char → Option (List Char)
  | c :: rest =>
    if c == 'e' || c == 'E' then
      let digits := Plain.dropSign rest
      if (digits.takeWhile Char.isDigit).isEmpty then none else some (digits.dropWhile Char.isDigit)
    else some (c :: rest)
  | [] => some []

/-- The count of bits of an integer. -/
def width : Nat := 64

/-- The integer of a size, or a fraction if it has too many bits or is a zero
    with a minus sign. -/
def integer (negative : Bool) (n : Nat) : Document :=
  if negative then if n = 0 || 2 ^ (width - 1) < n then .fraction else .negative n
  else if n < 2 ^ width then .natural n
  else .fraction

/-- A number, and what follows it. -/
def readNumber? (cs : List Char) : Option (Document × List Char) := do
  let (negative, unsigned) :=
    match cs with
    | '-' :: rest => (true, rest)
    | rest => (false, rest)
  let digits := unsigned.takeWhile Char.isDigit
  let after := unsigned.dropWhile Char.isDigit
  let n ← Text.readDigits 10 digits
  if Plain.hasLeadingZero digits then none
  else
    let rest ← skipExponent? (← skipFraction? after)
    if rest.length < after.length then return (.fraction, rest)
    else return (integer negative n, rest)

mutual

/-- A value, and what follows it; `fuel` bounds the count of values. -/
def readValue? (fuel : Nat) (cs : List Char) : Option (Document × List Char) :=
  match fuel with
  | 0 => none
  | fuel + 1 =>
    match skipSpace cs with
    | 'n' :: 'u' :: 'l' :: 'l' :: rest => some (.null, rest)
    | 't' :: 'r' :: 'u' :: 'e' :: rest => some (.bool true, rest)
    | 'f' :: 'a' :: 'l' :: 's' :: 'e' :: rest => some (.bool false, rest)
    | '"' :: rest => readText? rest
    | '[' :: rest =>
      match skipSpace rest with
      | ']' :: rest => some (.list [], rest)
      | rest => do
        let (items, rest) ← readItems? fuel rest
        return (.list items, rest)
    | '{' :: rest =>
      match skipSpace rest with
      | '}' :: rest => some (.table [], rest)
      | rest => do
        let (entries, rest) ← readEntries? fuel rest
        return (.table entries, rest)
    | rest => readNumber? rest

/-- The items up to the closing bracket. -/
def readItems? (fuel : Nat) (cs : List Char) : Option (List Document × List Char) :=
  match fuel with
  | 0 => none
  | fuel + 1 => do
    let (item, rest) ← readValue? fuel cs
    match skipSpace rest with
    | ',' :: rest => do
      let (items, rest) ← readItems? fuel rest
      return (item :: items, rest)
    | ']' :: rest => return ([item], rest)
    | _ => none

/-- The entries up to the closing brace. -/
def readEntries? (fuel : Nat) (cs : List Char) :
    Option (List (Document × Document) × List Char) :=
  match fuel with
  | 0 => none
  | fuel + 1 =>
    match skipSpace cs with
    | '"' :: rest => do
      let (key, rest) ← readText? rest
      match skipSpace rest with
      | ':' :: rest => do
        let (value, rest) ← readValue? fuel rest
        match skipSpace rest with
        | ',' :: rest => do
          let (entries, rest) ← readEntries? fuel rest
          return ((key, value) :: entries, rest)
        | '}' :: rest => return ([(key, value)], rest)
        | _ => none
      | _ => none
    | _ => none

end

/-! ## Writing -/

/-- A character of a quoted text. -/
def escapeChar (c : Char) : List Char :=
  if c == '"' then ['\\', '"']
  else if c == '\\' then ['\\', '\\']
  else if c == '\n' then ['\\', 'n']
  else if c == '\r' then ['\\', 'r']
  else if c == '\t' then ['\\', 't']
  else if c == '\x08' then ['\\', 'b']
  else if c == '\x0c' then ['\\', 'f']
  else if c.toNat < 0x20 then '\\' :: 'u' :: Text.hexPadded 4 c.toNat
  else [c]

/-- A text in quotes. -/
def quote (cs : List Char) : List Char :=
  '"' :: cs.flatMap escapeChar ++ ['"']

/-- How the items of lists and tables are laid out. -/
structure Layout where
  /-- The break before an item of the given depth, and before a closing bracket. -/
  newline : Nat → List Char
  /-- What stands between a key and its value. -/
  colon : List Char

/-- Everything on one line. -/
def Layout.compact : Layout :=
  { newline := fun _ => [], colon := [':'] }

/-- Each item on a line of its own, indented by two spaces a level. -/
def Layout.pretty : Layout :=
  { newline := fun depth => '\n' :: List.replicate (2 * depth) ' ', colon := [':', ' '] }

mutual

/-- The text of a document at a depth.  A plain scalar is written as text, and
    what has no value as `null`. -/
def write (layout : Layout) (depth : Nat) : Document → List Char
  | .null => "null".toList
  | .bool b => (if b then "true" else "false").toList
  | .natural n => Text.decimal n
  | .negative n => '-' :: Text.decimal n
  | .fraction => "null".toList
  | .unreadable => "null".toList
  | .text s => quote s.toList
  | .plain s => quote s.toList
  | .list items => writeList layout depth items
  | .series items => writeList layout depth items
  | .table [] => ['{', '}']
  | .table ((key, value) :: entries) =>
    '{' :: layout.newline (depth + 1) ++ write layout (depth + 1) key ++ layout.colon ++
      write layout (depth + 1) value ++
      writeEntries layout (depth + 1) entries ++ layout.newline depth ++ ['}']

/-- The text of a list at a depth. -/
def writeList (layout : Layout) (depth : Nat) : List Document → List Char
  | [] => ['[', ']']
  | item :: items =>
    '[' :: layout.newline (depth + 1) ++ write layout (depth + 1) item ++
      writeItems layout (depth + 1) items ++ layout.newline depth ++ [']']

/-- The items after the first, each behind a comma. -/
def writeItems (layout : Layout) (depth : Nat) : List Document → List Char
  | [] => []
  | item :: items =>
    ',' :: layout.newline depth ++ write layout depth item ++ writeItems layout depth items

/-- The entries after the first, each behind a comma. -/
def writeEntries (layout : Layout) (depth : Nat) : List (Document × Document) → List Char
  | [] => []
  | (key, value) :: entries =>
    ',' :: layout.newline depth ++ write layout depth key ++ layout.colon ++
      write layout depth value ++ writeEntries layout depth entries

end

end Json

namespace Document

/-- The document that a JSON text writes. -/
def ofJson? (s : String) : Option Document := do
  let (d, rest) ← Json.readValue? (s.length + 1) s.toList
  if (Json.skipSpace rest).isEmpty then some d else none

/-- The document on one line. -/
def compact (d : Document) : String :=
  String.ofList (Json.write .compact 0 d)

/-- The document with each item on a line of its own. -/
def pretty (d : Document) : String :=
  String.ofList (Json.write .pretty 0 d)

end Document

end NetworkSite
