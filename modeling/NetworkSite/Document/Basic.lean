/-
  Documents: the values that site definitions and plans are written in.

  A document is read from JSON or YAML and written as JSON.  What a YAML text
  says is open at first: a scalar without quotes stays `plain` until it is
  known what is wanted at its place, where a text takes it as it stands and
  every other reader takes its meaning, and a list stays a `series`, which is
  no record of fields by position.  `resolve?` settles all of it at once.
-/
import NetworkSite.Text.Numeral

namespace NetworkSite

/-- A value of a document.  The entries of a table, keys with values, keep
    their order. -/
inductive Document where
  | null
  | bool (b : Bool)
  | natural (n : Nat)
  /-- A number with a minus sign, which zero can have too. -/
  | negative (n : Nat)
  /-- A number that is no integer of 64 bits; nothing in a site is one. -/
  | fraction
  | text (s : String)
  /-- A scalar without quotes whose meaning is open. -/
  | plain (s : String)
  | list (items : List Document)
  /-- A list whose use is open. -/
  | series (items : List Document)
  | table (entries : List (Document × Document))
  /-- A value that can stand in a document but not be read. -/
  | unreadable
  deriving Inhabited

namespace Document

/-- The table with the given texts as keys. -/
def ofFields (entries : List (String × Document)) : Document :=
  .table (entries.map fun (key, value) => (.text key, value))

/-- An integer. -/
def integer : Int → Document
  | .ofNat n => .natural n
  | .negSucc n => .negative (n + 1)

end Document

/-! ## Plain scalars -/

namespace Plain

/-- The spellings of nothing. -/
def isNull (cs : List Char) : Bool :=
  ["", "~", "null", "Null", "NULL"].any (·.toList == cs)

def bool? (cs : List Char) : Option Bool :=
  if ["true", "True", "TRUE"].any (·.toList == cs) then some true
  else if ["false", "False", "FALSE"].any (·.toList == cs) then some false
  else none

/-- Digits after a leading zero, which make a text and no number. -/
def hasLeadingZero (digits : List Char) : Bool :=
  1 < digits.length && digits.head? == some '0' && digits.all Char.isDigit

/-- A number in decimal digits. -/
def decimal? (cs : List Char) : Option Nat :=
  if hasLeadingZero cs then none else Text.readDigits 10 cs

/-- A number after a mark of its base: `0x`, `0o` or `0b`. -/
def marked? : List Char → Option Nat
  | '0' :: 'x' :: digits => Text.readDigits 16 digits
  | '0' :: 'o' :: digits => Text.readDigits 8 digits
  | '0' :: 'b' :: digits => Text.readDigits 2 digits
  | _ => none

/-- A number, optionally after a `+`. -/
def natural? (cs : List Char) : Option Nat :=
  (marked? (Text.dropPlus cs)).or (decimal? (Text.dropPlus cs))

/-- The size of a number after a minus sign. -/
def negative? : List Char → Option Nat
  | '-' :: rest => (marked? rest).or (decimal? rest)
  | _ => none

/-- The text without one leading sign. -/
def dropSign : List Char → List Char
  | '+' :: rest => rest
  | '-' :: rest => rest
  | cs => cs

/-! ### Numbers with a point or an exponent -/

/-- A number `digits * 10 ^ exponent`. -/
structure Scientific where
  digits : Nat
  exponent : Int

/-- The number of a run of digits with at most one point among or around them. -/
def mantissa? (cs : List Char) : Option Scientific := do
  let whole := cs.takeWhile Char.isDigit
  let places ←
    match cs.dropWhile Char.isDigit with
    | [] => some []
    | '.' :: rest => if rest.all Char.isDigit then some rest else none
    | _ => none
  return { digits := ← Text.readDigits 10 (whole ++ places), exponent := -places.length }

/-- The number of an exponent: `e` or `E` and an optionally signed run of
    digits; nothing stands for no exponent. -/
def exponent? : List Char → Option Int
  | [] => some 0
  | c :: rest =>
    if c == 'e' || c == 'E' then
      match rest with
      | '-' :: digits => (Text.readDigits 10 digits).map fun n => -n
      | digits => (Text.readDigits 10 (Text.dropPlus digits)).map fun n => n
    else none

/-- A number without sign, with or without point and exponent. -/
def scientific? (cs : List Char) : Option Scientific := do
  let isMantissaChar (c : Char) : Bool := c.isDigit || c == '.'
  let m ← mantissa? (cs.takeWhile isMantissaChar)
  let e ← exponent? (cs.dropWhile isMantissaChar)
  return { m with exponent := m.exponent + e }

/-- The exponent of the least power of two above all fractions, and the count
    of bits of a fraction. -/
def fractionExponent : Nat := 1024
def fractionBits : Nat := 53

/-- The least number that is no fraction: half a unit in the last place above
    the largest fraction. -/
def fractionLimit : Nat :=
  2 ^ fractionExponent - 2 ^ (fractionExponent - fractionBits - 1)

/-- The number is below the limit of fractions.  The count of its digits
    decides, except for numbers close to the limit. -/
def Scientific.isFinite (n : Scientific) : Bool :=
  let length := (Text.decimal n.digits).length + n.exponent
  if n.digits = 0 || length ≤ 308 then true
  else if 309 < length then false
  else
    match n.exponent with
    | .ofNat e => n.digits * 10 ^ e < fractionLimit
    | .negSucc e => n.digits < fractionLimit * 10 ^ (e + 1)

/-- A finite number, or a name of infinity or of no number. -/
def isFraction (cs : List Char) : Bool :=
  let unsigned := dropSign cs
  if [".inf", ".Inf", ".INF"].any (·.toList == unsigned) then true
  else if [".nan", ".NaN", ".NAN"].any (·.toList == cs) then true
  else !hasLeadingZero unsigned && (scientific? unsigned).any Scientific.isFinite

/-! ### Meaning -/

/-- The integer of at most `bits` bits that a scalar writes, where a negative
    one spends a bit on its sign. -/
def integer? (bits : Nat) (cs : List Char) : Option Document :=
  match natural? cs, negative? cs with
  | some n, _ => if n < 2 ^ bits then some (.natural n) else none
  | none, some n => if n ≤ 2 ^ (bits - 1) then some (.negative n) else none
  | none, none => none

/-- What a plain scalar means where nothing particular is wanted.  An integer
    of 65 to 128 bits is an integer, but one that no value can hold; a longer
    one is none. -/
def meaning? (s : String) : Option Document :=
  let cs := s.toList
  if isNull cs then some .null
  else
    match bool? cs, integer? 64 cs with
    | some b, _ => some (.bool b)
    | none, some d => some d
    | none, none =>
      if (integer? 128 cs).isSome then none
      else if isFraction cs then some .fraction
      else some (.text s)

end Plain

namespace Document

mutual

/-- The document with the meaning of every plain scalar and series settled;
    nothing if some part of it cannot be read. -/
def resolve? : Document → Option Document
  | plain s => Plain.meaning? s
  | list items => (resolveItems? items).map list
  | series items => (resolveItems? items).map list
  | table entries => (resolveEntries? entries).map table
  | unreadable => none
  | d => some d

def resolveItems? : List Document → Option (List Document)
  | [] => some []
  | d :: rest => do return (← d.resolve?) :: (← resolveItems? rest)

def resolveEntries? : List (Document × Document) → Option (List (Document × Document))
  | [] => some []
  | (key, value) :: rest => do
    return (← key.resolve?, ← value.resolve?) :: (← resolveEntries? rest)

end

end Document

end NetworkSite
