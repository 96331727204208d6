/-
  Reading values out of documents.

  A decoder gives the value that a document means, or nothing if it means
  none.  `null` means nothing to a decoder other than `nullable`.

  * `record fields` is the view of a document as a record: the values of its
    fields by name.  A record is a table, in which a field may stand under its
    name, an alias or its position, but only once, or a list of the values of
    the first fields in order.  A table may have keys of other fields.
  * `oneOrMany d` accepts what `d` accepts as a list of one, and otherwise a
    list whose items `d` accepts, after the document has been resolved.
-/
import NetworkSite.Document.Basic

namespace NetworkSite

/-- A reader of values of one type. -/
abbrev Decoder (α : Type) := Document → Option α

namespace Decode

variable {α : Type}

/-! ## Scalars -/

def string : Decoder String
  | .text s => some s
  | .plain s => some s
  | _ => none

def boolean : Decoder Bool
  | .bool b => some b
  | .plain s => Plain.bool? s.toList
  | _ => none

/-- A natural number of the given count of bits.  A minus sign is only
    accepted where the document has been resolved, in front of zero. -/
def natural (bits : Nat) : Decoder Nat :=
  let inRange (n : Nat) := if n < 2 ^ bits then some n else none
  fun
  | .natural n => inRange n
  | .negative n => if n = 0 then some 0 else none
  | .plain s => (Plain.natural? s.toList).bind inRange
  | _ => none

/-- A natural number of 32 bits. -/
def word32 : Decoder UInt32 := fun d =>
  (natural 32 d).map UInt32.ofNat

/-- A natural number of 64 bits. -/
def word64 : Decoder UInt64 := fun d =>
  (natural 64 d).map UInt64.ofNat

/-- An integer of the given count of bits, of which one is the sign. -/
def signed (bits : Nat) : Decoder Int :=
  let ofSize (n : Nat) : Option Int := if n < 2 ^ (bits - 1) then some n else none
  let ofNegative (n : Nat) : Option Int := if n ≤ 2 ^ (bits - 1) then some (-n) else none
  fun
  | .natural n => ofSize n
  | .negative n => ofNegative n
  | .plain s =>
    match Plain.natural? s.toList with
    | some n => ofSize n
    | none => (Plain.negative? s.toList).bind ofNegative
  | _ => none

/-! ## Composites -/

/-- Nothing, or a value. -/
def nullable (decode : Decoder α) : Decoder (Option α)
  | .null => some none
  | .plain s => if Plain.isNull s.toList then some none else (decode (.plain s)).map some
  | d => (decode d).map some

/-- A list of values.  An empty plain scalar is an empty list. -/
def list (decode : Decoder α) : Decoder (List α)
  | .list items => items.mapM decode
  | .series items => items.mapM decode
  | .plain s => if s.isEmpty then some [] else none
  | _ => none

/-- One value or a list of them, in this order. -/
def oneOrMany (decode : Decoder α) : Decoder (List α) := fun d => do
  let d ← d.resolve?
  match decode d with
  | some a => some [a]
  | none =>
    match d with
    | .list items => items.mapM decode
    | _ => none

/-! ## Records -/

/-- A field of a record: its name and the other names it goes by. -/
structure Field where
  name : String
  aliases : List String := []

/-- How the key of a table points to a field. -/
inductive Key where
  | name (s : String)
  /-- The position of the field in its record. -/
  | position (n : Nat)

def Key.ofDocument? : Decoder Key
  | .text s => some (.name s)
  | .plain s => some (.name s)
  | .natural n => some (.position n)
  | _ => none

/-- A key that points to the field, which stands at a position of a record. -/
def Field.isKey (field : Field) (position : Nat) : Key → Bool
  | .name s => s == field.name || field.aliases.contains s
  | .position n => n == position

/-- The values of a record's fields by name. -/
abbrev Record := List (String × Document)

/-- The value of the field at a position in the entries of a table, if it has
    one; an error if it has several. -/
def fieldValue (entries : List (Key × Document)) (field : Field) (position : Nat) :
    Option Record :=
  match entries.filter fun e => field.isKey position e.1 with
  | [] => some []
  | [e] => some [(field.name, e.2)]
  | _ => none

/-- The view of the entries of a table as a record. -/
def entriesRecord (fields : List Field) (entries : List (Document × Document)) : Option Record := do
  let entries ← entries.mapM fun (key, value) => (Key.ofDocument? key).map (·, value)
  let values ← fields.zipIdx.mapM fun (field, position) => fieldValue entries field position
  return values.flatten

/-- The view of a document as a record with the given fields. -/
def record (fields : List Field) : Decoder Record
  | .table entries => entriesRecord fields entries
  | .list items =>
    if items.length ≤ fields.length then some ((fields.map (·.name)).zip items) else none
  | .plain s => if s.isEmpty then some [] else none
  | _ => none

/-- The view of a document as a record written as a table. -/
def tableRecord (fields : List Field) : Decoder Record
  | .table entries => entriesRecord fields entries
  | _ => none

/-- The value of a field that must be there. -/
def Record.required (r : Record) (name : String) (decode : Decoder α) : Option α :=
  (r.lookup name).bind decode

/-- The value of a field, or `value` where it is missing. -/
def Record.withDefault (r : Record) (name : String) (value : α) (decode : Decoder α) : Option α :=
  match r.lookup name with
  | some d => decode d
  | none => some value

end Decode

end NetworkSite
