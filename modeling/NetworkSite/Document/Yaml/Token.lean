/-
  The tokens of a YAML text.

  `Token.ofText?` gives the tokens of a text.  Blocks, which are written by
  indentation, start and end with tokens of their own, and so does the key of
  an entry, although in the text it is known by the colon behind it only.

  A `Scan` is a text in the course of this: its tokens so far, the columns of
  the open blocks, and for every level of brackets the place where a key may
  have started.  Such a key ends on its line and within 1024 bytes.
-/
import NetworkSite.Document.Basic
import NetworkSite.Document.Yaml.Scalar

namespace NetworkSite

namespace Yaml

/-- A token of a YAML text. -/
inductive Token where
  | documentStart
  | documentEnd
  /-- A block list starts. -/
  | listStart
  /-- A block table starts. -/
  | tableStart
  | blockEnd
  /-- An item of a block list follows. -/
  | dash
  /-- The key of an entry follows. -/
  | key
  /-- The value of an entry follows. -/
  | value
  | openBracket
  | closeBracket
  | openBrace
  | closeBrace
  | comma
  | scalar (d : Document)
  deriving Inhabited

/-! ## State -/

/-- A token that is a key if a colon follows it. -/
structure PendingKey where
  place : Cursor
  /-- The count of tokens in front. -/
  position : Nat
  /-- It stands where a block table wants its next key. -/
  isRequired : Bool

/-- The key cannot be closed by a colon at this place any more. -/
def PendingKey.isStale (k : PendingKey) (c : Cursor) : Bool :=
  k.place.line < c.line || k.place.index + 1024 < c.index

/-- A text, read up to a place. -/
structure Scan where
  place : Cursor
  /-- The tokens so far, the last one first. -/
  tokens : List Token := []
  /-- The count of the tokens so far. -/
  count : Nat := 0
  /-- The columns of the open blocks, the innermost first. -/
  indents : List Nat := []
  /-- A key may start at the next token. -/
  keyAllowed : Bool := true
  pending : Option PendingKey := none
  /-- The pending keys in front of the open brackets, the innermost first. -/
  outer : List (Option PendingKey) := []

namespace Scan

variable (s : Scan)

/-- The place stands inside brackets. -/
def inFlow : Bool :=
  !s.outer.isEmpty

/-- The least column in which a scalar may go on. -/
def indent : Nat :=
  match s.indents with
  | [] => 0
  | column :: _ => column + 1

/-- A token added behind `position` others. -/
def insert (t : Token) (position : Nat) : Scan :=
  { s with tokens := s.tokens.insertIdx (s.count - position) t, count := s.count + 1 }

/-- A token added behind all others. -/
def put (t : Token) : Scan :=
  { s with tokens := t :: s.tokens, count := s.count + 1 }

/-- The next `n` characters read as a token, which says whether a key may start
    behind it. -/
def take (t : Token) (n : Nat) (keyAllowed : Bool) : Scan :=
  { s.put t with place := s.place.steps n, keyAllowed }

/-! ### Keys -/

/-- No key is pending; an error if one is required. -/
def dropKey? : Option Scan :=
  if s.pending.any (·.isRequired) then none else some { s with pending := none }

/-- The next token is a pending key, if a key may start here. -/
def offerKey? : Option Scan :=
  if s.keyAllowed then
    s.dropKey?.map fun s =>
      let isRequired := !s.inFlow && s.indents.head? == some s.place.column
      { s with pending := some { place := s.place, position := s.count, isRequired } }
  else some s

/-- The stale keys of all levels are dropped; an error if one is required. -/
def dropStale? : Option Scan := do
  let fresh? (k : Option PendingKey) : Option (Option PendingKey) :=
    match k with
    | some k =>
      if !k.isStale s.place then some (some k) else if k.isRequired then none else some none
    | none => some none
  return { s with pending := ← fresh? s.pending, outer := ← s.outer.mapM fresh? }

/-! ### Blocks -/

/-- A block opened in a column to the right of the open blocks, behind
    `position` tokens. -/
def openBlock (start : Token) (column position : Nat) : Scan :=
  if s.inFlow || s.indents.head?.any (column ≤ ·) then s
  else { s.insert start position with indents := column :: s.indents }

/-- A block opened at this place; an error if none may start here. -/
def openBlockHere? (start : Token) : Option Scan :=
  if s.inFlow then some s
  else if s.keyAllowed then some (s.openBlock start s.place.column s.count)
  else none

/-- The innermost blocks closed, as long as their columns satisfy `p`. -/
def closeBlocks (p : Nat → Bool) : Scan :=
  if s.inFlow then s
  else
    let outside := { s with indents := s.indents.dropWhile p }
    (s.indents.takeWhile p).foldl (fun s _ => s.put .blockEnd) outside

/-- All blocks closed and no key pending. -/
def finish? : Option Scan :=
  (s.closeBlocks fun _ => true).dropKey?

/-! ## White space -/

/-- The place moved to the next token, over white space and comments.  A tab is
    white space inside brackets and where no key may start. -/
def skip (s : Scan) : Scan :=
  match _h : s.place.rest with
  | [] => s
  | c :: _ =>
    if c == ' ' || (c == '\t' && (s.inFlow || !s.keyAllowed)) then
      { s with place := s.place.step }.skip
    else if c == '#' then { s with place := s.place.step.lineEnd }.skip
    else if isBreak c then
      { s with place := s.place.step, keyAllowed := s.keyAllowed || !s.inFlow }.skip
    else s
termination_by s.place.rest.length
decreasing_by
  · exact s.place.step_length_lt (by simp [_h])
  · exact Nat.lt_of_le_of_lt (Cursor.lineEnd_length_le _) (s.place.step_length_lt (by simp [_h]))
  · exact s.place.step_length_lt (by simp [_h])

/-! ## Tokens -/

/-- A document starts or ends. -/
def marker? (t : Token) : Option Scan :=
  s.finish?.map (·.take t 3 false)

def openFlow? (t : Token) : Option Scan :=
  s.offerKey?.map fun s =>
    { s.take t 1 true with pending := none, outer := s.pending :: s.outer }

def closeFlow? (t : Token) : Option Scan :=
  s.dropKey?.map fun s =>
    { s.take t 1 false with pending := s.outer.head?.join, outer := s.outer.tail }

def comma? : Option Scan :=
  s.dropKey?.map (·.take .comma 1 true)

def dash? : Option Scan := do
  let s ← (← s.openBlockHere? .listStart).dropKey?
  return s.take .dash 1 true

/-- A key behind a question mark. -/
def key? : Option Scan := do
  let s ← (← s.openBlockHere? .tableStart).dropKey?
  return s.take .key 1 !s.inFlow

/-- A colon, which makes a key of the pending one. -/
def value? : Option Scan :=
  match s.pending with
  | some k =>
    let s := (s.insert .key k.position).openBlock .tableStart k.place.column k.position
    some ({ s with pending := none }.take .value 1 false)
  | none => do
    let s ← s.openBlockHere? .tableStart
    return s.take .value 1 !s.inFlow

/-- A scalar, which ends where `read` says. -/
def scalar? (read : Cursor → Option ScalarPart) (document : String → Document) : Option Scan := do
  let s ← s.offerKey?
  let part ← read s.place
  let token := Token.scalar (document (String.ofList part.text))
  return { s.put token with place := part.next, keyAllowed := part.endsLine }

/-- The token that starts here is read. -/
def next? : Option Scan :=
  match s.place.rest with
  | [] => none
  | c :: rest =>
    if s.place.atMarker '-' then s.marker? .documentStart
    else if s.place.atMarker '.' then s.marker? .documentEnd
    else if c == '[' then s.openFlow? .openBracket
    else if c == ']' then s.closeFlow? .closeBracket
    else if c == '\x7b' then s.openFlow? .openBrace
    else if c == '\x7d' then s.closeFlow? .closeBrace
    else if c == ',' then s.comma?
    else if c == '-' && atWordEnd rest then s.dash?
    else if c == '?' && (s.inFlow || atWordEnd rest) then s.key?
    else if c == ':' && (s.inFlow || atWordEnd rest) then s.value?
    else if c == '"' || c == '\x27' then s.scalar? (quotedScalar? c) .text
    else if startsPlain (c :: rest) then s.scalar? (plainScalar? s.inFlow s.indent) .plain
    else none

/-- The tokens of the text; `fuel` bounds the count of those to be read. -/
def tokens? (fuel : Nat) (s : Scan) : Option (List Token) :=
  match fuel with
  | 0 => none
  | fuel + 1 => do
    let s ← s.skip.dropStale?
    let s := s.closeBlocks (s.place.column < ·)
    if s.place.rest.isEmpty then return (← s.finish?).tokens.reverse
    else tokens? fuel (← s.next?)

end Scan

/-- The tokens of a text. -/
def Token.ofText? (text : String) : Option (List Token) :=
  if text.toList.all isPrintable then
    Scan.tokens? (text.length + 1) { place := Cursor.ofText text }
  else none

end Yaml

end NetworkSite
