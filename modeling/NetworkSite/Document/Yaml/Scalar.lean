/-
  Scalars of YAML.

  `plainScalar?` reads a scalar without quotes, `quotedScalar?` one in single or
  double quotes.  Both may go on over several lines: white space on one line
  stands for itself, of white space with line breaks one break becomes a space
  and of more breaks the first is dropped.
-/
import NetworkSite.Document.Yaml.Cursor
import NetworkSite.Text.Numeral

namespace NetworkSite

namespace Yaml

/-! ## White space in scalars -/

/-- What line breaks become. -/
def foldBreaks : List Char → List Char
  | '\n' :: [] => [' ']
  | '\n' :: more => more
  | breaks => breaks

/-- The text that white space inside a scalar stands for. -/
def gapText (white : List Char) : List Char :=
  if white.any isBreak then foldBreaks (white.filter isBreak) else white

/-- A tab stands to the left of column `indent` in a line that white space
    starts, where `column` is the present one in such a line. -/
def hasTabBefore (indent : Nat) (column : Option Nat) : List Char → Bool
  | [] => false
  | c :: rest =>
    if isBreak c then hasTabBefore indent (some 0) rest
    else column.any (fun n => c == '\t' && n < indent) || hasTabBefore indent (column.map (· + 1)) rest

/-! ## Plain scalars -/

/-- A bracket or comma of a flow list or table. -/
def isFlowMark (c : Char) : Bool :=
  c == ',' || c == '[' || c == ']' || c == '\x7b' || c == '\x7d'

/-- A plain scalar can start with this text, where no other token does. -/
def startsPlain : List Char → Bool
  | [] => false
  | c :: _ => !(isWhite c || isFlowMark c || "#&*!|>%@\"".toList.contains c || c == '\x27' || c == '\x60')

/-- A colon inside brackets that neither ends a scalar nor belongs to it. -/
def isLooseColon (flow : Bool) : List Char → Bool
  | ':' :: c :: _ => flow && (isFlowMark c || c == '?')
  | _ => false

/-- A word of a plain scalar ends in front of this text. -/
def endsWord (flow : Bool) : List Char → Bool
  | [] => true
  | c :: rest =>
    isWhite c || (c == ':' && atWordEnd rest) || (flow && isFlowMark c) ||
      isLooseColon flow (c :: rest)

/-- What was read of a scalar. -/
structure ScalarPart where
  text : List Char
  /-- The place behind the scalar and the white space after it. -/
  next : Cursor
  /-- That white space has a line break. -/
  endsLine : Bool := false

/-- The plain scalar of the words from here on, as long as lines start at
    column `indent` or to the right of it.  A tab to the left of it is an
    error. -/
def plainScalar? (flow : Bool) (indent : Nat) (c : Cursor) : Option ScalarPart :=
  let word := c.upTo (endsWord flow)
  let gap := word.2.gap
  let part : ScalarPart := { text := word.1, next := gap.2, endsLine := gap.1.any isBreak }
  if c.atBoundary || c.rest.head? == some '#' then some { text := [], next := c }
  else if isLooseColon flow word.2.rest || hasTabBefore indent none gap.1 then none
  else if _h : gap.1 = [] then some part
  else if !flow && gap.2.column < indent then some part
  else do
    let more ← plainScalar? flow indent gap.2
    if more.text.isEmpty then return part
    else return { more with text := word.1 ++ gapText gap.1 ++ more.text }
termination_by c.rest.length
decreasing_by exact Nat.lt_of_lt_of_le (Cursor.gap_length_lt _h) (Cursor.upTo_length_le _ c)

/-! ## Quoted scalars -/

/-- The character of a short escape. -/
def escaped? : Char → Option Char
  | '0' => some '\x00'
  | 'a' => some '\x07'
  | 'b' => some '\x08'
  | 't' => some '\t'
  | '\t' => some '\t'
  | 'n' => some '\n'
  | 'v' => some '\x0b'
  | 'f' => some '\x0c'
  | 'r' => some '\r'
  | 'e' => some '\x1b'
  | ' ' => some ' '
  | '"' => some '"'
  | '/' => some '/'
  | '\\' => some '\\'
  | 'N' => some '\u0085'
  | '_' => some '\u00a0'
  | 'L' => some '\u2028'
  | 'P' => some '\u2029'
  | _ => none

/-- The count of hexadecimal digits of a numeric escape. -/
def escapeLength? : Char → Option Nat
  | 'x' => some 2
  | 'u' => some 4
  | 'U' => some 8
  | _ => none

/-- The character with a given number, if there is one. -/
def charOf? (n : Nat) : Option Char :=
  if h : n.isValidChar then some (Char.ofNatAux n h) else none

/-- What the escape behind a backslash stands for, and the count of its
    characters.  An escaped line break stands for nothing. -/
def escape? : List Char → Option (List Char × Nat)
  | [] => none
  | e :: rest =>
    if isBreak e then some ([], 1)
    else
      match escapeLength? e with
      | some n =>
        let digits := rest.take n
        if digits.length < n then none
        else ((Text.readDigits 16 digits).bind charOf?).map fun c => ([c], n + 1)
      | none => (escaped? e).map fun c => ([c], 1)

/-- The quote that closes a scalar comes next; a single one is not followed by
    another. -/
def atClosing (quote : Char) : List Char → Bool
  | [] => false
  | c :: rest => c == quote && !(quote == '\x27' && rest.head? == some quote)

/-- What the next part of a quoted scalar stands for, and the place behind it. -/
def quotedPart? (quote : Char) (c : Cursor) : Option (List Char × Cursor) :=
  if c.gap.1 ≠ [] then some (gapText c.gap.1, c.gap.2)
  else
    match c.rest with
    | [] => none
    | ch :: rest =>
      if ch == quote then some ([quote], c.steps 2)
      else if ch == '\\' && quote == '"' then
        match escape? rest with
        | none => none
        | some ([], n) =>
          -- the breaks behind an escaped one stay
          let gap := (c.steps (n + 1)).gap
          some (gap.1.filter isBreak, gap.2)
        | some (text, n) => some (text, c.steps (n + 1))
      else some ([ch], c.step)

theorem quotedPart?_length_lt {quote : Char} {c next : Cursor} {text : List Char}
    (h : quotedPart? quote c = some (text, next)) : next.rest.length < c.rest.length := by
  unfold quotedPart? at h
  split at h
  · next hg =>
    obtain ⟨_, rfl⟩ : _ ∧ c.gap.2 = next := by simpa using h
    exact Cursor.gap_length_lt hg
  · split at h
    · simp at h
    · next ch rest hr =>
      have hne : c.rest ≠ [] := by simp [hr]
      split at h
      · obtain ⟨_, rfl⟩ : _ ∧ c.steps 2 = next := by simpa using h
        exact c.steps_length_lt 1 hne
      · split at h
        · split at h
          · simp at h
          · next n _ =>
            obtain ⟨_, rfl⟩ : _ ∧ (c.steps (n + 1)).gap.2 = next := by simpa using h
            exact Nat.lt_of_le_of_lt (Cursor.gap_length_le _) (c.steps_length_lt n hne)
          · next n _ _ =>
            obtain ⟨_, rfl⟩ : _ ∧ c.steps (n + 1) = next := by simpa using h
            exact c.steps_length_lt n hne
        · obtain ⟨_, rfl⟩ : _ ∧ c.step = next := by simpa using h
          exact c.step_length_lt hne

/-- The text up to the closing quote, and the place behind it. -/
def quotedText? (quote : Char) (c : Cursor) : Option (List Char × Cursor) :=
  if c.atBoundary then none
  else if atClosing quote c.rest then some ([], c.step)
  else
    match _h : quotedPart? quote c with
    | none => none
    | some (text, next) =>
      (quotedText? quote next).map fun (more, last) => (text ++ more, last)
termination_by c.rest.length
decreasing_by exact quotedPart?_length_lt _h

/-- The scalar in quotes that starts here. -/
def quotedScalar? (quote : Char) (c : Cursor) : Option ScalarPart :=
  (quotedText? quote c.step).map fun (text, next) => { text, next }

end Yaml

end NetworkSite
