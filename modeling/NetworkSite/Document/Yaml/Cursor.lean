/-
  Places in a YAML text.

  A `Cursor` is a place with what follows it.  `step` passes one character or
  one line break, `upTo` everything in front of a stop, and `gap` white space.
  A line break is a line feed, a carriage return, both together, or one of
  Unicode's three; `upTo` gives all but the last two as a line feed.
-/

namespace NetworkSite

namespace Yaml

/-! ## Characters -/

/-- A space or a tab. -/
def isSpace (c : Char) : Bool :=
  c == ' ' || c == '\t'

/-- A character that ends a line. -/
def isBreak (c : Char) : Bool :=
  c == '\n' || c == '\r' || c == '\u0085' || c == '\u2028' || c == '\u2029'

/-- White space. -/
def isWhite (c : Char) : Bool :=
  isSpace c || isBreak c

/-- White space or the end of the text comes next. -/
def atWordEnd : List Char → Bool
  | [] => true
  | c :: _ => isWhite c

/-- A character as part of a text: line breaks are line feeds, but for those of
    a line or paragraph that are characters of their own. -/
def readAs (c : Char) : Char :=
  if c == '\r' || c == '\u0085' then '\n' else c

/-- A character that may occur in a document. -/
def isPrintable (c : Char) : Bool :=
  let n := c.toNat
  n == 9 || n == 10 || n == 13 || (0x20 ≤ n && n ≤ 0x7E) || n == 0x85 ||
    (0xA0 ≤ n && n != 0xFFFE && n != 0xFFFF)

/-! ## Places -/

/-- A place in a text. -/
structure Cursor where
  rest : List Char
  /-- The count of bytes in front. -/
  index : Nat := 0
  line : Nat := 0
  column : Nat := 0

namespace Cursor

/-- The place behind the next character or line break. -/
def step (c : Cursor) : Cursor :=
  match c.rest with
  | [] => c
  | '\r' :: '\n' :: rest => { rest, index := c.index + 2, line := c.line + 1 }
  | ch :: rest =>
    if isBreak ch then { rest, index := c.index + ch.utf8Size, line := c.line + 1 }
    else { c with rest, index := c.index + ch.utf8Size, column := c.column + 1 }

theorem step_length_lt (c : Cursor) (h : c.rest ≠ []) : c.step.rest.length < c.rest.length := by
  unfold step
  split
  · next h' => exact absurd h' h
  · next h' => simp only [h', List.length_cons]; omega
  · next h' => split <;> simp [h']

theorem step_length_le (c : Cursor) : c.step.rest.length ≤ c.rest.length := by
  by_cases h : c.rest = []
  · simp [step, h]
  · exact Nat.le_of_lt (c.step_length_lt h)

/-- The place behind the next `n` characters and line breaks. -/
def steps (c : Cursor) : Nat → Cursor
  | 0 => c
  | n + 1 => c.step.steps n

theorem steps_length_le (c : Cursor) (n : Nat) : (c.steps n).rest.length ≤ c.rest.length := by
  induction n generalizing c with
  | zero => exact Nat.le_refl _
  | succ n ih => exact Nat.le_trans (ih c.step) c.step_length_le

theorem steps_length_lt (c : Cursor) (n : Nat) (h : c.rest ≠ []) :
    (c.steps (n + 1)).rest.length < c.rest.length :=
  Nat.lt_of_le_of_lt (c.step.steps_length_le n) (c.step_length_lt h)

/-- The text in front of the next place where `stop` holds of what follows, and
    that place. -/
def upTo (stop : List Char → Bool) (c : Cursor) : List Char × Cursor :=
  match _h : c.rest with
  | [] => ([], c)
  | ch :: rest =>
    if stop (ch :: rest) then ([], c)
    else
      let (cs, next) := c.step.upTo stop
      (readAs ch :: cs, next)
termination_by c.rest.length
decreasing_by exact c.step_length_lt (by simp [_h])

theorem upTo_length_le (stop : List Char → Bool) (c : Cursor) :
    (c.upTo stop).2.rest.length ≤ c.rest.length := by
  fun_induction upTo stop c with
  | case1 => exact Nat.le_refl _
  | case2 => exact Nat.le_refl _
  | case3 c ch rest h _ cs next hn ih =>
    have := c.step_length_lt (by simp [h])
    rw [hn] at ih
    exact Nat.le_trans ih (Nat.le_of_lt this)

theorem upTo_length_lt {stop : List Char → Bool} {c : Cursor} (h : (c.upTo stop).1 ≠ []) :
    (c.upTo stop).2.rest.length < c.rest.length := by
  unfold upTo at h ⊢
  split
  · next h' => split at h <;> simp_all
  · next ch rest h' =>
    split
    · next hs => split at h <;> simp_all
    · exact Nat.lt_of_le_of_lt (upTo_length_le stop c.step) (c.step_length_lt (by simp [h']))

/-- The white space that comes next, and the place behind it. -/
def gap (c : Cursor) : List Char × Cursor :=
  c.upTo fun rest => !rest.head?.any isWhite

theorem gap_length_le (c : Cursor) : c.gap.2.rest.length ≤ c.rest.length :=
  upTo_length_le _ c

theorem gap_length_lt {c : Cursor} (h : c.gap.1 ≠ []) : c.gap.2.rest.length < c.rest.length :=
  upTo_length_lt h

/-- The place behind the rest of the line. -/
def lineEnd (c : Cursor) : Cursor :=
  (c.upTo fun rest => rest.head?.any isBreak).2

theorem lineEnd_length_le (c : Cursor) : c.lineEnd.rest.length ≤ c.rest.length :=
  upTo_length_le _ c

/-- A line of three marks, which bounds a document, starts here. -/
def atMarker (mark : Char) (c : Cursor) : Bool :=
  c.column == 0 && [mark, mark, mark].isPrefixOf c.rest && atWordEnd (c.rest.drop 3)

/-- A document starts or ends here. -/
def atBoundary (c : Cursor) : Bool :=
  c.atMarker '-' || c.atMarker '.'

/-- The start of a text, behind a byte order mark. -/
def ofText (s : String) : Cursor :=
  let start : Cursor := { rest := s.toList }
  if start.rest.head? == some '\ufeff' then start.step else start

end Cursor

end Yaml

end NetworkSite
