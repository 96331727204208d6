/-
  Reading back what was written as JSON.

  The JSON text of a document reads as the same document, but for numbers that
  need more than 64 bits (`Document.reread`); this holds for documents made of
  texts, natural numbers, truth values, lists, and tables whose keys are texts
  (`Document.IsRegular`), and for every layout that puts only blanks between the
  items (`Document.ofJson?_pretty`).

  The text of a value is read in front of any other text that does not go on
  with a number.  As the fuel of the reader bounds the count of values, and each
  value is written with at least one character, the length of the text is enough.
-/
import NetworkSite.Document.Json
import Mathlib.Data.List.Basic

namespace NetworkSite

/-! ## Documents -/

namespace Document

/-- A document with nothing that JSON has no text of. -/
inductive IsRegular : Document → Prop where
  | null : IsRegular .null
  | bool (b : Bool) : IsRegular (.bool b)
  | natural (n : Nat) : IsRegular (.natural n)
  | text (s : String) : IsRegular (.text s)
  | list {items : List Document} (h : ∀ d ∈ items, IsRegular d) : IsRegular (.list items)
  | table {entries : List (String × Document)} (h : ∀ e ∈ entries, IsRegular e.2) :
    IsRegular (.ofFields entries)

mutual

/-- The document as which the text of a regular one is read. -/
def reread : Document → Document
  | .natural n => Json.integer false n
  | .list items => .list (rereadItems items)
  | .table entries => .table (rereadEntries entries)
  | d => d

def rereadItems : List Document → List Document
  | [] => []
  | item :: items => item.reread :: rereadItems items

def rereadEntries : List (Document × Document) → List (Document × Document)
  | [] => []
  | (key, value) :: entries => (key, value.reread) :: rereadEntries entries

end

theorem rereadItems_eq (items : List Document) : rereadItems items = items.map reread := by
  induction items with
  | nil => rfl
  | cons item items ih => rw [rereadItems, ih, List.map_cons]

theorem reread_ofFields (entries : List (String × Document)) :
    (ofFields entries).reread = ofFields (entries.map fun (key, value) => (key, value.reread)) := by
  rw [ofFields, reread, ofFields, List.map_map]
  congr 1
  induction entries with
  | nil => rfl
  | cons e entries ih => rw [List.map_cons, rereadEntries, ih, List.map_cons]; rfl

end Document

namespace Json

/-! ## Texts -/

theorem unit?_hexPadded : ∀ n < 0x20, Text.readDigits 16 (Text.hexPadded 4 n) = some n := by
  decide

/-- An escaped character is read as the code of the character. -/
theorem readCodes?_escapeChar (c : Char) (rest : List Char) :
    readCodes? (escapeChar c ++ rest) =
      (readCodes? rest).map fun (codes, rest) => (c.toNat :: codes, rest) := by
  unfold escapeChar
  split_ifs with h₁ h₂ h₃ h₄ h₅ h₆ h₇ h₈
  · rw [beq_iff_eq.1 h₁]; cases h : readCodes? rest <;> simp [readCodes?, escaped?, h]
  · rw [beq_iff_eq.1 h₂]; cases h : readCodes? rest <;> simp [readCodes?, escaped?, h]
  · rw [beq_iff_eq.1 h₃]; cases h : readCodes? rest <;> simp [readCodes?, escaped?, h]
  · rw [beq_iff_eq.1 h₄]; cases h : readCodes? rest <;> simp [readCodes?, escaped?, h]
  · rw [beq_iff_eq.1 h₅]; cases h : readCodes? rest <;> simp [readCodes?, escaped?, h]
  · rw [beq_iff_eq.1 h₆]; cases h : readCodes? rest <;> simp [readCodes?, escaped?, h]
  · rw [beq_iff_eq.1 h₇]; cases h : readCodes? rest <;> simp [readCodes?, escaped?, h]
  · have hunit := unit?_hexPadded c.toNat h₈
    simp only [Text.hexPadded, List.nil_append, List.cons_append] at hunit ⊢
    rw [readCodes?, unit?, hunit]
    cases readCodes? rest <;> rfl
  · simp only [beq_iff_eq] at h₁ h₂
    rw [List.singleton_append, readCodes?.eq_def]
    split
    next heq => exact absurd (List.cons.inj heq).1 h₁
    next heq => exact absurd (List.cons.inj heq).1 h₂
    next heq => exact absurd (List.cons.inj heq).1 h₂
    next heq =>
      obtain ⟨rfl, rfl⟩ := List.cons.inj heq
      rw [if_neg h₈]
      cases readCodes? _ <;> rfl
    next heq => cases heq

theorem readCodes?_quoted (cs rest : List Char) :
    readCodes? (cs.flatMap escapeChar ++ '"' :: rest) = some (cs.map Char.toNat, rest) := by
  induction cs with
  | nil => rfl
  | cons c cs ih => rw [List.flatMap_cons, List.append_assoc, readCodes?_escapeChar, ih]; rfl

theorem isSurrogate_toNat (c : Char) :
    isHighSurrogate c.toNat = false ∧ isLowSurrogate c.toNat = false := by
  have hvalid : c.toNat.isValidChar := c.valid
  simp only [Nat.isValidChar] at hvalid
  simp only [isHighSurrogate, isLowSurrogate, Bool.and_eq_false_iff, decide_eq_false_iff_not]
  omega

theorem charsOf?_toNat (cs : List Char) : charsOf? (cs.map Char.toNat) = some cs := by
  induction cs with
  | nil => rfl
  | cons c cs ih =>
    obtain ⟨hhigh, hlow⟩ := isSurrogate_toNat c
    cases cs with
    | nil => simp [charsOf?, hhigh, hlow]
    | cons d cs =>
      rw [List.map_cons] at ih
      simp [charsOf?, hhigh, hlow, ih]

theorem readText?_quoted (cs rest : List Char) :
    readText? (cs.flatMap escapeChar ++ '"' :: rest) = some (.text (String.ofList cs), rest) := by
  rw [readText?, readCodes?_quoted]
  simp [charsOf?_toNat]

/-! ## Numbers -/

/-- Nothing that goes on with a number stands at the front. -/
def EndsNumber (cs : List Char) : Prop :=
  ∀ c ∈ cs.head?, c.isDigit = false ∧ c ≠ '.' ∧ c ≠ 'e' ∧ c ≠ 'E'

theorem hasLeadingZero_decimal (n : Nat) : Plain.hasLeadingZero (Text.decimal n) = false := by
  cases n with
  | zero => rfl
  | succ n =>
    have hhead := Text.head?_decimal_ne (n + 1) (Nat.succ_pos n)
    simp [Plain.hasLeadingZero, hhead]

theorem readNumber?_decimal (n : Nat) {rest : List Char} (h : EndsNumber rest) :
    readNumber? (Text.decimal n ++ rest) = some (integer false n, rest) := by
  have hdigits : ∀ c ∈ Text.decimal n, c.isDigit = true := fun c => Text.isDigit_of_mem_decimal
  have hrest : rest.takeWhile Char.isDigit = [] ∧ rest.dropWhile Char.isDigit = rest := by
    cases rest with
    | nil => exact ⟨rfl, rfl⟩
    | cons c rest => simp [(h c rfl).1]
  have hsign : ∀ cs, '-' :: cs ≠ Text.decimal n ++ rest := by
    intro cs heq
    obtain ⟨c, digits, hcs⟩ := List.exists_cons_of_ne_nil (Nat.toDigits_ne_nil (b := 10) (n := n))
    have hc := hdigits c (by rw [Text.decimal, hcs]; exact List.mem_cons_self)
    rw [Text.decimal, hcs] at heq
    rw [← (List.cons.inj heq).1] at hc
    cases hc
  have hfraction : skipFraction? rest = some rest := by
    unfold skipFraction?
    split
    next => exact absurd rfl (h '.' rfl).2.1
    next => rfl
  have hexponent : skipExponent? rest = some rest := by
    unfold skipExponent?
    split
    next c rest => simp [(h c rfl).2.2.1, (h c rfl).2.2.2]
    next => rfl
  have hread : Text.readDigits 10 ((Text.decimal n ++ rest).takeWhile Char.isDigit) = some n := by
    rw [List.takeWhile_append_of_pos hdigits, hrest.1, List.append_nil, Text.readDigits_decimal]
  have hzero : Plain.hasLeadingZero ((Text.decimal n ++ rest).takeWhile Char.isDigit) = false := by
    rw [List.takeWhile_append_of_pos hdigits, hrest.1, List.append_nil, hasLeadingZero_decimal]
  have hafter : (Text.decimal n ++ rest).dropWhile Char.isDigit = rest := by
    rw [List.dropWhile_append_of_pos hdigits, hrest.2]
  generalize Text.decimal n ++ rest = text at *
  unfold readNumber?
  split
  next negative unsigned heq =>
    split at heq
    next cs => exact absurd rfl (hsign cs)
    next =>
      obtain ⟨rfl, rfl⟩ := Prod.mk.inj heq
      simp [hread, hzero, hafter, hfraction, hexponent]

/-! ## Blanks -/

/-- There are only blanks. -/
def IsBlank (cs : List Char) : Prop :=
  ∀ c ∈ cs, isSpace c = true

theorem skipSpace_append {blanks : List Char} (h : IsBlank blanks) (rest : List Char) :
    skipSpace (blanks ++ rest) = skipSpace rest :=
  List.dropWhile_append_of_pos h

theorem skipSpace_cons {c : Char} (h : isSpace c = false) (rest : List Char) :
    skipSpace (c :: rest) = c :: rest :=
  List.dropWhile_cons_of_neg (by simp [h])

theorem readValue?_blank {blanks : List Char} (h : IsBlank blanks) (fuel : Nat) (rest : List Char) :
    readValue? fuel (blanks ++ rest) = readValue? fuel rest := by
  cases fuel with
  | zero => rfl
  | succ fuel => rw [readValue?, readValue?, skipSpace_append h]

theorem readItems?_blank {blanks : List Char} (h : IsBlank blanks) (fuel : Nat) (rest : List Char) :
    readItems? fuel (blanks ++ rest) = readItems? fuel rest := by
  cases fuel with
  | zero => rfl
  | succ fuel => rw [readItems?, readItems?, readValue?_blank h]

theorem readEntries?_blank {blanks : List Char} (h : IsBlank blanks) (fuel : Nat)
    (rest : List Char) : readEntries? fuel (blanks ++ rest) = readEntries? fuel rest := by
  cases fuel with
  | zero => rfl
  | succ fuel => rw [readEntries?, readEntries?, skipSpace_append h]

/-- There are only blanks between the items, and around the colons. -/
structure Layout.IsBlank (layout : Layout) : Prop where
  newline : ∀ depth, Json.IsBlank (layout.newline depth)
  colon : ∃ blanks, Json.IsBlank blanks ∧ layout.colon = ':' :: blanks

theorem Layout.pretty_isBlank : Layout.pretty.IsBlank where
  newline depth c h := by
    rcases List.mem_cons.1 h with rfl | h
    · rfl
    · rw [List.eq_of_mem_replicate h]
      rfl
  colon := ⟨[' '], fun c h => by rw [List.mem_singleton.1 h]; rfl, rfl⟩

/-! ## Values -/

theorem readValue?_digit {c : Char} (h : c.isDigit = true) (fuel : Nat) (rest : List Char) :
    readValue? (fuel + 1) (c :: rest) = readNumber? (c :: rest) := by
  have hspace : isSpace c = false := by
    rw [Bool.eq_false_iff]
    intro hs
    simp only [isSpace, Bool.or_eq_true, beq_iff_eq] at hs
    rcases hs with ((rfl | rfl) | rfl) | rfl <;> cases h
  rw [readValue?, skipSpace_cons hspace]
  split
  next heq => rw [(List.cons.inj heq).1] at h; cases h
  next heq => rw [(List.cons.inj heq).1] at h; cases h
  next heq => rw [(List.cons.inj heq).1] at h; cases h
  next heq => rw [(List.cons.inj heq).1] at h; cases h
  next heq => rw [(List.cons.inj heq).1] at h; cases h
  next heq => rw [(List.cons.inj heq).1] at h; cases h
  next => rfl

variable {layout : Layout} {depth fuel : Nat} {rest : List Char} {d item : Document}
  {items : List Document}

/-- The text of a value starts with neither a blank nor a closing bracket. -/
theorem exists_write_eq_cons (layout : Layout) (depth : Nat) (h : d.IsRegular) :
    ∃ c cs, write layout depth d = c :: cs ∧ isSpace c = false ∧ c ≠ ']' := by
  cases h with
  | null => exact ⟨_, _, rfl, rfl, by decide⟩
  | bool b => cases b <;> exact ⟨_, _, rfl, rfl, by decide⟩
  | natural n =>
    obtain ⟨c, digits, hcs⟩ := List.exists_cons_of_ne_nil (Nat.toDigits_ne_nil (b := 10) (n := n))
    have hc : c.isDigit = true :=
      Text.isDigit_of_mem_decimal (n := n) (by rw [Text.decimal, hcs]; exact List.mem_cons_self)
    refine ⟨c, digits, hcs, ?_, ?_⟩
    · rw [Bool.eq_false_iff]
      intro hs
      simp only [isSpace, Bool.or_eq_true, beq_iff_eq] at hs
      rcases hs with ((rfl | rfl) | rfl) | rfl <;> cases hc
    · rintro rfl
      cases hc
  | text s => exact ⟨_, _, rfl, rfl, by decide⟩
  | @list items _ => cases items <;> exact ⟨_, _, rfl, rfl, by decide⟩
  | @table entries _ => cases entries <;> exact ⟨_, _, rfl, rfl, by decide⟩

/-- The text of the document is read as it should be, in front of any text that
    does not go on with a number. -/
def Reads (layout : Layout) (d : Document) : Prop :=
  ∀ depth fuel rest, (write layout depth d).length ≤ fuel → EndsNumber rest →
    readValue? fuel (write layout depth d ++ rest) = some (d.reread, rest)

theorem endsNumber_cons {c : Char} (h : c.isDigit = false ∧ c ≠ '.' ∧ c ≠ 'e' ∧ c ≠ 'E')
    (rest : List Char) : EndsNumber (c :: rest) := by
  intro d hd
  rw [List.head?_cons, Option.mem_some_iff] at hd
  exact hd ▸ h

theorem endsNumber_blank {blanks : List Char} (h : IsBlank blanks)
    (hrest : EndsNumber rest) : EndsNumber (blanks ++ rest) := by
  cases blanks with
  | nil => exact hrest
  | cons c blanks =>
    have hc := h c List.mem_cons_self
    simp only [isSpace, Bool.or_eq_true, beq_iff_eq] at hc
    refine endsNumber_cons ?_ _
    rcases hc with ((rfl | rfl) | rfl) | rfl <;> decide

theorem endsNumber_writeItems (h : EndsNumber rest) :
    EndsNumber (writeItems layout depth items ++ rest) := by
  cases items with
  | nil => exact h
  | cons item items => exact endsNumber_cons (by decide) _

theorem endsNumber_writeEntries {entries : List (Document × Document)} (h : EndsNumber rest) :
    EndsNumber (writeEntries layout depth entries ++ rest) := by
  cases entries with
  | nil => exact h
  | cons e entries => exact endsNumber_cons (by decide) _

/-- The items of a list up to its end. -/
theorem readItems?_write (hl : layout.IsBlank) {blanks : List Char} (hb : IsBlank blanks)
    (hitems : ∀ d ∈ item :: items, Reads layout d)
    (hfuel : (write layout depth item).length + (writeItems layout depth items).length < fuel) :
    readItems? fuel (write layout depth item ++
      (writeItems layout depth items ++ (blanks ++ ']' :: rest))) =
      some (item.reread :: Document.rereadItems items, rest) := by
  have hend : EndsNumber (writeItems layout depth items ++ (blanks ++ ']' :: rest)) :=
    endsNumber_writeItems (endsNumber_blank hb (endsNumber_cons (by decide) _))
  induction items generalizing item fuel with
  | nil =>
    cases fuel with
    | zero => omega
    | succ fuel =>
      rw [readItems?, hitems item List.mem_cons_self depth fuel _ (by omega) hend]
      simp only [writeItems, List.nil_append, Option.bind_eq_bind, Option.bind_some,
        skipSpace_append hb, skipSpace_cons (c := ']') rfl]
      rfl
  | cons next items ih =>
    cases fuel with
    | zero => omega
    | succ fuel =>
      have hrest : readItems? fuel (write layout depth next ++
          (writeItems layout depth items ++ (blanks ++ ']' :: rest))) = _ :=
        ih (fun d hd => hitems d (List.mem_cons_of_mem _ hd))
          (by simp only [writeItems, List.length_append, List.length_cons] at hfuel; omega)
          (endsNumber_writeItems (endsNumber_blank hb (endsNumber_cons (by decide) _)))
      rw [readItems?, hitems item List.mem_cons_self depth fuel _ (by omega) hend]
      simp only [writeItems, List.cons_append, List.append_assoc, Option.bind_eq_bind,
        Option.bind_some, skipSpace_cons (c := ',') rfl, readItems?_blank (hl.newline depth), hrest]
      rfl

theorem reads_list (hl : layout.IsBlank) (hregular : ∀ d ∈ items, d.IsRegular)
    (h : ∀ d ∈ items, Reads layout d) : Reads layout (.list items) := by
  intro depth fuel rest hfuel hrest
  cases fuel with
  | zero => cases items <;> simp [write, writeList] at hfuel
  | succ fuel =>
    cases items with
    | nil => rfl
    | cons item items =>
      simp only [write, writeList, List.cons_append, List.append_assoc, List.nil_append,
        List.length_cons, List.length_append, List.length_nil] at hfuel ⊢
      have hread : readItems? fuel (write layout (depth + 1) item ++
          (writeItems layout (depth + 1) items ++ (layout.newline depth ++ ']' :: rest))) = _ :=
        readItems?_write hl (hl.newline depth) h (by omega)
      obtain ⟨c, cs, hc, hspace, hne⟩ :=
        exists_write_eq_cons layout (depth + 1) (hregular item List.mem_cons_self)
      rw [hc, List.cons_append] at hread
      rw [readValue?, skipSpace_cons rfl]
      simp only [skipSpace_append (hl.newline (depth + 1)), hc, List.cons_append,
        skipSpace_cons hspace]
      split
      next heq => exact absurd (List.cons.inj heq).1 hne
      next =>
        rw [hread]
        rfl

/-- The entries of a table whose keys are texts. -/
def keyed (entries : List (String × Document)) : List (Document × Document) :=
  entries.map fun (key, value) => (.text key, value)

theorem keyed_cons (key : String) (value : Document) (entries : List (String × Document)) :
    keyed ((key, value) :: entries) = (.text key, value) :: keyed entries := rfl

/-- The key of an entry is read up to its value. -/
theorem readEntries?_key (hl : layout.IsBlank) (key : String) (depth fuel : Nat) (rest : List Char) :
    readEntries? (fuel + 1) (write layout depth (.text key) ++ (layout.colon ++ rest)) =
      (readValue? fuel rest).bind fun (value, rest) =>
        match skipSpace rest with
        | ',' :: rest =>
          (readEntries? fuel rest).bind fun (entries, rest) =>
            some ((.text key, value) :: entries, rest)
        | '}' :: rest => some ([(.text key, value)], rest)
        | _ => none := by
  obtain ⟨blanks, hb, hcolon⟩ := hl.colon
  rw [readEntries?, hcolon]
  simp only [write, quote, List.cons_append, List.append_assoc, List.nil_append,
    skipSpace_cons (c := '"') rfl, readText?_quoted, Option.bind_eq_bind, Option.bind_some,
    skipSpace_cons (c := ':') rfl, readValue?_blank hb, String.ofList_toList]
  rfl

/-- The entries of a table up to its end. -/
theorem readEntries?_write (hl : layout.IsBlank) {blanks : List Char} (hb : IsBlank blanks)
    {key : String} {value : Document} {entries : List (String × Document)}
    (hvalues : ∀ e ∈ (key, value) :: entries, Reads layout e.2)
    (hfuel : (write layout depth value).length + (writeEntries layout depth (keyed entries)).length < fuel) :
    readEntries? fuel (write layout depth (.text key) ++ (layout.colon ++
      (write layout depth value ++
        (writeEntries layout depth (keyed entries) ++ (blanks ++ '}' :: rest))))) =
      some ((.text key, value.reread) :: Document.rereadEntries (keyed entries), rest) := by
  have hend : EndsNumber (writeEntries layout depth (keyed entries) ++ (blanks ++ '}' :: rest)) :=
    endsNumber_writeEntries (endsNumber_blank hb (endsNumber_cons (by decide) _))
  have hvalue : Reads layout value := hvalues _ List.mem_cons_self
  induction entries generalizing key value fuel with
  | nil =>
    cases fuel with
    | zero => omega
    | succ fuel =>
      rw [readEntries?_key hl, hvalue depth fuel _ (by omega) hend]
      simp only [keyed, List.map_nil, writeEntries, List.nil_append, Option.bind_some,
        skipSpace_append hb, skipSpace_cons (c := '}') rfl]
      rfl
  | cons next entries ih =>
    cases fuel with
    | zero => omega
    | succ fuel =>
      obtain ⟨nextKey, nextValue⟩ := next
      have hrest : readEntries? fuel (write layout depth (.text nextKey) ++ (layout.colon ++
          (write layout depth nextValue ++
            (writeEntries layout depth (keyed entries) ++ (blanks ++ '}' :: rest))))) = _ :=
        ih (fun e he => hvalues e (List.mem_cons_of_mem _ he))
          (by
            simp only [keyed_cons, writeEntries, List.length_append, List.length_cons] at hfuel
            omega)
          (endsNumber_writeEntries (endsNumber_blank hb (endsNumber_cons (by decide) _)))
          (hvalues (nextKey, nextValue) (by simp))
      rw [readEntries?_key hl, hvalue depth fuel _ (by omega) hend]
      simp only [keyed_cons, writeEntries, List.cons_append, List.append_assoc, Option.bind_some,
        skipSpace_cons (c := ',') rfl, readEntries?_blank (hl.newline depth), hrest]
      rfl

theorem reads_table (hl : layout.IsBlank) {entries : List (String × Document)}
    (h : ∀ e ∈ entries, Reads layout e.2) : Reads layout (.ofFields entries) := by
  intro depth fuel rest hfuel hrest
  have hfields : Document.ofFields entries = .table (keyed entries) := rfl
  rw [hfields] at hfuel ⊢
  cases fuel with
  | zero => cases entries <;> simp [keyed, write] at hfuel
  | succ fuel =>
    cases entries with
    | nil => rfl
    | cons e entries =>
      obtain ⟨key, value⟩ := e
      rw [keyed_cons] at hfuel ⊢
      rw [write] at hfuel ⊢
      simp only [List.cons_append, List.append_assoc, List.nil_append, List.length_cons,
        List.length_append] at hfuel ⊢
      have hread : readEntries? fuel (write layout (depth + 1) (.text key) ++ (layout.colon ++
          (write layout (depth + 1) value ++ (writeEntries layout (depth + 1) (keyed entries) ++
            (layout.newline depth ++ '}' :: rest))))) = _ :=
        readEntries?_write hl (hl.newline depth) h (by omega)
      have hquote : write layout (depth + 1) (.text key) =
          '"' :: (key.toList.flatMap escapeChar ++ ['"']) := by rw [write, quote, List.cons_append]
      rw [hquote, List.cons_append] at hread
      rw [readValue?, skipSpace_cons rfl]
      simp only [skipSpace_append (hl.newline (depth + 1)), hquote, List.cons_append,
        skipSpace_cons (c := '"') rfl]
      split
      next heq => exact absurd (List.cons.inj heq).1 (by decide)
      next =>
        rw [hread]
        rfl

/-- **What was written is read back**, in front of any text that does not go on
    with a number. -/
theorem reads_of_isRegular (hl : layout.IsBlank) (h : d.IsRegular) : Reads layout d := by
  induction h with
  | null => exact fun _ fuel _ hfuel _ => by cases fuel <;> [cases hfuel; rfl]
  | bool b => exact fun _ fuel _ hfuel _ => by cases b <;> cases fuel <;> first | rfl | cases hfuel
  | natural n =>
    intro depth fuel rest hfuel hrest
    have hread := readNumber?_decimal n hrest
    obtain ⟨c, digits, hcs⟩ := List.exists_cons_of_ne_nil (Nat.toDigits_ne_nil (b := 10) (n := n))
    have hc : c.isDigit = true :=
      Text.isDigit_of_mem_decimal (n := n) (by rw [Text.decimal, hcs]; exact List.mem_cons_self)
    rw [Text.decimal, hcs, List.cons_append] at hread
    rw [write, Text.decimal, hcs] at hfuel ⊢
    cases fuel with
    | zero => cases hfuel
    | succ fuel => rw [List.cons_append, readValue?_digit hc, hread, Document.reread]
  | text s =>
    intro depth fuel rest hfuel hrest
    cases fuel with
    | zero => cases hfuel
    | succ fuel =>
      have hread := readText?_quoted s.toList rest
      rw [String.ofList_toList] at hread
      simp only [write, quote, List.cons_append, List.append_assoc, List.nil_append]
      rw [readValue?, skipSpace_cons rfl]
      exact hread
  | list hregular ih => exact reads_list hl hregular ih
  | table hregular ih => exact reads_table hl ih

end Json

namespace Document

/-- **The text of a document reads as the document**, numbers of more than 64 bits
    apart. -/
theorem ofJson?_pretty {d : Document} (h : d.IsRegular) : ofJson? d.pretty = some d.reread := by
  have hread := Json.reads_of_isRegular Json.Layout.pretty_isBlank h 0 (d.pretty.length + 1) []
    (by simp [pretty]) nofun
  rw [List.append_nil] at hread
  rw [ofJson?, pretty, String.toList_ofList]
  rw [pretty] at hread
  rw [hread]
  rfl

end Document

end NetworkSite
