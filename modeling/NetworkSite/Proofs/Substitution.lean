/-
  Substitution of values for placeholders.

  `Piece.BeginsAt` says that the text of a placeholder stands at a position, and
  `Piece.Substituted` what it is to replace the placeholders of a text from the
  left, each by its value: up to the first placeholder everything is kept, and
  the text behind it is treated in the same way, but the value is not looked at
  again.  The pieces of a text have their placeholders at the same positions
  (`Piece.beginsAt_iff`), so that the names of a template and its rendering
  agree with both notions (`Template.render_substitutes`).
-/
import NetworkSite.Proofs.Rendering
import Mathlib.Data.Nat.Find
import Mathlib.Order.Bounds.Basic

namespace NetworkSite

namespace Piece

variable {name other : String} {cs rest out : List Char} {env : Environment} {c : Char} {i : Nat}

/-- The placeholder of a name begins at a position of a text. -/
def BeginsAt (name : String) (cs : List Char) (i : Nat) : Prop :=
  IsName name ∧ (placeholder name).chars <+: cs.drop i

/-- A text with its placeholders replaced by their values. -/
inductive Substituted (env : Environment) : List Char → List Char → Prop
  /-- A text without placeholders is kept. -/
  | plain {cs : List Char} : (∀ name i, ¬BeginsAt name cs i) → Substituted env cs cs
  /-- The text up to the first placeholder is kept, and this is replaced by its
      value; only the text behind it is searched on. -/
  | first {front rest out : List Char} {name value : String} :
      (∀ other, ∀ i < front.length,
        ¬BeginsAt other (front ++ ((placeholder name).chars ++ rest)) i) →
      IsName name → env.get? name = some value → Substituted env rest out →
      Substituted env (front ++ ((placeholder name).chars ++ rest)) (front ++ (value.toList ++ out))

/-! ## Positions of placeholders -/

theorem chars_append :
    (placeholder name).chars ++ rest = '$' :: '{' :: (name.toList ++ '}' :: rest) := by
  simp [chars]

theorem not_beginsAt_nil : ¬BeginsAt name [] i := by
  rintro ⟨-, hp⟩
  rw [List.drop_nil] at hp
  exact absurd (List.prefix_nil.1 hp) (List.cons_ne_nil _ _)

theorem beginsAt_zero_of_isName (h : IsName name) :
    BeginsAt name ((placeholder name).chars ++ rest) 0 :=
  ⟨h, List.prefix_append _ _⟩

/-- At the beginning of a text, a placeholder is what the cut reads there. -/
theorem beginsAt_zero :
    BeginsAt name ('$' :: '{' :: cs) 0 ↔ ∃ rest, readName? cs = some (name.toList, rest) := by
  constructor
  · rintro ⟨hname, hp⟩
    exact (chars_prefix_iff hname).1 hp
  · rintro ⟨rest, hr⟩
    obtain ⟨hne, hchars, -⟩ := readName?_eq_some.1 hr
    exact ⟨⟨hne, hchars⟩, (chars_prefix_iff ⟨hne, hchars⟩).2 ⟨rest, hr⟩⟩

theorem eq_dollar_of_beginsAt_zero (h : BeginsAt name (c :: cs) 0) : c = '$' :=
  (List.cons_prefix_cons.1 h.2).1.symm

theorem beginsAt_cons (h : ¬BeginsAt name (c :: cs) 0) :
    BeginsAt name (c :: cs) i ↔ ∃ j, i = j + 1 ∧ BeginsAt name cs j := by
  cases i with
  | zero => exact iff_of_false h fun ⟨j, hj, _⟩ => absurd hj (Nat.zero_ne_add_one j)
  | succ i =>
    constructor
    · exact fun hb => ⟨i, rfl, hb⟩
    · rintro ⟨j, hj, hb⟩
      obtain rfl := Nat.succ.inj hj
      exact hb

/-- No placeholder begins among characters that are no dollar signs. -/
theorem beginsAt_append_of_forall_ne {piece : List Char} (h : ∀ c ∈ piece, c ≠ '$') :
    BeginsAt name (piece ++ cs) i ↔ ∃ j, i = piece.length + j ∧ BeginsAt name cs j := by
  induction piece generalizing i with
  | nil => simp
  | cons c piece ih =>
    have hzero : ¬BeginsAt name (c :: (piece ++ cs)) 0 := fun hb =>
      h c List.mem_cons_self (eq_dollar_of_beginsAt_zero hb)
    rw [List.cons_append, beginsAt_cons hzero]
    simp only [ih fun d hd => h d (List.mem_cons_of_mem c hd), List.length_cons]
    constructor
    · rintro ⟨-, rfl, j, rfl, hb⟩
      exact ⟨j, by omega, hb⟩
    · rintro ⟨j, rfl, hb⟩
      exact ⟨_, by omega, j, rfl, hb⟩

/-- Behind the beginning of a placeholder the next one begins after its end. -/
theorem beginsAt_chars_append (h : IsName other) :
    BeginsAt name ((placeholder other).chars ++ cs) i ↔
      i = 0 ∧ other = name ∨ ∃ j, i = (placeholder other).chars.length + j ∧ BeginsAt name cs j := by
  cases i with
  | zero =>
    have hread : readName? (other.toList ++ '}' :: cs) = some (other.toList, cs) :=
      readName?_eq_some.2 ⟨h.1, h.2, rfl⟩
    rw [chars_append, beginsAt_zero, hread]
    constructor
    · rintro ⟨rest, hr⟩
      exact .inl ⟨rfl, String.toList_inj.1 (Prod.mk.inj (Option.some.inj hr)).1⟩
    · rintro (⟨-, rfl⟩ | ⟨j, hj, -⟩)
      · exact ⟨cs, rfl⟩
      · rw [chars, List.length_append, List.length_singleton] at hj
        omega
  | succ i =>
    have hne : ∀ c ∈ '{' :: (other.toList ++ ['}']), c ≠ '$' := by
      intro c hc
      simp only [List.mem_cons, List.mem_append, List.not_mem_nil, or_false] at hc
      rcases hc with rfl | hc | rfl
      · decide
      · exact ne_dollar_of_isNameChar (h.2 c hc)
      · decide
    have htail : BeginsAt name ((placeholder other).chars ++ cs) (i + 1) ↔
        BeginsAt name ('{' :: (other.toList ++ ['}']) ++ cs) i := Iff.rfl
    have hlen : (placeholder other).chars.length = ('{' :: (other.toList ++ ['}'])).length + 1 := rfl
    rw [htail, beginsAt_append_of_forall_ne hne, hlen]
    simp only [Nat.add_one_ne_zero, false_and, false_or]
    exact exists_congr fun j => and_congr_left fun _ => by omega

/-- A text is empty, or a placeholder begins it, or none does. -/
@[elab_as_elim]
theorem text_induction {motive : List Char → Prop} (nil : motive [])
    (placeholder : ∀ name rest, IsName name → motive rest →
      motive ((placeholder name).chars ++ rest))
    (char : ∀ c cs, (∀ name, ¬BeginsAt name (c :: cs) 0) → motive cs → motive (c :: cs))
    (cs : List Char) : motive cs := by
  by_cases hb : ∃ name, BeginsAt name cs 0
  · obtain ⟨name, hname, rest, hcs⟩ := hb
    have hlt : rest.length < cs.length := by
      rw [← List.drop_zero (l := cs), ← hcs, List.length_append]
      exact Nat.lt_add_of_pos_left (Nat.succ_pos _)
    rw [← List.drop_zero (l := cs), ← hcs]
    exact placeholder name rest hname (text_induction nil placeholder char rest)
  · cases cs with
    | nil => exact nil
    | cons c cs => exact char c cs (not_exists.1 hb) (text_induction nil placeholder char cs)
termination_by cs.length
decreasing_by
  · exact hlt
  · exact Nat.lt_succ_self _

/-! ## The cut at placeholders -/

theorem ofChars_chars_append (h : IsName name) :
    ofChars ((placeholder name).chars ++ rest) = placeholder name :: ofChars rest := by
  have hread : readName? (name.toList ++ '}' :: rest) = some (name.toList, rest) :=
    readName?_eq_some.2 ⟨h.1, h.2, rfl⟩
  rw [chars_append, ofChars]
  split
  next found rest' hr =>
    obtain ⟨rfl, rfl⟩ := Prod.mk.inj (Option.some.inj (hread.symm.trans hr))
    rw [String.ofList_toList]
  next hr => cases hread.symm.trans hr

theorem ofChars_cons (h : ∀ name, ¬BeginsAt name (c :: cs) 0) :
    ofChars (c :: cs) = char c :: ofChars cs := by
  rw [ofChars.eq_def]
  split
  next heq => cases heq
  next tail heq =>
    obtain ⟨rfl, rfl⟩ := List.cons.inj heq
    split
    next found rest hr =>
      refine absurd (beginsAt_zero.2 ⟨rest, ?_⟩) (h (String.ofList found))
      rw [String.toList_ofList]
      exact hr
    next => rfl
  next heq =>
    obtain ⟨rfl, rfl⟩ := List.cons.inj heq
    rfl

theorem ofChars_append {front : List Char}
    (h : ∀ other, ∀ i < front.length, ¬BeginsAt other (front ++ cs) i) :
    ofChars (front ++ cs) = front.map char ++ ofChars cs := by
  induction front with
  | nil => rfl
  | cons c front ih =>
    have hrest := ih fun other i hi => h other (i + 1) (Nat.succ_lt_succ hi)
    have hzero : ∀ other, ¬BeginsAt other (c :: (front ++ cs)) 0 := fun other =>
      h other 0 (Nat.succ_pos _)
    rw [List.cons_append, ofChars_cons hzero, hrest, List.map_cons, List.cons_append]

/-- The pieces in front of a placeholder are the text in front of it. -/
theorem beginsAt_iff :
    BeginsAt name cs i ↔
      ∃ front back, ofChars cs = front ++ placeholder name :: back ∧
        (front.flatMap (·.chars)).length = i := by
  have hsplit : ∀ (piece : Piece) (pieces : List Piece) (i : Nat),
      (∃ front back, piece :: pieces = front ++ placeholder name :: back ∧
        (front.flatMap (·.chars)).length = i) ↔
      i = 0 ∧ piece = placeholder name ∨ ∃ j, i = piece.chars.length + j ∧
        ∃ front back, pieces = front ++ placeholder name :: back ∧
          (front.flatMap (·.chars)).length = j := by
    intro piece pieces i
    constructor
    · rintro ⟨front, back, he, rfl⟩
      cases front with
      | nil => exact .inl ⟨rfl, (List.cons.inj he).1⟩
      | cons p front =>
        obtain ⟨rfl, rfl⟩ := List.cons.inj he
        exact .inr ⟨_, by rw [List.flatMap_cons, List.length_append], front, back, rfl, rfl⟩
    · rintro (⟨rfl, rfl⟩ | ⟨-, rfl, front, back, rfl, rfl⟩)
      · exact ⟨[], pieces, rfl, rfl⟩
      · exact ⟨piece :: front, back, rfl, by rw [List.flatMap_cons, List.length_append]⟩
  induction cs using text_induction generalizing i with
  | nil => simp [not_beginsAt_nil, ofChars]
  | placeholder other rest hname ih =>
    simp only [beginsAt_chars_append hname, ofChars_chars_append hname, hsplit, ih,
      placeholder.injEq]
  | char c cs hzero ih =>
    have hlen : (char c).chars.length = 1 := rfl
    simp only [beginsAt_cons (hzero name), ofChars_cons hzero, hsplit, ih, reduceCtorEq, and_false,
      false_or, hlen, Nat.add_comm]

theorem placeholder_mem_ofChars_iff : placeholder name ∈ ofChars cs ↔ ∃ i, BeginsAt name cs i := by
  constructor
  · intro hm
    obtain ⟨front, back, he⟩ := List.append_of_mem hm
    exact ⟨_, beginsAt_iff.2 ⟨front, back, he, rfl⟩⟩
  · rintro ⟨i, hb⟩
    obtain ⟨front, back, he, -⟩ := beginsAt_iff.1 hb
    rw [he]
    simp

/-! ## Substitution -/

theorem Substituted.cons (h : ∀ name, ¬BeginsAt name (c :: cs) 0) (hs : Substituted env cs out) :
    Substituted env (c :: cs) (c :: out) := by
  cases hs with
  | plain hnone =>
    refine .plain fun name i hb => ?_
    obtain ⟨j, -, hj⟩ := (beginsAt_cons (h name)).1 hb
    exact hnone name j hj
  | @first front rest out name value hfront hname hvalue hrest =>
    have hnone : ∀ other, ∀ i < (c :: front).length,
        ¬BeginsAt other (c :: front ++ ((placeholder name).chars ++ rest)) i := by
      intro other i hi hb
      obtain ⟨j, rfl, hj⟩ := (beginsAt_cons (h other)).1 hb
      exact hfront other j (Nat.lt_of_succ_lt_succ hi) hj
    exact .first hnone hname hvalue hrest

theorem fill_placeholder {value : String} (h : env.get? name = some value) :
    (placeholder name).fill env = value.toList := by
  rw [fill, h, Option.getD_some]

/-- Filling the pieces of a text in is substitution. -/
theorem substituted_fill
    (h : ∀ name i, BeginsAt name cs i → ∃ value, env.get? name = some value) :
    Substituted env cs ((ofChars cs).flatMap (·.fill env)) := by
  induction cs using text_induction with
  | nil =>
    rw [ofChars]
    exact .plain fun name i => not_beginsAt_nil
  | placeholder name rest hname ih =>
    obtain ⟨value, hv⟩ := h name 0 (beginsAt_zero_of_isName hname)
    have hrest := ih fun other i hb =>
      h other _ ((beginsAt_chars_append hname).2 (.inr ⟨i, rfl, hb⟩))
    rw [ofChars_chars_append hname, List.flatMap_cons, fill_placeholder hv]
    have hnone : ∀ other, ∀ i < ([] : List Char).length,
        ¬BeginsAt other ([] ++ ((placeholder name).chars ++ rest)) i :=
      fun other i hi => absurd hi (Nat.not_lt_zero i)
    exact .first hnone hname hv hrest
  | char c cs hzero ih =>
    rw [ofChars_cons hzero, List.flatMap_cons]
    exact (ih fun other i hb => h other (i + 1) hb).cons hzero

theorem flatMap_fill_map_char (front : List Char) :
    (front.map char).flatMap (·.fill env) = front := by
  induction front with
  | nil => rfl
  | cons c front ih => rw [List.map_cons, List.flatMap_cons, ih]; rfl

/-- Substitution has one result, and only if all placeholders have values. -/
theorem Substituted.eq_fill (hs : Substituted env cs out) :
    (∀ name i, BeginsAt name cs i → ∃ value, env.get? name = some value) ∧
      out = (ofChars cs).flatMap (·.fill env) := by
  induction hs with
  | @plain cs hnone =>
    refine ⟨fun name i hb => absurd hb (hnone name i), ?_⟩
    have hcs : ofChars cs = cs.map char := by
      have hempty : ∀ other, ∀ i < cs.length, ¬BeginsAt other (cs ++ []) i := by
        intro other i _
        rw [List.append_nil]
        exact hnone other i
      have hfront := ofChars_append hempty
      rwa [List.append_nil, ofChars, List.append_nil] at hfront
    rw [hcs, flatMap_fill_map_char]
  | @first front rest out name value hfront hname hvalue _ ih =>
    obtain ⟨hdefined, rfl⟩ := ih
    constructor
    · intro other i hb
      have hm := placeholder_mem_ofChars_iff.2 ⟨i, hb⟩
      rw [ofChars_append hfront, ofChars_chars_append hname, List.mem_append, List.mem_cons] at hm
      rcases hm with hm | hm | hm
      · obtain ⟨c, -, hc⟩ := List.mem_map.1 hm
        cases hc
      · obtain rfl := placeholder.inj hm
        exact ⟨value, hvalue⟩
      · obtain ⟨j, hj⟩ := placeholder_mem_ofChars_iff.1 hm
        exact hdefined other j hj
    · rw [ofChars_append hfront, ofChars_chars_append hname, List.flatMap_append,
        flatMap_fill_map_char, List.flatMap_cons, fill_placeholder hvalue]

theorem flatMap_fill_self
    (h : ∀ name, placeholder name ∈ ofChars cs →
      env.get? name = some (String.ofList (placeholder name).chars)) :
    (ofChars cs).flatMap (·.fill env) = cs := by
  conv_rhs => rw [← flatMap_chars_ofChars cs]
  refine List.flatMap_congr fun piece hp => ?_
  cases piece with
  | char c => rfl
  | placeholder name => rw [fill_placeholder (h name hp), String.toList_ofList]

end Piece

/-! ## Templates -/

namespace Template

variable {t : Template} {name : String} {names names' : List String} {env : Environment}
  {p : String → Prop}

/-- The place where a placeholder of the template begins first. -/
def FirstAt (t : Template) (name : String) (i : Nat) : Prop :=
  IsLeast {i | Piece.BeginsAt name t.text.toList i} i

/-- The names of placeholders with a property, each once and in the order in
    which they appear first. -/
structure Names (t : Template) (p : String → Prop) (names : List String) : Prop where
  mem_iff : ∀ name, name ∈ names ↔ (∃ i, Piece.BeginsAt name t.text.toList i) ∧ p name
  nodup : names.Nodup
  ordered : names.Pairwise fun a b => ∀ i j, t.FirstAt a i → t.FirstAt b j → i < j

theorem exists_firstAt (h : ∃ i, Piece.BeginsAt name t.text.toList i) : ∃ i, t.FirstAt name i := by
  classical
  exact ⟨Nat.find h, Nat.find_spec h, fun i hi => Nat.find_min' h hi⟩

theorem mem_variableNames_iff :
    name ∈ t.variableNames ↔ ∃ i, Piece.BeginsAt name t.text.toList i := by
  rw [← Piece.placeholder_mem_ofChars_iff, variableNames, mem_firstOccurrences, List.mem_filterMap]
  constructor
  · rintro ⟨piece, hp, hn⟩
    cases piece with
    | char c => cases hn
    | placeholder found =>
      obtain rfl := Option.some.inj hn
      exact hp
  · exact fun hp => ⟨_, hp, rfl⟩

/-- The names of a template stand in the order in which they appear first. -/
theorem pairwise_variableNames :
    t.variableNames.Pairwise fun a b => ∀ i j, t.FirstAt a i → t.FirstAt b j → i < j := by
  refine (pairwise_firstOccurrences _).imp fun {a b} hab i j hi hj => ?_
  obtain ⟨front, back, he, rfl⟩ := Piece.beginsAt_iff.1 hj.1
  -- The name of the earlier placeholder is among those in front of the later one.
  have hnames : t.pieces.filterMap (·.name?) =
      front.filterMap (·.name?) ++ b :: back.filterMap (·.name?) := by
    rw [pieces, he, List.filterMap_append]
    rfl
  obtain ⟨piece, hp, hn⟩ := List.mem_filterMap.1 (hab _ _ hnames)
  obtain ⟨before, after, rfl⟩ := List.append_of_mem hp
  cases piece with
  | char c => cases hn
  | placeholder found =>
    obtain rfl := Option.some.inj hn
    have hle : i ≤ (before.flatMap (·.chars)).length :=
      hi.2 (Piece.beginsAt_iff.2 ⟨before, _, by rw [he, List.append_assoc]; rfl, rfl⟩)
    refine Nat.lt_of_le_of_lt hle ?_
    simp [Piece.chars]

theorem names_variableNames (t : Template) : t.Names (fun _ => True) t.variableNames where
  mem_iff _ := mem_variableNames_iff.trans (iff_of_eq (and_true _)).symm
  nodup := nodup_firstOccurrences _
  ordered := pairwise_variableNames

theorem Names.unique (h : t.Names p names) (h' : t.Names p names') : names = names' := by
  have hperm : names.Perm names' :=
    (List.perm_ext_iff_of_nodup h.nodup h'.nodup).2 fun name => by rw [h.mem_iff, h'.mem_iff]
  refine hperm.eq_of_pairwise (fun a b ha hb hab hba => ?_) h.ordered h'.ordered
  obtain ⟨i, hi⟩ := exists_firstAt ((h.mem_iff a).1 ha).1
  obtain ⟨j, hj⟩ := exists_firstAt ((h'.mem_iff b).1 hb).1
  exact absurd (hab i j hi hj) (Nat.lt_asymm (hba j i hj hi))

theorem names_missing (t : Template) (env : Environment) :
    t.Names (fun name => env.get? name = none) (t.missing env) where
  mem_iff _ := by
    rw [missing, List.mem_filter, mem_variableNames_iff, SortedMap.contains]
    simp
  nodup := (nodup_firstOccurrences _).filter _
  ordered := pairwise_variableNames.filter _

theorem missing_eq_nil_iff :
    t.missing env = [] ↔
      ∀ name i, Piece.BeginsAt name t.text.toList i → ∃ value, env.get? name = some value := by
  rw [List.eq_nil_iff_forall_not_mem]
  simp only [(t.names_missing env).mem_iff, not_and, forall_exists_index, ← ne_eq,
    Option.ne_none_iff_exists']

theorem render_eq_ok_iff {out : String} :
    t.render env = .ok out ↔
      t.missing env = [] ∧ out = String.ofList (t.pieces.flatMap (·.fill env)) := by
  unfold render
  split
  next hm => simp [hm, eq_comm]
  next hm => exact iff_of_false nofun fun ⟨hnil, _⟩ => hm hnil

theorem render_eq_error_iff :
    t.render env = .error names ↔ names ≠ [] ∧ t.missing env = names := by
  unfold render
  split
  next hm =>
    refine iff_of_false nofun fun ⟨hne, he⟩ => hne ?_
    rw [← he, hm]
  next hm =>
    rw [Except.error.injEq]
    exact ⟨fun he => ⟨he ▸ hm, he⟩, fun he => he.2⟩

/-- **Rendering is substitution.**  A template names the placeholders of its
    text, each once and in the order in which they appear first.  It renders
    exactly if all of them have values, and then to the text in which they are
    replaced from the left; otherwise the error has exactly the names without
    values, in the same order.  Placeholders that stand for themselves give the
    text back. -/
theorem render_substitutes (t : Template) (env : Environment) :
    t.Names (fun _ => True) t.variableNames ∧
    ((∃ out, t.render env = .ok out) ↔
      ∀ name ∈ t.variableNames, ∃ value, env.get? name = some value) ∧
    (∀ names, t.render env = .error names ↔
      names ≠ [] ∧ t.Names (fun name => env.get? name = none) names) ∧
    (∀ out, t.render env = .ok out ↔ Piece.Substituted env t.text.toList out.toList) ∧
    ((∀ name ∈ t.variableNames,
        env.get? name = some (String.ofList (Piece.placeholder name).chars)) →
      t.render env = .ok t.text) := by
  refine ⟨t.names_variableNames, ?_, fun names => ?_, fun out => ?_, fun hself => ?_⟩
  · simp only [render_eq_ok_iff, exists_and_left, exists_eq, and_true, missing_eq_nil_iff,
      mem_variableNames_iff, forall_exists_index]
  · rw [render_eq_error_iff]
    refine and_congr_right fun _ => ⟨?_, fun hn => (t.names_missing env).unique hn⟩
    rintro rfl
    exact t.names_missing env
  · rw [render_eq_ok_iff, missing_eq_nil_iff]
    constructor
    · rintro ⟨hdefined, rfl⟩
      rw [String.toList_ofList]
      exact Piece.substituted_fill hdefined
    · intro hs
      obtain ⟨hdefined, hout⟩ := hs.eq_fill
      exact ⟨hdefined, by rw [pieces, ← hout, String.ofList_toList]⟩
  · rw [render_eq_ok_iff, missing_eq_nil_iff]
    refine ⟨fun name i hb => ⟨_, hself name (mem_variableNames_iff.2 ⟨i, hb⟩)⟩, ?_⟩
    rw [pieces, Piece.flatMap_fill_self fun name hm => hself name ?_, String.ofList_toList]
    exact mem_variableNames_iff.2 (Piece.placeholder_mem_ofChars_iff.1 hm)

/-- A template with adjacent, unfinished and nested placeholders. -/
def nested : Template where
  role := .generic
  name := "motd"
  text := "$\x7bA\x7d$\x7bB\x7d$$\x7bA\x7d$\x7bC $\x7b$\x7bB\x7d\x7d"

/-- Placeholders that stand for themselves. -/
def selfNamed : Environment :=
  .ofList [("A", "$\x7bA\x7d"), ("B", "$\x7bB\x7d")]

/-- A value that looks like a placeholder is not replaced in turn. -/
theorem nested_substitutes :
    nested.Names (fun _ => True) ["A", "B"] ∧
    Piece.Substituted (.ofList [("A", "$\x7bB\x7d"), ("B", "x")]) nested.text.toList
      "$\x7bB\x7dx$$\x7bB\x7d$\x7bC $\x7bx\x7d".toList ∧
    nested.Names (fun name => (Environment.ofList [("A", "$\x7bB\x7d")]).get? name = none) ["B"] ∧
    (∀ name ∈ nested.variableNames,
      selfNamed.get? name = some (String.ofList (Piece.placeholder name).chars)) ∧
    nested.render selfNamed = .ok nested.text := by
  have hnames : nested.variableNames = ["A", "B"] := by with_unfolding_all decide
  have hself : ∀ name ∈ nested.variableNames,
      selfNamed.get? name = some (String.ofList (Piece.placeholder name).chars) := by
    rw [hnames]
    decide
  refine ⟨?_, ?_, ?_, hself, (render_substitutes nested _).2.2.2.2 hself⟩
  · rw [← hnames]
    exact (render_substitutes nested (.ofList [])).1
  · refine ((render_substitutes nested _).2.2.2.1 _).1 ?_
    with_unfolding_all decide
  · refine (((render_substitutes nested _).2.2.1 _).1 ?_).2
    with_unfolding_all decide

end Template

end NetworkSite
