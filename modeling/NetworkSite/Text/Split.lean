/-
  Cutting texts at separators and joining them again.

  * `split p cs` are the pieces between the characters satisfying `p`: always
    one more than there are separators (`split_eq_iff`).
  * `cut p cs` are the texts before and after the first separator, if any
    (`cut_eq_some_iff`, `cut_eq_none_iff`).
  * `join sep` puts `sep` between the pieces, and so undoes `split`
    (`join_split`); `split` undoes it where no piece has a separator
    (`split_join`).
-/

namespace NetworkSite.Text

/-- The pieces of a text between the separators. -/
def split (isSeparator : Char → Bool) : List Char → List (List Char)
  | [] => [[]]
  | c :: rest =>
    if isSeparator c then [] :: split isSeparator rest
    else
      match split isSeparator rest with
      | [] => [[c]]
      | piece :: pieces => (c :: piece) :: pieces

/-- The texts before and after the first separator. -/
def cut (isSeparator : Char → Bool) : List Char → Option (List Char × List Char)
  | [] => none
  | c :: rest =>
    if isSeparator c then some ([], rest)
    else (cut isSeparator rest).map fun (before, after) => (c :: before, after)

/-- The pieces with `sep` between each two of them. -/
def join (sep : List Char) : List (List Char) → List Char
  | [] => []
  | [piece] => piece
  | piece :: pieces => piece ++ sep ++ join sep pieces

theorem split_ne_nil (p : Char → Bool) (cs : List Char) : split p cs ≠ [] := by
  fun_cases split p cs <;> simp

theorem join_cons_cons (sep : List Char) (c : Char) (piece : List Char) (pieces : List (List Char)) :
    join sep ((c :: piece) :: pieces) = c :: join sep (piece :: pieces) := by
  cases pieces <;> rfl

theorem mem_join {sep : List Char} {c : Char} {pieces : List (List Char)}
    (h : c ∈ join sep pieces) : c ∈ sep ∨ ∃ piece ∈ pieces, c ∈ piece := by
  induction pieces with
  | nil => cases h
  | cons piece pieces ih =>
    cases pieces with
    | nil => exact .inr ⟨piece, List.mem_cons_self, h⟩
    | cons next pieces =>
      rw [join, List.mem_append, List.mem_append] at h
      · rcases h with (h | h) | h
        · exact .inr ⟨piece, List.mem_cons_self, h⟩
        · exact .inl h
        · exact (ih h).imp_right fun ⟨p, hp, hc⟩ => ⟨p, List.mem_cons_of_mem _ hp, hc⟩
      · exact nofun

/-- Putting the separators back gives the text. -/
theorem join_split (s : Char) (cs : List Char) : join [s] (split (· == s) cs) = cs := by
  induction cs with
  | nil => rfl
  | cons c rest ih =>
    rw [split]
    split
    next h =>
      obtain ⟨piece, pieces, hs⟩ := List.exists_cons_of_ne_nil (split_ne_nil (· == s) rest)
      rw [hs] at ih ⊢
      rw [join, ih, (beq_iff_eq.1 h)]
      · rfl
      · simp
    next =>
      split
      next hs => exact absurd hs (split_ne_nil _ _)
      next piece pieces hs => rw [join_cons_cons, ← hs, ih]

theorem eq_or_mem_piece {s c : Char} {cs : List Char} (h : c ∈ cs) :
    c = s ∨ ∃ piece ∈ split (· == s) cs, c ∈ piece := by
  rw [← join_split s cs] at h
  exact (mem_join h).imp_left List.mem_singleton.1

theorem split_eq_singleton {p : Char → Bool} {cs : List Char} (h : ∀ c ∈ cs, p c = false) :
    split p cs = [cs] := by
  induction cs with
  | nil => rfl
  | cons c rest ih =>
    have hc : ¬p c = true := by rw [h c List.mem_cons_self]; exact Bool.false_ne_true
    rw [split, if_neg hc, ih fun d hd => h d (List.mem_cons_of_mem c hd)]

/-- The pieces on both sides of a separator. -/
theorem split_append {p : Char → Bool} {s : Char} (hs : p s = true) (front rest : List Char) :
    split p (front ++ s :: rest) = split p front ++ split p rest := by
  induction front with
  | nil => simp [split, hs]
  | cons c front ih =>
    rw [List.cons_append, split, split, ih]
    split
    next => rfl
    next =>
      obtain ⟨piece, pieces, he⟩ := List.exists_cons_of_ne_nil (split_ne_nil p front)
      rw [he]
      rfl

theorem split_append_cons {p : Char → Bool} {s : Char} (hs : p s = true) {piece : List Char}
    (h : ∀ c ∈ piece, p c = false) (rest : List Char) :
    split p (piece ++ s :: rest) = piece :: split p rest := by
  rw [split_append hs, split_eq_singleton h, List.singleton_append]

/-- The text is the pieces with a separator between each two of them. -/
inductive Separated (p : Char → Bool) : List (List Char) → List Char → Prop where
  | single (piece : List Char) : Separated p [piece] piece
  | cons {s : Char} {pieces : List (List Char)} {cs : List Char} (piece : List Char) :
      p s = true → Separated p pieces cs → Separated p (piece :: pieces) (piece ++ s :: cs)

theorem separated_split (p : Char → Bool) (cs : List Char) : Separated p (split p cs) cs := by
  induction cs with
  | nil => exact .single []
  | cons c rest ih =>
    rw [split]
    split
    next hc => exact .cons [] hc ih
    next =>
      obtain ⟨piece, pieces, hs⟩ := List.exists_cons_of_ne_nil (split_ne_nil p rest)
      rw [hs] at ih ⊢
      cases ih with
      | single => exact .single _
      | cons _ hp h => exact .cons (c :: piece) hp h

theorem not_separator_of_mem_split {p : Char → Bool} {cs piece : List Char} (h : piece ∈ split p cs) :
    ∀ c ∈ piece, p c = false := by
  induction cs generalizing piece with
  | nil =>
    cases List.mem_singleton.1 h
    exact fun c hc => absurd hc List.not_mem_nil
  | cons c rest ih =>
    rw [split] at h
    split at h
    next =>
      rcases List.mem_cons.1 h with rfl | h
      · exact fun d hd => absurd hd List.not_mem_nil
      · exact ih h
    next hc =>
      obtain ⟨first, pieces, hs⟩ := List.exists_cons_of_ne_nil (split_ne_nil p rest)
      rw [hs] at h ih
      rcases List.mem_cons.1 h with rfl | h
      · intro d hd
        rcases List.mem_cons.1 hd with rfl | hd
        · exact Bool.eq_false_iff.2 hc
        · exact ih List.mem_cons_self d hd
      · exact ih (List.mem_cons_of_mem _ h)

/-- The pieces are the texts without separators that have separators between them. -/
theorem split_eq_iff {p : Char → Bool} {cs : List Char} {pieces : List (List Char)} :
    split p cs = pieces ↔ Separated p pieces cs ∧ ∀ piece ∈ pieces, ∀ c ∈ piece, p c = false := by
  constructor
  · rintro rfl
    exact ⟨separated_split p cs, fun _ hm => not_separator_of_mem_split hm⟩
  · rintro ⟨h, hfree⟩
    induction h with
    | single piece => exact split_eq_singleton (hfree piece List.mem_cons_self)
    | cons piece hs _ ih =>
      rw [split_append_cons hs (hfree piece List.mem_cons_self),
        ih fun p hp => hfree p (List.mem_cons_of_mem _ hp)]

theorem separated_join {p : Char → Bool} {s : Char} (hs : p s = true) {pieces : List (List Char)}
    (hne : pieces ≠ []) : Separated p pieces (join [s] pieces) := by
  induction pieces with
  | nil => exact absurd rfl hne
  | cons piece pieces ih =>
    cases pieces with
    | nil => exact .single piece
    | cons next pieces =>
      rw [join, List.append_assoc, List.singleton_append]
      · exact .cons piece hs (ih (List.cons_ne_nil next pieces))
      · exact nofun

theorem split_join {s : Char} {pieces : List (List Char)} (hne : pieces ≠ [])
    (h : ∀ piece ∈ pieces, s ∉ piece) : split (· == s) (join [s] pieces) = pieces := by
  have hseparated := separated_join (p := (· == s)) (beq_self_eq_true s) hne
  refine split_eq_iff.2 ⟨hseparated, fun piece hp c hc => ?_⟩
  exact beq_eq_false_iff_ne.2 fun he => h piece hp (he ▸ hc)

/-- The pieces of a text are those of the items between its separators. -/
theorem split_intercalate {s : Char} {sep : String} (hsep : sep.toList = [s])
    {items : List String} (hne : items ≠ []) :
    split (· == s) (sep.intercalate items).toList =
      items.flatMap fun item => split (· == s) item.toList := by
  induction items with
  | nil => exact absurd rfl hne
  | cons item rest ih =>
    cases rest with
    | nil => simp
    | cons next rest =>
      rw [String.intercalate_cons_cons, String.toList_append, String.toList_append, hsep,
        List.append_assoc, List.singleton_append, split_append (p := (· == s)) (beq_self_eq_true s),
        ih nofun, List.flatMap_cons (x := item)]

theorem mem_intercalate {c : Char} {sep : String} {items : List String}
    (h : c ∈ (sep.intercalate items).toList) : c ∈ sep.toList ∨ ∃ item ∈ items, c ∈ item.toList := by
  induction items with
  | nil => simp at h
  | cons item rest ih =>
    cases rest with
    | nil => exact .inr ⟨item, List.mem_cons_self, by simpa using h⟩
    | cons next rest =>
      rw [String.intercalate_cons_cons, String.toList_append, String.toList_append, List.mem_append,
        List.mem_append] at h
      rcases h with (h | h) | h
      · exact .inr ⟨item, List.mem_cons_self, h⟩
      · exact .inl h
      · exact (ih h).imp_right fun ⟨i, hi, hc⟩ => ⟨i, List.mem_cons_of_mem _ hi, hc⟩

/-- What `cut` gives is the text with the first separator taken out. -/
theorem cut_eq_some_iff {p : Char → Bool} {cs before after : List Char} :
    cut p cs = some (before, after) ↔
      ∃ s, p s ∧ (∀ c ∈ before, ¬ p c) ∧ cs = before ++ s :: after := by
  induction cs generalizing before with
  | nil => simp [cut]
  | cons c rest ih =>
    rw [cut]
    split
    next h =>
      constructor
      · intro heq
        obtain ⟨rfl, rfl⟩ := Prod.mk.inj (Option.some.inj heq)
        exact ⟨c, h, fun _ hm => absurd hm List.not_mem_nil, rfl⟩
      · rintro ⟨s, hs, hb, heq⟩
        cases before with
        | nil =>
          obtain ⟨rfl, rfl⟩ := List.cons.inj heq
          rfl
        | cons b before =>
          obtain ⟨rfl, -⟩ := List.cons.inj heq
          exact absurd h (hb c List.mem_cons_self)
    next h =>
      constructor
      · intro heq
        obtain ⟨⟨b, a⟩, hcut, heq⟩ := Option.map_eq_some_iff.1 heq
        obtain ⟨rfl, rfl⟩ := Prod.mk.inj heq
        obtain ⟨s, hs, hb, rfl⟩ := ih.1 hcut
        refine ⟨s, hs, fun d hd => ?_, rfl⟩
        rcases List.mem_cons.1 hd with rfl | hd
        · exact h
        · exact hb d hd
      · rintro ⟨s, hs, hb, heq⟩
        cases before with
        | nil =>
          obtain ⟨rfl, rfl⟩ := List.cons.inj heq
          exact absurd hs h
        | cons b before =>
          obtain ⟨rfl, rfl⟩ := List.cons.inj heq
          rw [ih.2 ⟨s, hs, fun d hd => hb d (List.mem_cons_of_mem _ hd), rfl⟩]
          rfl

theorem cut_eq_none_iff {p : Char → Bool} {cs : List Char} :
    cut p cs = none ↔ ∀ c ∈ cs, p c = false := by
  induction cs with
  | nil => simp [cut]
  | cons c rest ih =>
    rw [cut, List.forall_mem_cons]
    split
    next h => simp [h]
    next h => rw [Option.map_eq_none_iff, ih, and_iff_right (Bool.eq_false_iff.2 h)]

/-- The text ends in `ending`. -/
def endsWith (ending s : String) : Bool :=
  ending.toList.isSuffixOf s.toList

/-- The text without the ending, which is taken off as often as it is there. -/
def dropEndings (ending : String) (s : String) : String :=
  String.ofList (go ending.toList.reverse s.toList.reverse s.length).reverse
where
  /-- Takes `head` off the front of `cs`, at most `n` times. -/
  go (head cs : List Char) : Nat → List Char
    | 0 => cs
    | n + 1 => if head.isPrefixOf cs then go head (cs.drop head.length) n else cs

end NetworkSite.Text
