/-
  Items of a list together with those in front of them.

  Rules such as "a name must not occur twice" look back at earlier items;
  `withEarlier` turns them into a `map` or `flatMap`, and what it finds of each
  item holds of all pairs (`pairwise_of_withEarlier`).  `firstOccurrences` keeps
  each item where it stands first (`mem_firstOccurrences`,
  `nodup_firstOccurrences`, `pairwise_firstOccurrences`).
-/

namespace NetworkSite

variable {α : Type}

/-- Each item with the items in front of it, where `before` is in front of all. -/
def withEarlierFrom (before : List α) : List α → List (List α × α)
  | [] => []
  | a :: rest => (before, a) :: withEarlierFrom (before ++ [a]) rest

/-- Each item of a list with the items in front of it. -/
def withEarlier (items : List α) : List (List α × α) :=
  withEarlierFrom [] items

theorem map_snd_withEarlierFrom (before items : List α) :
    (withEarlierFrom before items).map (·.2) = items := by
  induction items generalizing before with
  | nil => rfl
  | cons a rest ih => simp [withEarlierFrom, ih]

theorem map_snd_withEarlier (items : List α) : (withEarlier items).map (·.2) = items :=
  map_snd_withEarlierFrom [] items

theorem withEarlierFrom_map {β : Type} (f : α → β) (before items : List α) :
    withEarlierFrom (before.map f) (items.map f) =
      (withEarlierFrom before items).map fun x => (x.1.map f, f x.2) := by
  induction items generalizing before with
  | nil => rfl
  | cons a rest ih =>
    have hstep := ih (before ++ [a])
    rw [List.map_append] at hstep
    exact congrArg _ hstep

theorem withEarlier_map {β : Type} (f : α → β) (items : List α) :
    withEarlier (items.map f) = (withEarlier items).map fun x => (x.1.map f, f x.2) :=
  withEarlierFrom_map f [] items

theorem withEarlierFrom_eq_zipIdx (before items : List α) :
    withEarlierFrom before items =
      (items.zipIdx before.length).map fun x => ((before ++ items).take x.2, x.1) := by
  induction items generalizing before with
  | nil => rfl
  | cons a rest ih =>
    rw [withEarlierFrom, ih, List.zipIdx_cons, List.map_cons, List.take_left, List.length_append,
      List.length_singleton, List.append_assoc, List.singleton_append]

theorem withEarlier_eq_zipIdx (items : List α) :
    withEarlier items = items.zipIdx.map fun x => (items.take x.2, x.1) :=
  withEarlierFrom_eq_zipIdx [] items

theorem mem_withEarlierFrom {before earlier items : List α} {a : α} :
    (earlier, a) ∈ withEarlierFrom before items ↔
      ∃ front back, items = front ++ a :: back ∧ earlier = before ++ front := by
  induction items generalizing before with
  | nil => simp [withEarlierFrom]
  | cons b rest ih =>
    rw [withEarlierFrom, List.mem_cons, ih, Prod.mk.injEq]
    constructor
    · rintro (⟨rfl, rfl⟩ | ⟨front, back, rfl, rfl⟩)
      · exact ⟨[], rest, rfl, by simp⟩
      · exact ⟨b :: front, back, rfl, by simp⟩
    · rintro ⟨front, back, h, rfl⟩
      cases front with
      | nil => cases h; exact .inl ⟨by simp, rfl⟩
      | cons c front => cases h; exact .inr ⟨front, back, rfl, by simp⟩

/-- Each item stands behind the items that come with it. -/
theorem mem_withEarlier {earlier items : List α} {a : α} :
    (earlier, a) ∈ withEarlier items ↔ ∃ back, items = earlier ++ a :: back := by
  rw [withEarlier, mem_withEarlierFrom]
  constructor
  · rintro ⟨front, back, rfl, rfl⟩
    exact ⟨back, rfl⟩
  · rintro ⟨back, rfl⟩
    exact ⟨earlier, back, rfl, rfl⟩

theorem exists_mem_withEarlier {items : List α} {a : α} (h : a ∈ items) :
    ∃ earlier, (earlier, a) ∈ withEarlier items := by
  obtain ⟨front, back, rfl⟩ := List.append_of_mem h
  exact ⟨front, mem_withEarlier.2 ⟨back, rfl⟩⟩

theorem pairwise_withEarlierFrom (before items : List α) :
    (withEarlierFrom before items).Pairwise fun x y => x.2 ∈ y.1 := by
  induction items generalizing before with
  | nil => exact List.Pairwise.nil
  | cons a rest ih =>
    refine List.pairwise_cons.2 ⟨fun y hy => ?_, ih _⟩
    obtain ⟨front, back, -, he⟩ := mem_withEarlierFrom.1 hy
    rw [he]
    simp

theorem pairwise_withEarlier (items : List α) :
    (withEarlier items).Pairwise fun x y => x.2 ∈ y.1 :=
  pairwise_withEarlierFrom [] items

theorem pairwise_of_withEarlierFrom {r : α → α → Prop} {before items : List α}
    (h : ∀ x ∈ withEarlierFrom before items, ∀ b ∈ x.1, r b x.2) : items.Pairwise r := by
  induction items generalizing before with
  | nil => exact List.Pairwise.nil
  | cons a rest ih =>
    have hrest : ∀ x ∈ withEarlierFrom (before ++ [a]) rest, ∀ b ∈ x.1, r b x.2 :=
      fun x hx => h x (List.mem_cons_of_mem _ hx)
    refine List.pairwise_cons.2 ⟨fun b hb => ?_, ih hrest⟩
    obtain ⟨front, back, rfl⟩ := List.append_of_mem hb
    exact hrest (before ++ [a] ++ front, b) (mem_withEarlierFrom.2 ⟨front, back, rfl, rfl⟩) a (by simp)

theorem pairwise_of_withEarlier {r : α → α → Prop} {items : List α}
    (h : ∀ x ∈ withEarlier items, ∀ b ∈ x.1, r b x.2) : items.Pairwise r :=
  pairwise_of_withEarlierFrom h

/-- Between all pairs a symmetric relation is one between any two places. -/
theorem rel_of_pairwise {r : α → α → Prop} (hsymm : ∀ {a b}, r a b → r b a) {items : List α}
    (h : items.Pairwise r) {i j : Nat} (hij : i ≠ j) {a b : α} (ha : items[i]? = some a)
    (hb : items[j]? = some b) : r a b := by
  obtain ⟨hi, rfl⟩ := List.getElem?_eq_some_iff.1 ha
  obtain ⟨hj, rfl⟩ := List.getElem?_eq_some_iff.1 hb
  rcases Nat.lt_or_gt_of_ne hij with hlt | hlt
  · exact List.pairwise_iff_getElem.1 h i j hi hj hlt
  · exact hsymm (List.pairwise_iff_getElem.1 h j i hj hi hlt)

/-- The items that are neither in `seen` nor in front already. -/
def unseen [BEq α] (seen : List α) : List α → List α
  | [] => []
  | a :: rest => if seen.contains a then unseen seen rest else a :: unseen (a :: seen) rest

/-- The items without those that stand in front already. -/
def firstOccurrences [BEq α] (items : List α) : List α :=
  unseen [] items

section

variable [BEq α] [LawfulBEq α]

theorem mem_unseen {seen items : List α} {a : α} : a ∈ unseen seen items ↔ a ∈ items ∧ a ∉ seen := by
  induction items generalizing seen with
  | nil => simp [unseen]
  | cons b rest ih =>
    unfold unseen
    split
    next hb =>
      have hb : b ∈ seen := List.contains_iff_mem.1 hb
      rw [ih, List.mem_cons]
      constructor
      · exact fun ⟨h, hn⟩ => ⟨.inr h, hn⟩
      · rintro ⟨rfl | h, hn⟩
        · exact absurd hb hn
        · exact ⟨h, hn⟩
    next hb =>
      have hb : b ∉ seen := fun h => hb (List.contains_iff_mem.2 h)
      rw [List.mem_cons, ih, List.mem_cons, List.mem_cons]
      constructor
      · rintro (rfl | ⟨h, hn⟩)
        · exact ⟨.inl rfl, hb⟩
        · exact ⟨.inr h, fun hs => hn (.inr hs)⟩
      · rintro ⟨rfl | h, hn⟩
        · exact .inl rfl
        · by_cases hab : a = b
          · exact .inl hab
          · exact .inr ⟨h, fun hs => hs.elim hab hn⟩

theorem nodup_unseen (seen items : List α) : (unseen seen items).Nodup := by
  induction items generalizing seen with
  | nil => exact List.nodup_nil
  | cons b rest ih =>
    unfold unseen
    split
    · exact ih seen
    · exact List.nodup_cons.2 ⟨fun h => (mem_unseen.1 h).2 List.mem_cons_self, ih _⟩

theorem mem_firstOccurrences {items : List α} {a : α} : a ∈ firstOccurrences items ↔ a ∈ items := by
  simp [firstOccurrences, mem_unseen]

theorem nodup_firstOccurrences (items : List α) : (firstOccurrences items).Nodup :=
  nodup_unseen [] items

theorem pairwise_unseen (seen items : List α) :
    (unseen seen items).Pairwise fun a b => ∀ front back, items = front ++ b :: back → a ∈ front := by
  induction items generalizing seen with
  | nil => exact List.Pairwise.nil
  | cons c rest ih =>
    -- An item that is kept is not the first one if that has been seen.
    have hnext : ∀ seen : List α, c ∈ seen →
        (unseen seen rest).Pairwise fun a b =>
          ∀ front back, c :: rest = front ++ b :: back → a ∈ front := by
      intro seen hc
      refine (ih seen).imp_of_mem fun {a b} _ hb hab front back he => ?_
      cases front with
      | nil =>
        obtain ⟨rfl, -⟩ := List.cons.inj he
        exact absurd hc (mem_unseen.1 hb).2
      | cons d front =>
        exact List.mem_cons_of_mem d (hab front back (List.cons.inj he).2)
    unfold unseen
    split
    next hc => exact hnext seen (List.contains_iff_mem.1 hc)
    next =>
      refine List.pairwise_cons.2 ⟨fun b hb front back he => ?_, hnext _ List.mem_cons_self⟩
      cases front with
      | nil =>
        obtain ⟨rfl, -⟩ := List.cons.inj he
        exact absurd List.mem_cons_self (mem_unseen.1 hb).2
      | cons d front =>
        obtain ⟨rfl, -⟩ := List.cons.inj he
        exact List.mem_cons_self

theorem pairwise_firstOccurrences (items : List α) :
    (firstOccurrences items).Pairwise fun a b =>
      ∀ front back, items = front ++ b :: back → a ∈ front :=
  pairwise_unseen [] items

end

end NetworkSite
