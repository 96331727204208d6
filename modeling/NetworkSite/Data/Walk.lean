/-
  Walks along a relation, counted by their steps.

  * `Walk r n a b`: `n` steps of `r` lead from `a` to `b`.
  * `OnCycle r a`: a walk of at least one step leads from `a` back to `a`.
  * `exists_onCycle`: where each item of a list has a step to an item of the
    list, a walk leads from each item to a cycle.
-/
import Mathlib.Data.Fintype.Pigeonhole
import Mathlib.Data.Set.Finite.List

namespace NetworkSite

variable {α : Type} {r : α → α → Prop} {m n : Nat} {a b c : α}

/-- A walk of `n` steps from one item to another. -/
inductive Walk (r : α → α → Prop) : Nat → α → α → Prop
  | refl (a : α) : Walk r 0 a a
  | snoc {n : Nat} {a b c : α} : Walk r n a b → r b c → Walk r (n + 1) a c

namespace Walk

theorem single (h : r a b) : Walk r 1 a b :=
  (refl a).snoc h

theorem trans (h : Walk r m a b) (h' : Walk r n b c) : Walk r (m + n) a c := by
  induction h' with
  | refl => exact h
  | snoc _ hs ih => exact (ih h).snoc hs

theorem cons (h : r a b) (h' : Walk r n b c) : Walk r (n + 1) a c := by
  rw [Nat.add_comm]
  exact (single h).trans h'

theorem eq_of_zero (h : Walk r 0 a b) : a = b := by
  cases h
  rfl

theorem exists_last (h : Walk r (n + 1) a c) : ∃ b, Walk r n a b ∧ r b c := by
  cases h with
  | snoc hw hs => exact ⟨_, hw, hs⟩

theorem exists_first (h : Walk r (n + 1) a c) : ∃ b, r a b ∧ Walk r n b c := by
  induction n generalizing c with
  | zero =>
    obtain ⟨b, hw, hs⟩ := h.exists_last
    obtain rfl := hw.eq_of_zero
    exact ⟨c, hs, refl c⟩
  | succ n ih =>
    obtain ⟨d, hw, hs⟩ := h.exists_last
    obtain ⟨b, hb, hw⟩ := ih hw
    exact ⟨b, hb, hw.snoc hs⟩

theorem reverse (h : Walk r n a b) : Walk (fun x y => r y x) n b a := by
  induction h with
  | refl => exact refl _
  | snoc _ hs ih => exact cons hs ih

theorem of_reverse (h : Walk (fun x y => r y x) n a b) : Walk r n b a :=
  h.reverse

/-- A walk keeps to one kind of steps or passes an item from which another kind
    starts. -/
theorem steps_or_passes {r' : α → α → Prop} {p : α → Prop} (hr : ∀ x y, r x y → r' x y ∨ p x)
    (h : Walk r n a b) : Walk r' n a b ∨ ∃ c k l, p c ∧ Walk r k a c ∧ Walk r (l + 1) c b := by
  induction h with
  | refl => exact .inl (refl _)
  | snoc hw hs ih =>
    rcases ih with hw' | ⟨c, k, l, hc, hk, hl⟩
    · rcases hr _ _ hs with hs' | hp
      · exact .inl (hw'.snoc hs')
      · exact .inr ⟨_, _, 0, hp, hw, single hs⟩
    · exact .inr ⟨c, k, l + 1, hc, hk, hl.snoc hs⟩

end Walk

/-- The item lies on a cycle. -/
def OnCycle (r : α → α → Prop) (a : α) : Prop :=
  ∃ n, Walk r (n + 1) a a

namespace OnCycle

theorem exists_next (h : OnCycle r a) : ∃ b, r a b ∧ OnCycle r b ∧ ∃ n, Walk r n b a := by
  obtain ⟨n, hw⟩ := h
  obtain ⟨b, hs, hw⟩ := hw.exists_first
  exact ⟨b, hs, ⟨n, hw.snoc hs⟩, n, hw⟩

theorem exists_long (h : OnCycle r a) (n : Nat) : ∃ m, n ≤ m ∧ Walk r m a a := by
  obtain ⟨k, hw⟩ := h
  induction n with
  | zero => exact ⟨0, Nat.le_refl 0, .refl a⟩
  | succ n ih =>
    obtain ⟨m, hm, hn⟩ := ih
    exact ⟨m + (k + 1), by omega, hn.trans hw⟩

theorem reverse (h : OnCycle r a) : OnCycle (fun x y => r y x) a := by
  obtain ⟨n, hw⟩ := h
  exact ⟨n, hw.reverse⟩

end OnCycle

theorem onCycle_of_walks (h : Walk r (m + 1) a b) (h' : Walk r n b a) : OnCycle r a := by
  have hw := h.trans h'
  rw [Nat.add_right_comm] at hw
  exact ⟨m + n, hw⟩

theorem walk_iterate {next : α → α} (h : ∀ k, r (next^[k] a) (next (next^[k] a))) (k l : Nat) :
    Walk r l (next^[k] a) (next^[k + l] a) := by
  induction l with
  | zero => exact .refl _
  | succ l ih =>
    rw [← Nat.add_assoc, Function.iterate_succ_apply']
    exact ih.snoc (h _)

/-- **Without an end a walk runs into a cycle.** -/
theorem exists_onCycle {items : List α} (h : ∀ a ∈ items, ∃ b ∈ items, r a b) (ha : a ∈ items) :
    ∃ b n, Walk r n a b ∧ OnCycle r b := by
  choose! next hmem hstep using h
  have hiter : ∀ k, next^[k] a ∈ items := by
    intro k
    induction k with
    | zero => exact ha
    | succ k ih =>
      rw [Function.iterate_succ_apply']
      exact hmem _ ih
  have hwalk := walk_iterate fun k => hstep _ (hiter k)
  have hclosed : ∀ k l, k < l → next^[k] a = next^[l] a → OnCycle r (next^[k] a) := by
    intro k l hkl heq
    have hw := hwalk k (l - k - 1 + 1)
    rw [show k + (l - k - 1 + 1) = l by omega, ← heq] at hw
    exact ⟨_, hw⟩
  -- There are more numbers of steps than items, so two of them lead to one item.
  have hfinite : Finite {b // b ∈ items} := (List.finite_toSet items).to_subtype
  obtain ⟨k, l, hne, heq⟩ := Finite.exists_ne_map_eq_of_infinite
    fun k : Nat => (⟨next^[k] a, hiter k⟩ : {b // b ∈ items})
  have heq : next^[k] a = next^[l] a := congrArg Subtype.val heq
  have hstart : ∀ k, Walk r k a (next^[k] a) := fun k => by simpa using hwalk 0 k
  rcases Nat.lt_or_gt_of_ne hne with hlt | hlt
  · exact ⟨_, k, hstart k, hclosed k l hlt heq⟩
  · exact ⟨_, l, hstart l, hclosed l k hlt heq.symm⟩

end NetworkSite
