/-
  Counting the items of a list that satisfy a condition.

  `countP_lt_countP` is the strict form of monotonicity: it makes the count a
  measure for loops that use up one item at a time.
-/

namespace NetworkSite

variable {α : Type}

/-- A condition that implies another one and fails on an item of the other
    holds of fewer items. -/
theorem countP_lt_countP {p q : α → Bool} {items : List α} (h : ∀ a ∈ items, p a = true → q a = true)
    {a : α} (ha : a ∈ items) (hp : p a = false) (hq : q a = true) : items.countP p < items.countP q := by
  induction items with
  | nil => cases ha
  | cons b rest ih =>
    have hb := h b List.mem_cons_self
    have hrest : ∀ a ∈ rest, p a = true → q a = true := fun a ha => h a (List.mem_cons_of_mem _ ha)
    rw [List.countP_cons, List.countP_cons]
    rcases List.mem_cons.1 ha with rfl | ha
    · have := List.countP_mono_left hrest
      simp only [hp, hq]
      simp
      omega
    · have := ih hrest ha
      by_cases hpb : p b = true
      · simp [hpb, hb hpb, this]
      · simp only [hpb, if_neg, Bool.false_eq_true, not_false_eq_true]
        omega

end NetworkSite
