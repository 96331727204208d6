/-
  Cycles of a relation: items in a ring, each with a step to the next.

  Where every item has one step at most, a cycle cannot be left and is known by
  any of its members (`IsCycleOf.eq_of_mem`), and the items on a closed walk are
  those on cycles (`IsCycleOf.mem_of_onCycle`).
-/
import NetworkSite.Data.Walk
import Mathlib.Data.List.Cycle
import Mathlib.Logic.Relator

namespace NetworkSite

variable {α : Type} {r : α → α → Prop} {n : Nat} {a b x : α} {l l' : List α} {c c' : Cycle α}

theorem walk_of_isChain (h : List.IsChain r (a :: (l ++ [b]))) : Walk r (l.length + 1) a b := by
  induction l generalizing a with
  | nil => exact .single (List.isChain_pair.1 h)
  | cons x l ih =>
    obtain ⟨hs, hrest⟩ := List.isChain_cons_cons.1 h
    exact .cons hs (ih hrest)

theorem Walk.exists_split {m : Nat} (h : Walk r (m + n) a b) : ∃ x, Walk r m a x ∧ Walk r n x b := by
  induction n generalizing b with
  | zero => exact ⟨b, h, .refl b⟩
  | succ n ih =>
    obtain ⟨y, hw, hs⟩ := h.exists_last
    obtain ⟨x, hm, hn⟩ := ih hw
    exact ⟨x, hm, hn.snoc hs⟩

/-- A ring of different items, each with a step to the next. -/
structure IsCycleOf (r : α → α → Prop) (c : Cycle α) : Prop where
  ne_nil : c ≠ Cycle.nil
  nodup : c.Nodup
  chain : c.Chain r

theorem isCycleOf_cons (hn : (a :: l).Nodup) (h : List.IsChain r (a :: (l ++ [a]))) :
    IsCycleOf r ↑(a :: l) where
  ne_nil he := nomatch (Cycle.coe_eq_nil _).1 he
  nodup := Cycle.nodup_coe_iff.2 hn
  chain := (Cycle.chain_coe_cons r a l).2 h

theorem mem_toMultiset : a ∈ c.toMultiset ↔ a ∈ c := by
  induction c using Quotient.inductionOn with
  | h items => rfl

namespace IsCycleOf

theorem nodup_toMultiset (h : IsCycleOf r c) : c.toMultiset.Nodup := by
  induction c using Quotient.inductionOn with
  | h items => exact Multiset.coe_nodup.2 (Cycle.nodup_coe_iff.1 h.nodup)

theorem exists_mem (h : IsCycleOf r c) : ∃ a, a ∈ c := by
  cases c using Cycle.induction_on with
  | nil => exact absurd rfl h.ne_nil
  | cons a l => exact ⟨a, Cycle.mem_coe_iff.2 List.mem_cons_self⟩

theorem exists_eq_cons (h : IsCycleOf r c) (ha : a ∈ c) :
    ∃ l, c = ↑(a :: l) ∧ (a :: l).Nodup ∧ List.IsChain r (a :: (l ++ [a])) := by
  induction c using Quotient.inductionOn with
  | h items =>
    obtain ⟨front, back, rfl⟩ := List.append_of_mem (Cycle.mem_coe_iff.1 ha)
    have hc : (↑(front ++ a :: back) : Cycle α) = ↑(a :: (back ++ front)) :=
      Cycle.coe_eq_coe.2 List.isRotated_append
    have h : IsCycleOf r ↑(a :: (back ++ front)) := hc ▸ h
    exact ⟨back ++ front, hc, Cycle.nodup_coe_iff.1 h.nodup, (Cycle.chain_coe_cons r a _).1 h.chain⟩

theorem onCycle (h : IsCycleOf r c) (ha : a ∈ c) : OnCycle r a := by
  obtain ⟨l, -, -, hl⟩ := h.exists_eq_cons ha
  exact ⟨l.length, walk_of_isChain hl⟩

end IsCycleOf

section Functional

variable (hr : Relator.RightUnique r)

include hr

theorem Walk.unique (h : Walk r n a b) (h' : Walk r n a x) : b = x := by
  induction h generalizing x with
  | refl => exact h'.eq_of_zero
  | snoc _ hs ih =>
    obtain ⟨y, hw, hs'⟩ := h'.exists_last
    obtain rfl := ih hw
    exact hr hs hs'

/-- There is one chain from an item to the next `b`. -/
theorem eq_of_isChain (h : List.IsChain r (a :: (l ++ [b]))) (h' : List.IsChain r (a :: (l' ++ [b])))
    (hb : b ∉ l) (hb' : b ∉ l') : l = l' := by
  induction l generalizing a l' with
  | nil =>
    cases l' with
    | nil => rfl
    | cons y l' =>
      have hstep := (List.isChain_cons_cons.1 h').1
      exact absurd (hr (List.isChain_pair.1 h) hstep ▸ List.mem_cons_self) hb'
  | cons x l ih =>
    obtain ⟨hs, hl⟩ := List.isChain_cons_cons.1 h
    cases l' with
    | nil => exact absurd (hr (List.isChain_pair.1 h') hs ▸ List.mem_cons_self) hb
    | cons y l' =>
      obtain ⟨hs', hl'⟩ := List.isChain_cons_cons.1 h'
      obtain rfl := hr hs hs'
      rw [ih hl hl' (fun hm => hb (.tail _ hm)) fun hm => hb' (.tail _ hm)]

namespace IsCycleOf

theorem eq_of_mem (h : IsCycleOf r c) (h' : IsCycleOf r c') (ha : a ∈ c) (ha' : a ∈ c') : c = c' := by
  obtain ⟨l, rfl, hn, hl⟩ := h.exists_eq_cons ha
  obtain ⟨l', rfl, hn', hl'⟩ := h'.exists_eq_cons ha'
  rw [eq_of_isChain hr hl hl' (List.nodup_cons.1 hn).1 (List.nodup_cons.1 hn').1]

theorem mem_of_step (h : IsCycleOf r c) (ha : a ∈ c) (hs : r a b) : b ∈ c := by
  obtain ⟨l, rfl, -, hl⟩ := h.exists_eq_cons ha
  cases l with
  | nil => exact hr (List.isChain_pair.1 hl) hs ▸ ha
  | cons x l =>
    rw [← hr (List.isChain_cons_cons.1 hl).1 hs]
    exact Cycle.mem_coe_iff.2 (.tail _ List.mem_cons_self)

theorem mem_of_walk (h : IsCycleOf r c) (ha : a ∈ c) (hw : Walk r n a b) : b ∈ c := by
  induction hw with
  | refl => exact ha
  | snoc _ hs ih => exact h.mem_of_step hr (ih ha) hs

theorem mem_of_onCycle (h : IsCycleOf r c) (ha : OnCycle r a) (hw : Walk r n a b) (hb : b ∈ c) :
    a ∈ c := by
  -- A closed walk that is long enough passes `b`, and leads back to `a` from there.
  obtain ⟨m, hm, hclosed⟩ := ha.exists_long n
  obtain ⟨k, rfl⟩ := Nat.exists_eq_add_of_le hm
  obtain ⟨y, hy, hback⟩ := hclosed.exists_split
  obtain rfl := hy.unique hr hw
  exact h.mem_of_walk hr hb hback

end IsCycleOf

end Functional

end NetworkSite
