/-
  Lists whose items have distinct keys: an item is the only one with its key.
-/
import NetworkSite.Data.Earlier

namespace NetworkSite

variable {α κ : Type} {key : α → κ} {items : List α} {a b : α}

theorem eq_of_key_eq (h : (items.map key).Nodup) (ha : a ∈ items) (hb : b ∈ items)
    (hk : key a = key b) : a = b := by
  induction items with
  | nil => cases ha
  | cons c rest ih =>
    rw [List.map_cons, List.nodup_cons] at h
    have hne : ∀ d ∈ rest, key c ≠ key d := fun d hd he => h.1 (he ▸ List.mem_map_of_mem hd)
    rcases List.mem_cons.1 ha with rfl | ha'
    · rcases List.mem_cons.1 hb with rfl | hb'
      · rfl
      · exact absurd hk (hne b hb')
    · rcases List.mem_cons.1 hb with rfl | hb'
      · exact absurd hk.symm (hne a ha')
      · exact ih h.2 ha' hb'

variable [BEq κ] [LawfulBEq κ]

theorem filter_key_eq (h : (items.map key).Nodup) (ha : a ∈ items) :
    items.filter (fun b => key b == key a) = [a] := by
  induction items with
  | nil => cases ha
  | cons c rest ih =>
    rw [List.map_cons, List.nodup_cons] at h
    rw [List.filter_cons]
    rcases List.mem_cons.1 ha with rfl | ha'
    · rw [if_pos (beq_self_eq_true _), List.filter_eq_nil_iff.2]
      intro b hb he
      exact h.1 (beq_iff_eq.1 he ▸ List.mem_map_of_mem hb)
    · rw [if_neg, ih h.2 ha']
      intro he
      exact h.1 (beq_iff_eq.1 he ▸ List.mem_map_of_mem ha')

theorem find?_key_eq (h : (items.map key).Nodup) (ha : a ∈ items) :
    items.find? (fun b => key b == key a) = some a := by
  rw [← List.head?_filter, filter_key_eq h ha]
  rfl

theorem any_key_eq_false {before : List α} (h : (items.map key).Nodup)
    (ha : (before, a) ∈ withEarlier items) : before.any (fun b => key b == key a) = false := by
  obtain ⟨back, rfl⟩ := mem_withEarlier.1 ha
  rw [List.map_append, List.nodup_append] at h
  refine List.any_eq_false.2 fun b hb he => ?_
  exact h.2.2 _ (List.mem_map_of_mem hb) _ (List.mem_map_of_mem List.mem_cons_self) (beq_iff_eq.1 he)

/-- What the items with a key list. -/
theorem filter_flatMap_key {β : Type} {list : α → List β} {owner : β → κ}
    (ho : ∀ a, ∀ b ∈ list a, owner b = key a) (k : κ) :
    (items.flatMap list).filter (fun b => owner b == k) =
      (items.filter fun a => key a == k).flatMap list := by
  induction items with
  | nil => rfl
  | cons a rest ih =>
    rw [List.flatMap_cons, List.filter_append, ih, List.filter_cons]
    by_cases hk : key a = k
    · rw [List.filter_eq_self.2 fun b hb => by rw [ho a b hb, hk]; exact beq_self_eq_true k,
        if_pos (beq_iff_eq.2 hk), List.flatMap_cons]
    · rw [List.filter_eq_nil_iff.2 fun b hb => by rw [ho a b hb]; exact mt beq_iff_eq.1 hk,
        if_neg (mt beq_iff_eq.1 hk), List.nil_append]

end NetworkSite
