/-
  Facts about trees of files and directories.

  Everything on the way to a node is a directory (`isDirectory_above`), the
  names in a directory are those of the nodes in it (`mem_childNames`), and
  taking paths away leaves exactly what stands at and below none of them
  (`node?_removeAll`).
-/
import NetworkSite.Files.Change
import Mathlib.Data.List.Basic
import Mathlib.Data.List.Induction

namespace NetworkSite.FileTree

variable {t : FileTree} {p q : Path} {n m k : FileName}

/-! ## Paths -/

theorem child_ne : p ++ [n] ≠ p := by
  simp

theorem child_inj (h : p ++ [n] = p ++ [m]) : n = m :=
  List.singleton_inj.1 (List.append_cancel_left h)

theorem grandchild_ne_child : p ++ [n] ++ [m] ≠ p ++ [k] := by
  simp

theorem eq_of_child_below (h : p ++ [n] <+: p ++ [m]) : n = m :=
  child_inj (h.eq_of_length (by simp))

/-! ## Nodes -/

theorem isDirectory_iff : t.isDirectory p = true ↔ t.node? p = some .directory := by
  simp only [isDirectory, beq_iff_eq]

theorem node?_nil : t.node? [] = some .directory := rfl

theorem node?_append_singleton : t.node? (p ++ [n]) = t.nodes.get? (p ++ [n]) :=
  if_neg (by simp)

/-- A node stands in a directory. -/
theorem isDirectory_of_append (h : t.node? (p ++ [n]) ≠ none) : t.isDirectory p = true := by
  rw [node?_append_singleton] at h
  have hcontains : t.nodes.contains (p ++ [n]) = true := Option.isSome_iff_ne_none.2 h
  rw [isDirectory_iff]
  rcases t.above p n hcontains with rfl | hp
  · exact node?_nil
  · unfold node?
    split
    · rfl
    · exact hp

/-- On the way to a node there are directories. -/
theorem isDirectory_above (h : t.node? q ≠ none) (hp : p <+: q) (hne : p ≠ q) :
    t.isDirectory p = true := by
  obtain ⟨below, rfl⟩ := hp
  induction below using List.reverseRecOn with
  | nil => exact absurd (List.append_nil p).symm hne
  | append_singleton below n ih =>
    rw [← List.append_assoc] at h
    have hd : t.isDirectory (p ++ below) = true := isDirectory_of_append h
    by_cases hnil : below = []
    · rwa [hnil, List.append_nil] at hd
    · refine ih ?_ ?_
      · rw [isDirectory_iff.1 hd]
        exact nofun
      · simpa using hnil

theorem node?_eq_none_below (h : t.node? p = none) (hp : p <+: q) : t.node? q = none := by
  by_contra hq
  by_cases hne : p = q
  · exact hq (hne ▸ h)
  · rw [isDirectory_iff.1 (isDirectory_above hq hp hne)] at h
    cases h

theorem nameIn?_eq_some : nameIn? p q = some n ↔ q = p ++ [n] := by
  unfold nameIn?
  constructor
  · intro h
    split at h
    next m hm =>
      split at h
      next hd =>
        cases h
        rw [← hd]
        exact (List.dropLast_append_getLast? n hm).symm
      next => cases h
    next => cases h
  · rintro rfl
    simp

theorem mem_childNames : n ∈ t.childNames p ↔ t.node? (p ++ [n]) ≠ none := by
  rw [node?_append_singleton, childNames, List.mem_filterMap]
  constructor
  · rintro ⟨q, hq, hn⟩
    obtain ⟨⟨q', node⟩, hm, rfl⟩ := List.mem_map.1 hq
    rw [nameIn?_eq_some] at hn
    rw [← hn, SortedMap.get?_eq_some.2 hm]
    exact nofun
  · intro h
    obtain ⟨node, hnode⟩ := Option.ne_none_iff_exists'.1 h
    exact ⟨p ++ [n], List.mem_map.2 ⟨_, SortedMap.get?_eq_some.1 hnode, rfl⟩, nameIn?_eq_some.2 rfl⟩

theorem childNames_eq_nil : t.childNames p = [] ↔ ∀ n, t.node? (p ++ [n]) = none := by
  rw [List.eq_nil_iff_forall_not_mem]
  simp only [mem_childNames, ne_eq, not_not]

/-! ## Taking paths away -/

/-- What is left stands at and below none of the paths. -/
theorem node?_removeAll (t : FileTree) (ps : List Path) (q : Path) :
    (t.removeAll ps).node? q = if q ≠ [] ∧ ∃ p ∈ ps, p <+: q then none else t.node? q := by
  induction ps generalizing t with
  | nil => simp [removeAll]
  | cons p rest ih =>
    have hcons : t.removeAll (p :: rest) = (t.remove p).removeAll rest := rfl
    rw [hcons, ih, node?_remove]
    simp only [List.mem_cons, exists_eq_or_imp]
    by_cases hnil : q = []
    · simp [hnil]
    · by_cases hp : p <+: q <;> simp [hp, hnil]

theorem node?_removeAll_of_forall {ps : List Path} (h : ∀ p ∈ ps, ¬p <+: q) :
    (t.removeAll ps).node? q = t.node? q := by
  rw [node?_removeAll, if_neg]
  rintro ⟨-, p, hp, hq⟩
  exact h p hp hq

theorem node?_removeAll_eq_some {ps : List Path} {node : Node}
    (h : (t.removeAll ps).node? q = some node) : t.node? q = some node := by
  rw [node?_removeAll] at h
  split at h
  · cases h
  · exact h

theorem node?_removeAll_of_none (ps : List Path) (h : t.node? q = none) :
    (t.removeAll ps).node? q = none := by
  rw [node?_removeAll, h, ite_self]

theorem isDirectory_of_removeAll {ps : List Path} (h : (t.removeAll ps).isDirectory p = true) :
    t.isDirectory p = true :=
  isDirectory_iff.2 (node?_removeAll_eq_some (isDirectory_iff.1 h))

theorem removeAll_append (t : FileTree) (ps qs : List Path) :
    t.removeAll (ps ++ qs) = (t.removeAll ps).removeAll qs :=
  List.foldl_append

end NetworkSite.FileTree
