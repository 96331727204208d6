/-
  What changes do to a tree.

  Changes made one after the other are those of the first part and then those of
  the second (`FileTree.perform_append`).  The directories around a place that is
  there are there too, so that making a directory with those around it comes to
  making the one (`FileTree.perform_directories`).
-/
import NetworkSite.Proofs.Locations

namespace NetworkSite.FileTree

variable {ε : Type} {t u v : FileTree} {l m : Location} {here p q : Path} {n : FileName}

/-! ## One after the other -/

theorem perform_cons {c : Change} {fault : ε} (rest : List (Change × ε)) (h : t.change? c = some u) :
    t.perform ((c, fault) :: rest) = u.perform rest := by
  simp only [perform, h]

theorem exists_of_perform_cons {c : Change} {fault : ε} {rest : List (Change × ε)}
    (h : t.perform ((c, fault) :: rest) = (u, none)) :
    ∃ v, t.change? c = some v ∧ v.perform rest = (u, none) := by
  rw [perform] at h
  split at h
  next v hv => exact ⟨v, hv, h⟩
  next => cases h

theorem perform_append {first : List (Change × ε)} (h : t.perform first = (u, none))
    (rest : List (Change × ε)) : t.perform (first ++ rest) = u.perform rest := by
  induction first generalizing t with
  | nil =>
    cases h
    rfl
  | cons c first ih =>
    obtain ⟨c, fault⟩ := c
    rw [List.cons_append, perform]
    rw [perform] at h
    split at h
    next hc => exact ih h
    next => cases h

/-- What stops the first part stops all. -/
theorem perform_append_of_some {first : List (Change × ε)} {fault : ε}
    (h : t.perform first = (u, some fault)) (rest : List (Change × ε)) :
    t.perform (first ++ rest) = (u, some fault) := by
  induction first generalizing t with
  | nil => cases h
  | cons c first ih =>
    obtain ⟨c, _⟩ := c
    rw [List.cons_append, perform]
    rw [perform] at h
    split at h
    next => exact ih h
    next => exact h

theorem exists_of_perform_append {first rest : List (Change × ε)}
    (h : t.perform (first ++ rest) = (v, none)) :
    ∃ u, t.perform first = (u, none) ∧ u.perform rest = (v, none) := by
  rcases hfirst : t.perform first with ⟨u, fault⟩
  cases fault with
  | none => exact ⟨u, rfl, (perform_append hfirst rest).symm.trans h⟩
  | some fault =>
    rw [perform_append_of_some hfirst] at h
    cases h

/-! ## Directories that are there -/

theorem makeDirectory?_of_isDirectory (h : t.isDirectory p = true) : t.makeDirectory? p = some t :=
  if_pos h

theorem exists_of_foldlM_append {front rest : List String}
    (h : (front ++ rest).foldlM t.step? here = some p) (hrest : rest ≠ []) :
    ∃ q, front.foldlM t.step? here = some q ∧ t.isDirectory q = true := by
  rw [List.foldlM_append, Option.bind_eq_bind, Option.bind_eq_some_iff] at h
  obtain ⟨q, hq, h⟩ := h
  obtain ⟨name, rest, rfl⟩ := List.exists_cons_of_ne_nil hrest
  rw [List.foldlM_cons, Option.bind_eq_bind, Option.bind_eq_some_iff] at h
  obtain ⟨next, hnext, -⟩ := h
  exact ⟨q, hq, isDirectory_of_step? hnext⟩

/-- Dots lead nowhere. -/
theorem foldlM_filter_ne_dot {names : List String} (h : names.foldlM t.step? here = some p) :
    (names.filter (· != ".")).foldlM t.step? here = some p := by
  induction names generalizing here with
  | nil => exact h
  | cons name rest ih =>
    rw [List.foldlM_cons, Option.bind_eq_bind, Option.bind_eq_some_iff] at h
    obtain ⟨next, hnext, h⟩ := h
    by_cases hdot : name = "."
    · have hhere : here = next := by
        have hd := isDirectory_of_step? hnext
        unfold step? at hnext
        simpa [hd, hdot] using hnext
      rw [List.filter_cons_of_neg (by simp [hdot])]
      exact ih (hhere ▸ h)
    · rw [List.filter_cons_of_pos (by simp [hdot]), List.foldlM_cons, hnext]
      exact ih h

/-- The directories around a place that is there are there. -/
theorem change?_of_mem_around (h : t.followNames? l = some p) (hm : m ∈ l.around) :
    t.change? (.directory m) = some t := by
  obtain ⟨k, hk, rfl⟩ := List.mem_map.1 hm
  rw [List.mem_range] at hk
  have hnames := foldlM_filter_ne_dot h
  rw [← List.take_append_drop (k + 1) (l.names.filter _)] at hnames
  obtain ⟨q, hq, hd⟩ := exists_of_foldlM_append hnames fun hnil => by
    have hlen := List.length_eq_zero_iff.2 hnil
    rw [List.length_drop] at hlen
    omega
  have hfollow : t.followNames? (l.withNames ((l.names.filter (· != ".")).take (k + 1))) = some q := hq
  rw [change?, hfollow]
  exact makeDirectory?_of_isDirectory hd

theorem perform_of_forall {changes : List (Change × ε)}
    (h : ∀ c ∈ changes, t.change? c.1 = some t) : t.perform changes = (t, none) := by
  induction changes with
  | nil => rfl
  | cons c rest ih =>
    rw [perform_cons rest (h c List.mem_cons_self)]
    exact ih fun c hc => h c (List.mem_cons_of_mem _ hc)

/-- To make the directories of a place to which its location leads is to make the
    last of them. -/
theorem perform_directories (h : t.followNames? l = some p) (fault : ε) :
    t.perform ((Change.directories l).map (·, fault)) =
      match t.makeDirectory? p with
      | some u => (u, none)
      | none => (t, some fault) := by
  have haround : t.perform ((l.around.map Change.directory).map (·, fault)) = (t, none) := by
    refine perform_of_forall fun c hc => ?_
    rw [List.map_map, List.mem_map] at hc
    obtain ⟨m, hm, rfl⟩ := hc
    exact change?_of_mem_around h hm
  rw [Change.directories, List.map_append, List.map_append, perform_append haround]
  cases hm : t.makeDirectory? p <;> simp [perform, change?, h, hm]

theorem perform_directories_of_isDirectory (h : t.followNames? l = some p)
    (hd : t.isDirectory p = true) (fault : ε) :
    t.perform ((Change.directories l).map (·, fault)) = (t, none) := by
  rw [perform_directories h, makeDirectory?_of_isDirectory hd]

/-! ## Directories that are made -/

/-- `u` has all that `t` has, and directories besides. -/
structure Extends (t u : FileTree) : Prop where
  node : ∀ p, t.node? p ≠ none → u.node? p = t.node? p
  new : ∀ p, t.node? p = none → u.node? p = none ∨ u.node? p = some .directory

theorem Extends.refl (t : FileTree) : t.Extends t :=
  ⟨fun _ _ => rfl, fun _ => .inl⟩

theorem Extends.trans (h₁ : t.Extends u) (h₂ : u.Extends v) : t.Extends v where
  node p h := by rw [h₂.node p (h₁.node p h ▸ h), h₁.node p h]
  new p h := by
    rcases h₁.new p h with hu | hu
    · exact h₂.new p hu
    · exact .inr (by rw [h₂.node p (by rw [hu]; exact nofun), hu])

theorem Extends.keeps (h : t.Extends u) : t.Keeps u := fun p hd => by
  rw [isDirectory_iff] at hd ⊢
  rw [h.node p (by rw [hd]; exact nofun), hd]

theorem extends_of_makeDirectory? (h : t.makeDirectory? p = some u) : t.Extends u := by
  have hmade := node?_of_makeDirectory? h
  unfold makeDirectory? at h
  split at h
  next =>
    cases h
    exact Extends.refl _
  next =>
    split at h
    next hp =>
      refine ⟨fun q hq => ?_, fun q hq => ?_⟩
      · rw [hmade, if_neg]
        rintro rfl
        exact hq hp.2
      · rw [hmade]
        split
        · exact .inr rfl
        · exact .inl hq
    next => cases h

theorem extends_of_perform {ls : List Location} {fault : ε}
    (h : t.perform ((ls.map Change.directory).map (·, fault)) = (u, none)) : t.Extends u := by
  induction ls generalizing t with
  | nil =>
    cases h
    exact Extends.refl _
  | cons l rest ih =>
    rw [List.map_cons, List.map_cons, perform] at h
    split at h
    next v hv =>
      obtain ⟨p, -, hmake⟩ := Option.bind_eq_some_iff.1 hv
      exact (extends_of_makeDirectory? hmake).trans (ih h)
    next => cases h

end NetworkSite.FileTree
