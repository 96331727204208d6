/-
  What is taken away for a new plan.

  Whatever the file of an earlier plan holds, only two kinds of paths go: that
  file, and what stands at or below the directory of a host that it lists, where
  the name of the host is a DNS label and so a name in the output directory
  (`PlanDirectory.isStale_of_mem_stale`).  All else is left as it was, however the
  clearing ends, and also if it is stopped in the middle
  (`PlanDirectory.clear_confined`).
-/
import NetworkSite.Proofs.Locations

namespace NetworkSite

namespace PlanDirectory

open FileTree

variable {t u : FileTree} {output : Location} {path p q : Path} {hostnames : List String}

/-! ## Directories of hosts -/

/-- A path at or below the directory of a host that is listed. -/
def IsHostPath (t : FileTree) (path : Path) (hostnames : List String) (q : Path) : Prop :=
  ∃ n : FileName, n.text ∈ hostnames ∧ Text.isHostname n.text = true ∧
    t.isDirectory (path ++ [n]) = true ∧ path ++ [n] <+: q

theorem exists_of_mem_directoryPaths {place : Location} (h : p ∈ directoryPaths t place) :
    ∃ q, t.follow? place = some q ∧ t.isDirectory q = true ∧ q <+: p := by
  unfold directoryPaths at h
  split at h
  next q hq =>
    split at h
    next hd =>
      refine ⟨q, hq, hd, ?_⟩
      dsimp only at h
      split at h
      · exact List.mem_singleton.1 h ▸ List.prefix_rfl
      · obtain ⟨n, -, rfl⟩ := List.mem_map.1 h
        exact List.prefix_append q [n]
    next => cases h
  next => cases h

/-- Where some nodes are gone already, the location of the output directory leads
    to the same path or nowhere. -/
theorem isHostPath_of_mem_hostPaths (ht : t.follow? output = some path) (hk : u.Keeps t)
    (h : p ∈ hostPaths u output hostnames) : IsHostPath t path hostnames p := by
  induction hostnames generalizing u with
  | nil => cases h
  | cons hostname rest ih =>
    have hrest : ∀ {u : FileTree}, u.Keeps t → p ∈ hostPaths u output rest →
        IsHostPath t path (hostname :: rest) p := by
      intro u hk h
      obtain ⟨n, hm, hn⟩ := ih hk h
      exact ⟨n, List.mem_cons_of_mem _ hm, hn⟩
    unfold hostPaths at h
    split at h
    next hl =>
      dsimp only at h
      rcases List.mem_append.1 h with h | h
      · obtain ⟨n, rfl⟩ := FileName.exists_of_isHostname hl
        obtain ⟨q, hq, hd, hqp⟩ := exists_of_mem_directoryPaths h
        obtain ⟨path', hn, -, rfl⟩ := exists_of_follow?_join hq
        have hpath : path' = path :=
          Option.some.inj ((followNames?_mono hk hn).symm.trans (follow?_eq_some.1 ht).1)
        rw [hpath] at hd hqp
        exact ⟨n, List.mem_cons_self, hl, hk _ hd, hqp⟩
      · exact hrest (fun _ hd => hk _ (isDirectory_of_removeAll hd)) h
    next => exact hrest hk h

/-! ## The earlier plan -/

/-- A path that an earlier plan in the output directory gives up: its own file, or
    one at or below the directory of a host that it lists. -/
def IsStale (t : FileTree) (output : Location) (q : Path) : Prop :=
  ∃ path text hostnames, t.follow? output = some path ∧
    t.node? (path ++ [planName]) = some (.file text) ∧ hostnames? text = some hostnames ∧
    (q = path ++ [planName] ∨ IsHostPath t path hostnames q)

theorem nodeAt?_planFile (h : t.follow? output = some path) (hd : t.isDirectory path = true) :
    t.nodeAt? (output.join planFile) = t.node? (path ++ [planName]) := by
  have hf : t.follow? (output.join planName.text) = some (path ++ [planName]) :=
    follow?_join_of_isDirectory (follow?_eq_some.1 h).1 hd
  exact congrArg (·.bind t.node?) hf

/-- Nothing goes unless there is an earlier plan that can be read. -/
theorem exists_of_stale (h : (stale t output).1 ≠ []) :
    ∃ path text hostnames, t.follow? output = some path ∧
      t.node? (path ++ [planName]) = some (.file text) ∧ hostnames? text = some hostnames ∧
      stale t output = staleOf t output hostnames := by
  unfold stale at h ⊢
  cases hf : t.follow? output with
  | none => simp [hf] at h
  | some path =>
    simp only [hf] at h ⊢
    split at h
    next => exact absurd rfl h
    next hd =>
      rw [nodeAt?_planFile hf (isDirectory_iff.2 hd)] at h
      split at h
      next text hfile =>
        cases ht : hostnames? text with
        | none => simp [ht] at h
        | some hostnames =>
          refine ⟨path, text, hostnames, rfl, hfile, ht, ?_⟩
          simp only [nodeAt?_planFile hf (isDirectory_iff.2 hd), hfile, ht]
      next => exact absurd rfl h
      next => split at h <;> exact absurd rfl h
    next => exact absurd rfl h

/-- **Everything that goes belongs to the earlier plan.** -/
theorem isStale_of_mem_stale (h : p ∈ (stale t output).1) : IsStale t output p := by
  obtain ⟨path, text, hostnames, hf, hfile, ht, hs⟩ := exists_of_stale (List.ne_nil_of_mem h)
  refine ⟨path, text, hostnames, hf, hfile, ht, ?_⟩
  have hhosts : p ∈ hostPaths t output hostnames → IsHostPath t path hostnames p :=
    isHostPath_of_mem_hostPaths hf fun _ => id
  rw [hs] at h
  unfold staleOf at h
  dsimp only at h
  split at h
  next file hp =>
    split at h
    · rcases List.mem_append.1 h with h | h
      · exact .inr (hhosts h)
      · obtain ⟨path', hn, -, hpath⟩ := exists_of_follow?_join (n := planName) hp
        have hn := followNames?_mono (keeps_of_removeAll t _) hn
        have hpath' : path' = path := Option.some.inj (hn.symm.trans (follow?_eq_some.1 hf).1)
        rw [hpath'] at hpath
        exact .inl ((List.mem_singleton.1 h).trans hpath)
    · exact .inr (hhosts h)
  next => exact .inr (hhosts h)

/-- What stands below a stale path is stale: nothing stands below the file. -/
theorem IsStale.below (h : IsStale t output p) (hp : p <+: q) (hq : t.node? q ≠ none) :
    IsStale t output q := by
  obtain ⟨path, text, hostnames, hf, hfile, ht, h⟩ := h
  refine ⟨path, text, hostnames, hf, hfile, ht, ?_⟩
  rcases h with rfl | ⟨n, hn, hl, hd, hnp⟩
  · by_cases he : path ++ [planName] = q
    · exact .inl he.symm
    · have hd := isDirectory_iff.1 (isDirectory_above hq hp he)
      rw [hfile] at hd
      cases hd
  · exact .inr ⟨n, hn, hl, hd, hnp.trans hp⟩

/-- **Deletion is confined.**  Clearing an output directory changes no node but by
    taking it away, and takes none away that does not belong to the earlier plan.
    The same holds if it is stopped at any point, when only some of what stands at
    and below the paths that go may be gone. -/
theorem clear_confined (t : FileTree) (output : Location) :
    (∀ q, (clear t output).1.node? q ≠ t.node? q →
      (clear t output).1.node? q = none ∧ IsStale t output q) ∧
    ∀ gone : List Path, (∀ g ∈ gone, ∃ p ∈ (stale t output).1, p <+: g) →
      ∀ q, (t.removeAll gone).node? q ≠ t.node? q →
        (t.removeAll gone).node? q = none ∧ IsStale t output q := by
  have hgone : ∀ gone : List Path, (∀ g ∈ gone, ∃ p ∈ (stale t output).1, p <+: g) →
      ∀ q, (t.removeAll gone).node? q ≠ t.node? q →
        (t.removeAll gone).node? q = none ∧ IsStale t output q := by
    intro gone hg q hq
    rw [node?_removeAll] at hq ⊢
    split at hq
    next hex =>
      rw [if_pos hex]
      obtain ⟨-, g, hm, hgq⟩ := hex
      obtain ⟨p, hp, hpg⟩ := hg g hm
      exact ⟨rfl, (isStale_of_mem_stale hp).below (hpg.trans hgq) hq.symm⟩
    next => exact absurd rfl hq
  exact ⟨hgone _ fun g hg => ⟨g, hg, List.prefix_rfl⟩, hgone⟩

end PlanDirectory

end NetworkSite
