/-
  Where locations lead.

  The location of a name in a directory leads to that name in the path of the
  directory (`FileTree.follow?_join`).  A location leads to the same path in
  every tree that has at least the directories (`FileTree.follow?_mono`): taking
  nodes away can only make it lead nowhere.
-/
import NetworkSite.Proofs.FileNames
import NetworkSite.Proofs.FileTrees

namespace NetworkSite

/-! ## Names in directories -/

namespace Location

variable (l : Location) (n : FileName)

theorem isAbsolute_name : isAbsolute n.text = false := by
  rw [isAbsolute, beq_eq_false_iff_ne]
  exact fun h => n.slash_not_mem (List.mem_of_head? h)

theorem namesOf_name : namesOf n.text = [n.text] := by
  have hsplit : Text.split (· == '/') n.text.toList = [n.text.toList] :=
    Text.split_eq_singleton fun c hc => beq_eq_false_iff_ne.2 fun h => n.slash_not_mem (h ▸ hc)
  rw [namesOf, hsplit, List.filter_cons_of_pos (by simpa using n.toList_text_ne_nil)]
  simp

theorem names_join : (l.join n.text).names = l.names ++ [n.text] := by
  rw [join, isAbsolute_name, if_neg Bool.false_ne_true, namesOf_name]

theorem start_join : (l.join n.text).start = l.start := by
  rw [join, isAbsolute_name, if_neg Bool.false_ne_true]

theorem exists_text_join : ∃ front, (l.join n.text).text.toList = front ++ n.text.toList := by
  rw [join, isAbsolute_name, if_neg Bool.false_ne_true, joinText]
  split
  · exact ⟨_, String.toList_append⟩
  · exact ⟨_, String.toList_append⟩

theorem endsInSlash_join : (l.join n.text).endsInSlash = false := by
  obtain ⟨front, hf⟩ := l.exists_text_join n
  rw [endsInSlash, Text.endsWith, hf, Bool.eq_false_iff, ne_eq, List.isSuffixOf_iff_suffix]
  rintro ⟨rest, hrest⟩
  have hlast := List.dropLast_concat_getLast n.toList_text_ne_nil
  rw [← hlast, ← List.append_assoc] at hrest
  have hslash := (List.append_inj' hrest rfl).2
  have hmem : '/' ∈ n.text.toList := by
    rw [show '/' = n.text.toList.getLast n.toList_text_ne_nil from (List.cons.inj hslash).1]
    exact List.getLast_mem _
  exact n.slash_not_mem hmem

end Location

/-! ## Walking -/

namespace FileTree

variable {t u : FileTree} {l : Location} {here p : Path} {name : String} {n : FileName}

theorem step?_text : t.step? here n.text = if t.isDirectory here then some (here ++ [n]) else none := by
  unfold step?
  cases t.isDirectory here with
  | false => rfl
  | true => simp [n.text_ne_dot, n.text_ne_dots, FileName.ofText?_text]

theorem isDirectory_of_step? (h : t.step? here name = some p) : t.isDirectory here = true := by
  unfold step? at h
  cases hd : t.isDirectory here with
  | true => rfl
  | false => simp [hd] at h

/-- A location leads to the path of its names, which has to be a directory if a
    slash follows. -/
theorem follow?_eq_some :
    t.follow? l = some p ↔
      t.followNames? l = some p ∧ (l.endsInSlash = true → t.isDirectory p = true) := by
  unfold follow?
  cases hn : t.followNames? l with
  | none => simp
  | some q =>
    cases hs : l.endsInSlash with
    | false => simp
    | true =>
      cases hd : t.isDirectory q with
      | false =>
        have hne : q = p → ¬t.isDirectory p = true := fun he => by rw [← he, hd]; exact nofun
        simpa [step?, hd] using hne
      | true =>
        have heq : q = p → t.isDirectory p = true := fun he => by rw [← he, hd]
        simpa [step?, hd] using heq

theorem followNames?_join :
    t.followNames? (l.join n.text) = (t.followNames? l).bind (t.step? · n.text) := by
  rw [followNames?, followNames?, Location.names_join, Location.start_join, List.foldlM_append]
  simp

theorem followNames?_join_of_isDirectory (h : t.followNames? l = some p)
    (hd : t.isDirectory p = true) : t.followNames? (l.join n.text) = some (p ++ [n]) := by
  rw [followNames?_join, h, Option.bind_some, step?_text, if_pos hd]

theorem follow?_join_of_isDirectory (h : t.followNames? l = some p)
    (hd : t.isDirectory p = true) : t.follow? (l.join n.text) = some (p ++ [n]) :=
  follow?_eq_some.2 ⟨followNames?_join_of_isDirectory h hd, fun hs => by
    rw [Location.endsInSlash_join] at hs
    cases hs⟩

theorem exists_of_follow?_join (h : t.follow? (l.join n.text) = some p) :
    ∃ q, t.followNames? l = some q ∧ t.isDirectory q = true ∧ p = q ++ [n] := by
  have hn := (follow?_eq_some.1 h).1
  rw [followNames?_join, Option.bind_eq_some_iff] at hn
  obtain ⟨q, hq, hstep⟩ := hn
  have hd := isDirectory_of_step? hstep
  rw [step?_text, if_pos hd] at hstep
  exact ⟨q, hq, hd, (Option.some.inj hstep).symm⟩

/-! ## More directories -/

/-- All directories of `t` are directories of `u`. -/
def Keeps (t u : FileTree) : Prop :=
  ∀ p, t.isDirectory p = true → u.isDirectory p = true

theorem step?_mono (hk : t.Keeps u) (h : t.step? here name = some p) :
    u.step? here name = some p := by
  have hd := isDirectory_of_step? h
  unfold step? at h ⊢
  rw [hd] at h
  rwa [hk here hd]

theorem followNames?_mono (hk : t.Keeps u) (h : t.followNames? l = some p) :
    u.followNames? l = some p := by
  unfold followNames? at h ⊢
  generalize l.start = here at h ⊢
  generalize l.names = names at h ⊢
  induction names generalizing here with
  | nil => exact h
  | cons name rest ih =>
    rw [List.foldlM_cons, Option.bind_eq_bind, Option.bind_eq_some_iff] at h ⊢
    obtain ⟨next, hstep, hrest⟩ := h
    exact ⟨next, step?_mono hk hstep, ih next hrest⟩

/-- **More directories lead no location elsewhere.** -/
theorem follow?_mono (hk : t.Keeps u) (h : t.follow? l = some p) : u.follow? l = some p := by
  rw [follow?_eq_some] at h ⊢
  exact ⟨followNames?_mono hk h.1, fun hs => hk p (h.2 hs)⟩

theorem keeps_of_removeAll (t : FileTree) (ps : List Path) : (t.removeAll ps).Keeps t :=
  fun _ h => isDirectory_of_removeAll h

end FileTree

end NetworkSite
