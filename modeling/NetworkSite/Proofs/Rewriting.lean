/-
  Writing a plan over an earlier one.

  Nothing is left of the earlier plan, and everything else stays: the output
  directory ends up as if the new plan had been written to an empty one, with what
  stood there besides the earlier plan (`PlanDirectory.write_over_eq`).

  The location of the output directory may run through other directories and back
  again, but where it leads to an empty directory it does not run through what is
  in it.  So it is firm (`FileTree.IsFirm`): it leads to the same directory whatever
  is gone of what is in there, and every directory of the earlier plan is found
  when its turn to go comes.
-/
import NetworkSite.Proofs.Clearing
import NetworkSite.Proofs.CompiledFiles
import NetworkSite.Proofs.Coverage
import NetworkSite.Proofs.PlanTexts

namespace NetworkSite

/-! ## Firm locations -/

namespace FileTree

variable {s t u : FileTree} {l : Location} {path p q : Path} {n : FileName}

/-- The location leads to the directory at the path, whatever is gone of what is in
    there. -/
def IsFirm (t : FileTree) (l : Location) (path : Path) : Prop :=
  ∀ ps, (∀ p ∈ ps, ∃ n, path ++ [n] <+: p) → (t.removeAll ps).Open l path

theorem IsFirm.open (h : t.IsFirm l path) : t.Open l path :=
  h [] nofun

theorem IsFirm.removeAll (h : t.IsFirm l path) {ps : List Path}
    (hps : ∀ p ∈ ps, ∃ n, path ++ [n] <+: p) : (t.removeAll ps).IsFirm l path := by
  intro qs hqs
  rw [← removeAll_append]
  refine h _ fun p hp => ?_
  rcases List.mem_append.1 hp with hp | hp
  · exact hps p hp
  · exact hqs p hp

theorem step?_of_isDirectory {here : Path} {name : String} (h : t.step? here name = some p)
    (hd : u.isDirectory here = true) : u.step? here name = some p := by
  have ht := isDirectory_of_step? h
  unfold step? at h ⊢
  rw [ht] at h
  rwa [hd]

/-- A location leads to the same place where only the directories are left that
    two trees share, in which it leads there. -/
theorem followNames?_of_both (hs : s.followNames? l = some p) (ht : t.followNames? l = some q)
    (hboth : ∀ x, s.isDirectory x = true → t.isDirectory x = true → u.isDirectory x = true) :
    u.followNames? l = some p := by
  unfold followNames? at hs ht ⊢
  generalize l.start = here at hs ht ⊢
  generalize l.names = names at hs ht ⊢
  induction names generalizing here with
  | nil => exact hs
  | cons name rest ih =>
    rw [List.foldlM_cons, Option.bind_eq_bind, Option.bind_eq_some_iff] at hs ht ⊢
    obtain ⟨a, ha, hs⟩ := hs
    obtain ⟨b, hb, ht⟩ := ht
    have hhere := hboth here (isDirectory_of_step? ha) (isDirectory_of_step? hb)
    have hab : a = b :=
      Option.some.inj ((step?_of_isDirectory ha hhere).symm.trans (step?_of_isDirectory hb hhere))
    exact ⟨a, step?_of_isDirectory ha hhere, ih a hs (hab ▸ ht)⟩

/-- A location that leads to an empty directory in one tree is firm in every tree
    in which it leads there. -/
theorem isFirm_of_empty (hs : s.Open l path) (hempty : ∀ n, s.node? (path ++ [n]) = none)
    (ht : t.Open l path) : t.IsFirm l path := by
  intro ps hps
  have hkeep : ∀ x, s.isDirectory x = true → t.isDirectory x = true →
      (t.removeAll ps).isDirectory x = true := by
    intro x hsx htx
    rw [isDirectory_iff] at hsx htx ⊢
    rw [node?_removeAll_of_forall, htx]
    intro p hp hpx
    obtain ⟨n, hn⟩ := hps p hp
    have hnode := node?_eq_none_below (hempty n) (hn.trans hpx)
    rw [hsx] at hnode
    cases hnode
  exact ⟨followNames?_of_both hs.follow ht.follow hkeep, hkeep path hs.directory ht.directory⟩

end FileTree

namespace PlanDirectory

open FileTree

variable {t e d : FileTree} {output : Location} {path q : Path} {n : FileName}
  {names : List String}

/-! ## Clearing all of an earlier plan -/

theorem directoryPaths_join (h : t.IsFirm output path) :
    directoryPaths t (output.join n.text) =
      if t.isDirectory (path ++ [n]) then [path ++ [n]] else [] := by
  unfold directoryPaths
  rw [follow?_join_of_isDirectory h.open.follow h.open.directory]
  dsimp only
  split
  next hd =>
    have hbelow : ∀ p ∈ (t.childNames (path ++ [n])).map fun m => path ++ [n] ++ [m],
        ∃ n, path ++ [n] <+: p := by
      intro p hp
      obtain ⟨m, -, rfl⟩ := List.mem_map.1 hp
      exact ⟨n, List.prefix_append _ _⟩
    have hopen := h _ hbelow
    rw [follow?_join_of_isDirectory hopen.follow hopen.directory, if_pos rfl]
  next => rfl

/-- The directories of all hosts that are listed go, and nothing else. -/
theorem hostPaths_spec (h : t.IsFirm output path) (hvalid : ∀ s ∈ names, Text.isHostname s = true)
    (hdir : ∀ n : FileName, n.text ∈ names →
      t.node? (path ++ [n]) = none ∨ t.isDirectory (path ++ [n]) = true) :
    (∀ p ∈ hostPaths t output names, ∃ n : FileName, n.text ∈ names ∧ p = path ++ [n]) ∧
      ∀ n : FileName, n.text ∈ names →
        (t.removeAll (hostPaths t output names)).node? (path ++ [n]) = none := by
  induction names generalizing t with
  | nil => exact ⟨nofun, nofun⟩
  | cons name rest ih =>
    have hname := hvalid name List.mem_cons_self
    obtain ⟨n, rfl⟩ := FileName.exists_of_isHostname hname
    have hgone : ∀ p ∈ directoryPaths t (output.join n.text), p = path ++ [n] := by
      intro p hp
      rw [directoryPaths_join h] at hp
      split at hp
      · exact List.mem_singleton.1 hp
      · cases hp
    have hnone : (t.removeAll (directoryPaths t (output.join n.text))).node? (path ++ [n]) = none := by
      rw [directoryPaths_join h]
      split
      next => simp [node?_removeAll]
      next hd => exact (hdir n List.mem_cons_self).resolve_right hd
    obtain ⟨hpaths, hrest⟩ := ih (h.removeAll fun p hp => ⟨n, (hgone p hp) ▸ List.prefix_rfl⟩)
      (fun s hs => hvalid s (List.mem_cons_of_mem _ hs)) fun m hm => by
        rw [isDirectory_iff, node?_removeAll]
        split
        next => exact .inl rfl
        next => exact (hdir m (List.mem_cons_of_mem _ hm)).imp_right isDirectory_iff.1
    unfold hostPaths
    rw [if_pos hname]
    dsimp only
    refine ⟨fun p hp => ?_, fun m hm => ?_⟩
    · rcases List.mem_append.1 hp with hp | hp
      · exact ⟨n, List.mem_cons_self, hgone p hp⟩
      · obtain ⟨m, hm, hp⟩ := hpaths p hp
        exact ⟨m, List.mem_cons_of_mem _ hm, hp⟩
    · rw [removeAll_append]
      rcases List.mem_cons.1 hm with hm | hm
      · rw [FileName.ext hm]
        exact node?_removeAll_of_none _ hnone
      · exact hrest m hm

/-- What was written to an open directory is all found and taken away by the next
    run; what stands nowhere below the names of the plan stays. -/
theorem clear_written {p : BuildPlan} (h : t.IsFirm output path) (hw : ∀ h ∈ p.hosts, h.IsWritable)
    (hplan : t.node? (path ++ [planName]) = some (.file p.toDocument.pretty))
    (hdir : ∀ n : FileName, n.text ∈ p.hosts.map (·.hostname) →
      t.isDirectory (path ++ [n]) = true) :
    ∃ ps, clear t output = (t.removeAll ps, none) ∧
      (∀ g ∈ ps, ∃ n, p.IsName n ∧ g = path ++ [n]) ∧
      ∀ n, p.IsName n → (t.removeAll ps).node? (path ++ [n]) = none := by
  have hvalid : ∀ s ∈ p.hosts.map (·.hostname), Text.isHostname s = true :=
    fun _ => BuildPlan.isHostname_of_isWritable hw
  obtain ⟨hpaths, hnone⟩ := hostPaths_spec h hvalid fun n hn => .inr (hdir n hn)
  have hbelow : ∀ g ∈ hostPaths t output (p.hosts.map (·.hostname)), ∃ n, path ++ [n] <+: g := by
    intro g hg
    obtain ⟨n, -, rfl⟩ := hpaths g hg
    exact ⟨n, List.prefix_rfl⟩
  have hopen := h _ hbelow
  -- The file of the plan is there until its turn to go comes.
  have hfile : (t.removeAll (hostPaths t output (p.hosts.map (·.hostname)))).node?
      (path ++ [planName]) = some (.file p.toDocument.pretty) := by
    rw [node?_removeAll_of_forall, hplan]
    intro g hg hbelow
    obtain ⟨n, hn, rfl⟩ := hpaths g hg
    exact planName_ne_of_isHostname (hvalid _ hn) (eq_of_child_below hbelow)
  have hstale : stale t output =
      (hostPaths t output (p.hosts.map (·.hostname)) ++ [path ++ [planName]], none) := by
    have hfollow : (t.removeAll (hostPaths t output (p.hosts.map (·.hostname)))).follow?
        (output.join planFile) = some (path ++ [planName]) :=
      follow?_join_of_isDirectory (n := planName) hopen.follow hopen.directory
    have hisFile : (t.removeAll (hostPaths t output (p.hosts.map (·.hostname)))).isFile
        (path ++ [planName]) = true := by rw [isFile, hfile]
    unfold stale
    simp only [h.open.follow?, isDirectory_iff.1 h.open.directory,
      nodeAt?_planFile h.open.follow? h.open.directory, hplan, p.hostnames?_pretty]
    unfold staleOf
    simp only [hfollow, hisFile, if_true]
  refine ⟨_, by rw [clear, hstale], fun g hg => ?_, fun n hn => ?_⟩
  · rcases List.mem_append.1 hg with hg | hg
    · obtain ⟨n, hn, hg⟩ := hpaths g hg
      exact ⟨n, .inr hn, hg⟩
    · exact ⟨planName, .inl rfl, List.mem_singleton.1 hg⟩
  · rw [removeAll_append]
    rcases hn with rfl | hn
    · simp [node?_removeAll]
    · exact node?_removeAll_of_none _ (hnone n hn)

/-! ## Empty directories -/

/-- The output directory is there and empty, or it can be made; `d` is the tree
    that has it. -/
structure IsFresh (e : FileTree) (output : Location) (path : Path) (d : FileTree) : Prop where
  made : e.perform ((Change.directories output).map (·, WriteError.noDirectory output)) = (d, none)
  follow : d.followNames? output = some path
  empty : ∀ n, d.node? (path ++ [n]) = none

theorem IsFresh.extends (h : IsFresh e output path d) : e.Extends d :=
  extends_of_perform h.made

theorem IsFresh.open (h : IsFresh e output path d) : d.Open output path := by
  obtain ⟨p, hp⟩ := exists_open_of_directories h.made
  exact Option.some.inj (hp.follow.symm.trans h.follow) ▸ hp

/-- There is nothing to clear. -/
theorem IsFresh.clear (h : IsFresh e output path d) : clear e output = (e, none) := by
  have hchild : ∀ n, e.node? (path ++ [n]) = none := by
    intro n
    by_contra hn
    rw [← h.extends.node _ hn] at hn
    exact hn (h.empty n)
  have hstale : stale e output = ([], none) := by
    unfold stale
    cases hf : e.follow? output with
    | none => rfl
    | some path' =>
      have hpath : path' = path := by
        have hd := follow?_mono h.extends.keeps hf
        rw [h.open.follow?] at hd
        exact (Option.some.inj hd).symm
      subst hpath
      have hnode := h.extends.node path'
      rw [isDirectory_iff.1 h.open.directory] at hnode
      cases hn : e.node? path' with
      | none => simp only [hn]
      | some node =>
        rw [hn] at hnode
        obtain rfl := Option.some.inj (hnode nofun)
        have hempty : e.childNames path' = [] := childNames_eq_nil.2 hchild
        simp only [hn, nodeAt?_planFile hf (isDirectory_iff.2 hn), hchild planName, hempty]
        rfl
  rw [PlanDirectory.clear, hstale]
  rfl

theorem IsFresh.write (h : IsFresh e output path d) (p : BuildPlan) :
    p.write e output = d.perform (p.changes output) := by
  rw [BuildPlan.write, h.clear]
  simp only [BuildPlan.changes, List.append_assoc, perform_append h.made,
    perform_append (perform_directories_of_isDirectory h.open.follow h.open.directory _)]

/-! ## Writing over an earlier plan -/

theorem IsFresh.exists_write (h : IsFresh e output path d) {p : BuildPlan}
    (hw : ∀ h ∈ p.hosts, h.IsWritable) :
    ∃ u, p.write e output = (u, none) ∧ d.Puts u (p.nodes path) := by
  obtain ⟨u, hu, hputs⟩ := BuildPlan.perform_changes hw h.open fun n _ => h.empty n
  exact ⟨u, (h.write p).trans hu, hputs⟩

theorem written_planName {p : BuildPlan} (hw : ∀ h ∈ p.hosts, h.IsWritable) :
    written (p.nodes path) (path ++ [planName]) = some (.file p.toDocument.pretty) := by
  refine written_eq_some List.mem_cons_self fun g hg hpath => ?_
  rcases BuildPlan.of_mem_nodes hg hpath with ⟨-, hfile⟩ | ⟨hname, -⟩
  · exact hfile
  · exact absurd rfl (planName_ne_of_isHostname (BuildPlan.isHostname_of_isWritable hw hname))

/-- What has the name of a host is the directory of the host. -/
theorem written_host {p : BuildPlan} (hw : ∀ h ∈ p.hosts, h.IsWritable)
    (hn : n.text ∈ p.hosts.map (·.hostname)) :
    written (p.nodes path) (path ++ [n]) = some .directory := by
  obtain ⟨h, hm, hname⟩ := List.mem_map.1 hn
  have hmem : (path ++ [n], Node.directory) ∈ p.nodes path := by
    refine List.mem_cons_of_mem _ (List.mem_flatMap.2 ⟨h, hm, ?_⟩)
    rw [hname, FileName.ofText?_text]
    exact List.mem_cons_self
  refine written_eq_some hmem fun g hg hpath => ?_
  rcases BuildPlan.of_mem_nodes hg hpath with ⟨hname, -⟩ | ⟨-, hdir⟩
  · exact absurd hname (planName_ne_of_isHostname (BuildPlan.isHostname_of_isWritable hw hn))
  · exact hdir

theorem isName_of_isPath {p : BuildPlan} (h : p.IsPath path (path ++ [n])) : p.IsName n := by
  obtain ⟨m, hm, hbelow⟩ := h
  exact eq_of_child_below hbelow ▸ hm

theorem written_of_not_isPath {p : BuildPlan} (h : ¬p.IsPath path q) :
    written (p.nodes path) q = none :=
  written_eq_none fun _ hg heq => h (heq ▸ BuildPlan.isPath_of_mem_nodes hg)

/-- **Rewriting equals writing afresh.**  Let `p` and `q` be compiled plans, and the
    output directory hold what `p` writes to an empty directory, with anything else
    besides what has the names of `p` and `q` there.  Then `q` can be written, and
    the directory holds what `q` writes to an empty directory, with all else as it
    was.  Both plans can be written to an empty directory. -/
theorem write_over_eq {s₁ s₂ : Site} {t₁ t₂ : FileTree} {directory₁ directory₂ : Location}
    {templates₁ templates₂ : List Template} {p q : BuildPlan}
    (ht₁ : Template.ofDirectory t₁ directory₁ = .ok templates₁)
    (hp : s₁.compile templates₁ = .ok p) (hfiles₁ : p.NamesFiles)
    (ht₂ : Template.ofDirectory t₂ directory₂ = .ok templates₂)
    (hq : s₂.compile templates₂ = .ok q) (hfiles₂ : q.NamesFiles)
    (he : IsFresh e output path d) (ht : t.follow? output = some path)
    (hsame : ∀ x, p.IsPath path x ∨ q.IsPath path x → t.node? x = (p.write e output).1.node? x) :
    (p.write e output).2 = none ∧ (q.write e output).2 = none ∧ (q.write t output).2 = none ∧
      (∀ x, p.IsPath path x ∨ q.IsPath path x →
        (q.write t output).1.node? x = (q.write e output).1.node? x) ∧
      ∀ x, ¬(p.IsPath path x ∨ q.IsPath path x) → (q.write t output).1.node? x = t.node? x := by
  have hwp := Site.isWritable_of_compile ht₁ hp hfiles₁
  have hwq := Site.isWritable_of_compile ht₂ hq hfiles₂
  obtain ⟨u, hu, hputs₁⟩ := he.exists_write hwp
  obtain ⟨v, hv, hputs₂⟩ := he.exists_write hwq
  rw [hu] at hsame ⊢
  rw [hv]
  -- The output directory holds the earlier plan.
  have hplan : t.node? (path ++ [planName]) = some (.file p.toDocument.pretty) := by
    rw [hsame _ (.inl ⟨planName, .inl rfl, List.prefix_rfl⟩), hputs₁.node, written_planName hwp]
    rfl
  have hdir : ∀ n : FileName, n.text ∈ p.hosts.map (·.hostname) →
      t.isDirectory (path ++ [n]) = true := by
    intro n hn
    rw [isDirectory_iff, hsame _ (.inl ⟨n, .inr hn, List.prefix_rfl⟩), hputs₁.node,
      written_host hwp hn]
    rfl
  have hopen : t.Open output path :=
    ⟨(follow?_eq_some.1 ht).1, isDirectory_of_append (n := planName) (by rw [hplan]; exact nofun)⟩
  have hfirm := isFirm_of_empty he.open he.empty hopen
  -- All of it goes.
  obtain ⟨ps, hclear, hpaths, hgone⟩ := clear_written hfirm hwp hplan hdir
  have hnone : ∀ n, p.IsName n ∨ q.IsName n → (t.removeAll ps).node? (path ++ [n]) = none := by
    intro n hn
    by_cases hpn : p.IsName n
    · exact hgone n hpn
    · have hqn := hn.resolve_left hpn
      refine node?_removeAll_of_none _ ?_
      rw [hsame _ (.inr ⟨n, hqn, List.prefix_rfl⟩), hputs₁.node,
        written_of_not_isPath fun h => hpn (isName_of_isPath h), he.empty n]
      rfl
  obtain ⟨w, hw, hputs⟩ := BuildPlan.perform_changes hwq
    (hfirm ps fun g hg => by
      obtain ⟨n, -, rfl⟩ := hpaths g hg
      exact ⟨n, List.prefix_rfl⟩)
    fun n hn => hnone n (.inr hn)
  have hwrite : q.write t output = (w, none) := by
    rw [BuildPlan.write, hclear]
    exact hw
  rw [hwrite]
  refine ⟨rfl, rfl, rfl, fun x hx => ?_, fun x hx => ?_⟩
  · obtain ⟨n, hn, hbelow⟩ : ∃ n, (p.IsName n ∨ q.IsName n) ∧ path ++ [n] <+: x := by
      rcases hx with ⟨n, hn, hbelow⟩ | ⟨n, hn, hbelow⟩
      · exact ⟨n, .inl hn, hbelow⟩
      · exact ⟨n, .inr hn, hbelow⟩
    dsimp only
    rw [hputs.node, hputs₂.node, node?_eq_none_below (hnone n hn) hbelow,
      node?_eq_none_below (he.empty n) hbelow]
  · dsimp only
    rw [hputs.node, written_of_not_isPath fun h => hx (.inr h), Option.none_or,
      node?_removeAll_of_forall]
    intro g hg hbelow
    obtain ⟨n, hn, rfl⟩ := hpaths g hg
    exact hx (.inl ⟨n, hn, hbelow⟩)

end PlanDirectory

/-! ## Two plans in turn -/

theorem Site.namesFiles_of_compile_nil {s : Site} {p : BuildPlan} (h : s.compile [] = .ok p) :
    p.NamesFiles := by
  intro g hg f hf
  obtain ⟨b, host, -, hplan⟩ := exists_isPlanOf h hg
  obtain ⟨template, htemplate, -⟩ := exists_mem_of_forall₂ hplan.files.flip hf
  obtain ⟨r, -, htemplate⟩ := List.mem_flatMap.1 htemplate
  cases htemplate

namespace PlanDirectory

open FileTree

/-- An output directory that is not there yet. -/
def outPlace : Location :=
  Location.ofText [] "out"

def outName : FileName :=
  ⟨"out", by decide⟩

def notesName : FileName :=
  ⟨"notes", by decide⟩

theorem exists_isFresh_empty : ∃ d, IsFresh FileTree.empty outPlace [outName] d := by
  have hmade : (FileTree.empty.perform
      ((Change.directories outPlace).map (·, WriteError.noDirectory outPlace))).2 = none := rfl
  refine ⟨_, Prod.ext rfl hmade, by decide, childNames_eq_nil.1 (by decide)⟩

/-- The plan of one site is written over the plan of another, beside notes that
    somebody left there: the notes stay. -/
theorem edges_over_home : ∃ (p q : BuildPlan) (t : FileTree),
    Site.home.compile [] = .ok p ∧ Site.edges.compile [] = .ok q ∧
      t.node? [outName, planName] = some (.file p.toDocument.pretty) ∧
      t.node? [outName, notesName] = some (.file "mine") ∧ (q.write t outPlace).2 = none ∧
      (q.write t outPlace).1.node? [outName, planName] = some (.file q.toDocument.pretty) ∧
      (q.write t outPlace).1.node? [outName, notesName] = some (.file "mine") := by
  have htemplates : Template.ofDirectory FileTree.empty (Location.ofText [] "home") = .ok [] := rfl
  obtain ⟨p, hp⟩ := Site.home_compiles
  obtain ⟨q, hq⟩ := Site.edges_compiles
  obtain ⟨d, hd⟩ := exists_isFresh_empty
  have hfilesp := Site.namesFiles_of_compile_nil hp
  have hfilesq := Site.namesFiles_of_compile_nil hq
  have hwp := Site.isWritable_of_compile htemplates hp hfilesp
  have hwq := Site.isWritable_of_compile htemplates hq hfilesq
  obtain ⟨u, hu, hputs⟩ := hd.exists_write hwp
  obtain ⟨v, hv, hputs'⟩ := hd.exists_write hwq
  -- The notes are no part of either plan.
  have hnotes : ¬(p.IsPath [outName] [outName, notesName] ∨ q.IsPath [outName] [outName, notesName]) := by
    have hname : ∀ {s : Site} {r : BuildPlan}, s.compile [] = .ok r →
        "notes" ∉ s.hosts.map (·.hostname) → ¬r.IsPath [outName] [outName, notesName] := by
      intro s r hr hs hpath
      rcases isName_of_isPath hpath with hplan | hhost
      · exact absurd hplan (by decide)
      · rw [Site.hostnames_of_compile hr] at hhost
        exact hs hhost
    exact not_or.2 ⟨hname hp (by decide), hname hq (by decide)⟩
  have hopen : u.Open outPlace [outName] := hd.open.mono hputs.keeps
  have hfree : u.isDirectory [outName, notesName] = false := by
    have hnone : d.node? [outName, notesName] = none := hd.empty notesName
    rw [isDirectory, hputs.node, written_of_not_isPath fun h => hnotes (.inl h), hnone]
    rfl
  obtain ⟨t, -, hwrite⟩ := hopen.change?_file hfree "mine"
  have hsame : ∀ x, p.IsPath [outName] x ∨ q.IsPath [outName] x →
      t.node? x = (p.write FileTree.empty outPlace).1.node? x := by
    intro x hx
    rw [hu, hwrite.node_of_forall]
    intro g hg heq
    rw [List.mem_singleton.1 hg] at heq
    have hpath : [outName, notesName] = x := heq
    exact hnotes (hpath ▸ hx)
  obtain ⟨-, -, hdone, hpaths, hrest⟩ := write_over_eq htemplates hp hfilesp htemplates hq hfilesq hd
    (hopen.mono hwrite.keeps).follow? hsame
  have hplan : ∀ r : BuildPlan, r.IsPath [outName] [outName, planName] :=
    fun r => ⟨planName, .inl rfl, List.prefix_rfl⟩
  have hwritten : ∀ r : BuildPlan, (∀ h ∈ r.hosts, h.IsWritable) →
      written (r.nodes [outName]) [outName, planName] = some (.file r.toDocument.pretty) :=
    fun r hr => written_planName hr
  have hmine : t.node? [outName, notesName] = some (.file "mine") := by
    rw [hwrite.node]
    rfl
  refine ⟨p, q, t, hp, hq, ?_, hmine, hdone, ?_, (hrest _ hnotes).trans hmine⟩
  · rw [hsame _ (.inl (hplan p)), hu, hputs.node, hwritten p hwp]
    rfl
  · rw [hpaths _ (.inr (hplan q)), hv, hputs'.node, hwritten q hwq]
    rfl

end PlanDirectory

end NetworkSite
