/-
  What a plan is on disk.

  A plan written to an open directory (`FileTree.Open`) puts its nodes there
  (`BuildPlan.nodes`), the last where there are several for one path, and leaves
  everything else as it was (`BuildPlan.perform_changes`).  Nothing stands in its
  way if there is no file of a plan yet and no directory of a host.
-/
import NetworkSite.Proofs.Changes

namespace NetworkSite

/-! ## Nodes that are put somewhere -/

namespace FileTree

/-- What the last entry for a path puts there. -/
def written : List (Path × Node) → Path → Option Node
  | [], _ => none
  | (p, node) :: rest, q => (written rest q).or (if q = p then some node else none)

variable {t u v : FileTree} {l output : Location} {p path q : Path} {n m : FileName} {node : Node}
  {entries entries' : List (Path × Node)}

theorem written_append (q : Path) :
    written (entries ++ entries') q = (written entries' q).or (written entries q) := by
  induction entries with
  | nil => simp [written]
  | cons e entries ih => rw [List.cons_append, written, ih, Option.or_assoc, written]

theorem mem_of_written (h : written entries q = some node) : (q, node) ∈ entries := by
  induction entries with
  | nil => cases h
  | cons e entries ih =>
    rw [written, Option.or_eq_some_iff] at h
    rcases h with h | ⟨-, h⟩
    · exact List.mem_cons_of_mem _ (ih h)
    · split at h
      next hq =>
        cases h
        rw [hq]
        exact List.mem_cons_self
      next => cases h

theorem written_eq_none (h : ∀ e ∈ entries, e.1 ≠ q) : written entries q = none := by
  cases hw : written entries q with
  | none => rfl
  | some node => exact absurd rfl (h _ (mem_of_written hw))

theorem written_ne_none (hm : (q, node) ∈ entries) : written entries q ≠ none := by
  induction entries with
  | nil => cases hm
  | cons e entries ih =>
    rw [written, ne_eq, Option.or_eq_none_iff, not_and]
    intro hnone
    rcases List.mem_cons.1 hm with rfl | hm
    · simp
    · exact absurd hnone (ih hm)

/-- Where all entries for a path agree, it does not matter which one is the last. -/
theorem written_eq_some (hm : (q, node) ∈ entries) (h : ∀ e ∈ entries, e.1 = q → e.2 = node) :
    written entries q = some node := by
  obtain ⟨other, hw⟩ := Option.ne_none_iff_exists'.1 (written_ne_none hm)
  rw [hw, ← h _ (mem_of_written hw) rfl]

/-- `u` is `t` with the entries put into it; no directory is lost. -/
structure Puts (t u : FileTree) (entries : List (Path × Node)) : Prop where
  node : ∀ q, u.node? q = (written entries q).or (t.node? q)
  keeps : t.Keeps u

theorem Puts.refl (t : FileTree) : t.Puts t [] :=
  ⟨fun _ => rfl, fun _ => id⟩

theorem Puts.trans (h : t.Puts u entries) (h' : u.Puts v entries') :
    t.Puts v (entries ++ entries') where
  node q := by rw [h'.node, h.node, written_append, Option.or_assoc]
  keeps p hp := h'.keeps p (h.keeps p hp)

theorem Puts.node_of_forall (h : t.Puts u entries) (hq : ∀ e ∈ entries, e.1 ≠ q) :
    u.node? q = t.node? q := by
  rw [h.node, written_eq_none hq, Option.none_or]

theorem Puts.mem_or (h : t.Puts u entries) (hq : u.node? q = some node) :
    (q, node) ∈ entries ∨ t.node? q = some node := by
  rw [h.node, Option.or_eq_some_iff] at hq
  exact hq.imp mem_of_written And.right

theorem puts_makeDirectory? (h : t.makeDirectory? p = some u) : t.Puts u [(p, .directory)] where
  node q := by
    rw [node?_of_makeDirectory? h]
    by_cases hq : q = p <;> simp [written, hq]
  keeps := (extends_of_makeDirectory? h).keeps

theorem puts_write? {text : String} (h : t.write? p text = some u) :
    t.Puts u [(p, .file text)] where
  node q := by
    rw [node?_of_write? h]
    by_cases hq : q = p <;> simp [written, hq]
  keeps q hd := by
    have hp : t.isDirectory p = false := by
      unfold write? put? at h
      split at h
      next hp => exact hp.2
      next => cases h
    have hne : q ≠ p := by
      rintro rfl
      rw [hd] at hp
      cases hp
    rw [isDirectory_iff] at hd ⊢
    rw [node?_of_write? h, if_neg hne, hd]

/-! ## Open directories -/

/-- The location leads to a directory at the path. -/
structure Open (t : FileTree) (l : Location) (path : Path) : Prop where
  follow : t.followNames? l = some path
  directory : t.isDirectory path = true

theorem Open.mono (h : t.Open l path) (hk : t.Keeps u) : u.Open l path :=
  ⟨followNames?_mono hk h.follow, hk path h.directory⟩

theorem Open.join (h : t.Open l path) (hd : t.isDirectory (path ++ [n]) = true) :
    t.Open (l.join n.text) (path ++ [n]) :=
  ⟨followNames?_join_of_isDirectory h.follow h.directory, hd⟩

theorem Open.follow? (h : t.Open l path) : t.follow? l = some path :=
  follow?_eq_some.2 ⟨h.follow, fun _ => h.directory⟩

variable {ε : Type}

/-- A location leads to its directory once that has been made. -/
theorem exists_open_of_directories {fault : ε}
    (h : t.perform ((Change.directories l).map (·, fault)) = (u, none)) :
    ∃ path, u.Open l path := by
  rw [Change.directories, List.map_append, List.map_append] at h
  obtain ⟨v, -, hlast⟩ := exists_of_perform_append h
  obtain ⟨w, hw, hdone⟩ := exists_of_perform_cons hlast
  cases hdone
  obtain ⟨path, hp, hmake⟩ := Option.bind_eq_some_iff.1 hw
  refine ⟨path, followNames?_mono (extends_of_makeDirectory? hmake).keeps hp, ?_⟩
  rw [isDirectory_iff, node?_of_makeDirectory? hmake, if_pos rfl]

/-- A directory in an open one is made, unless a file has its name. -/
theorem Open.perform_directories (h : t.Open l path)
    (hn : t.node? (path ++ [n]) = none ∨ t.isDirectory (path ++ [n]) = true) (fault : ε) :
    ∃ u, t.perform ((Change.directories (l.join n.text)).map (·, fault)) = (u, none) ∧
      t.Puts u [(path ++ [n], .directory)] := by
  have hmake : ∃ u, t.makeDirectory? (path ++ [n]) = some u := by
    unfold makeDirectory?
    rcases hn with hn | hn
    · have hd : t.isDirectory (path ++ [n]) = false := by rw [isDirectory, hn]; rfl
      rw [hd, dif_pos ⟨by rw [List.dropLast_concat]; exact h.directory, hn⟩]
      exact ⟨_, rfl⟩
    · rw [hn]
      exact ⟨t, rfl⟩
  obtain ⟨u, hu⟩ := hmake
  refine ⟨u, ?_, puts_makeDirectory? hu⟩
  rw [FileTree.perform_directories (followNames?_join_of_isDirectory h.follow h.directory), hu]

/-- A file in an open directory is written, unless a directory has its name. -/
theorem Open.change?_file (h : t.Open l path) (hn : t.isDirectory (path ++ [n]) = false)
    (text : String) :
    ∃ u, t.change? (.file (l.join n.text) text) = some u ∧
      t.Puts u [(path ++ [n], .file text)] := by
  have hwrite : ∃ u, t.write? (path ++ [n]) text = some u := by
    unfold write? put?
    rw [dif_pos ⟨by rw [List.dropLast_concat]; exact h.directory, hn⟩]
    exact ⟨_, rfl⟩
  obtain ⟨u, hu⟩ := hwrite
  refine ⟨u, ?_, puts_write? hu⟩
  rw [change?, follow?_join_of_isDirectory h.follow h.directory, Option.bind_some, hu]

end FileTree

/-! ## Hosts -/

/-- The name of the file with the environment of a host. -/
def environmentName : FileName :=
  ⟨environmentFile, by decide⟩

namespace HostPlan

/-- What the plan of a host is on disk, in the directory of the host. -/
def nodes (h : HostPlan) (directory : Path) : List (Path × Node) :=
  [(directory, .directory), (directory ++ [environmentName], .file h.environment.toDocument.pretty)] ++
    h.files.filterMap fun f =>
      (FileName.ofText? f.name).map fun n => (directory ++ [n], .file f.contents)

/-- The plan of a host that can have a directory, and files in it. -/
structure IsWritable (h : HostPlan) : Prop where
  hostname : Text.isHostname h.hostname = true
  files : ∀ f ∈ h.files, isFileName f.name = true

variable {h : HostPlan} {directory : Path}

theorem mem_nodes {e : Path × Node} (he : e ∈ h.nodes directory) :
    e = (directory, .directory) ∨ ∃ n text, e = (directory ++ [n], .file text) := by
  rw [nodes, List.mem_append] at he
  rcases he with he | he
  · rcases List.mem_cons.1 he with he | he
    · exact .inl he
    · exact .inr ⟨_, _, List.mem_singleton.1 he⟩
  · obtain ⟨f, -, hf⟩ := List.mem_filterMap.1 he
    obtain ⟨n, -, rfl⟩ := Option.map_eq_some_iff.1 hf
    exact .inr ⟨_, _, rfl⟩

end HostPlan

namespace FileTree

variable {t u : FileTree} {l output : Location} {path : Path} {n : FileName}

/-- Nothing stands in the way of the directory of a host: there is none, or one
    that holds only files. -/
structure IsFree (t : FileTree) (directory : Path) : Prop where
  here : t.node? directory = none ∨ t.isDirectory directory = true
  below : ∀ m, t.isDirectory (directory ++ [m]) = false

theorem isFree_of_node? (h : t.node? path = none) : t.IsFree path where
  here := .inl h
  below m := by
    rw [Bool.eq_false_iff]
    intro hd
    have hnode : t.node? (path ++ [m]) ≠ none := by
      rw [isDirectory_iff.1 hd]
      exact nofun
    have hpath := isDirectory_iff.1 (isDirectory_of_append hnode)
    rw [h] at hpath
    cases hpath

/-- Files put into a directory, and the directory itself, are not in the way. -/
theorem IsFree.of_puts {entries : List (Path × Node)} (h : t.IsFree path) (hputs : t.Puts u entries)
    (hhere : ∀ node, (path, node) ∈ entries → node = .directory)
    (hbelow : ∀ m, (path ++ [m], .directory) ∉ entries) : u.IsFree path where
  here := by
    rw [isDirectory_iff]
    cases hnode : u.node? path with
    | none => exact .inl rfl
    | some node =>
      rcases hputs.mem_or hnode with hm | ht
      · exact .inr (by rw [hhere node hm])
      · rcases h.here with hn | hd
        · rw [hn] at ht
          cases ht
        · rw [isDirectory_iff.1 hd] at ht
          exact .inr ht.symm
  below m := by
    rw [Bool.eq_false_iff]
    intro hd
    rcases hputs.mem_or (isDirectory_iff.1 hd) with hm | ht
    · exact hbelow m hm
    · have hm := isDirectory_iff.2 ht
      rw [h.below m] at hm
      cases hm

theorem IsFree.of_file (h : t.IsFree path) {text : String}
    (hputs : t.Puts u [(path ++ [n], .file text)]) : u.IsFree path := by
  refine h.of_puts hputs (fun node hm => ?_) fun m hm => ?_
  · exact absurd (Prod.mk.inj (List.mem_singleton.1 hm)).1.symm child_ne
  · cases (Prod.mk.inj (List.mem_singleton.1 hm)).2

/-- The files made from templates are written one after the other. -/
theorem Open.perform_files (h : t.Open l path) (hfree : t.IsFree path) {files : List RenderedFile}
    (hfiles : ∀ f ∈ files, isFileName f.name = true) :
    ∃ u, t.perform (files.map fun f =>
        (.file (l.join f.name) f.contents, WriteError.noFile (l.join f.name))) = (u, none) ∧
      t.Puts u (files.filterMap fun f =>
        (FileName.ofText? f.name).map fun n => (path ++ [n], .file f.contents)) := by
  induction files generalizing t with
  | nil => exact ⟨t, rfl, Puts.refl t⟩
  | cons f files ih =>
    obtain ⟨n, hn⟩ : ∃ n : FileName, n.text = f.name := ⟨⟨f.name, hfiles f List.mem_cons_self⟩, rfl⟩
    obtain ⟨u, hu, hputs⟩ := h.change?_file (hfree.below n) f.contents
    obtain ⟨v, hv, hputs'⟩ := ih (h.mono hputs.keeps) (hfree.of_file hputs) fun g hg =>
      hfiles g (List.mem_cons_of_mem _ hg)
    refine ⟨v, ?_, ?_⟩
    · rw [List.map_cons, ← hn, perform_cons _ hu, hv]
    · rw [List.filterMap_cons, ← hn, FileName.ofText?_text]
      exact hputs.trans hputs'

end FileTree

namespace HostPlan

open FileTree

variable {h : HostPlan} {t u : FileTree} {output : Location} {path : Path} {n : FileName}

/-- The plan of one host is not in the way of the others, nor of itself. -/
theorem isFree_of_puts {m : FileName} (hfree : t.IsFree (path ++ [m]))
    (hputs : t.Puts u (h.nodes (path ++ [n]))) : u.IsFree (path ++ [m]) := by
  refine hfree.of_puts hputs (fun node he => ?_) fun k he => ?_
  · rcases mem_nodes he with he | ⟨n', text, he⟩
    · exact (Prod.mk.inj he).2
    · exact absurd (Prod.mk.inj he).1.symm grandchild_ne_child
  · rcases mem_nodes he with he | ⟨n', text, he⟩
    · exact absurd (Prod.mk.inj he).1 grandchild_ne_child
    · cases (Prod.mk.inj he).2

/-- The plan of a host is written to its directory. -/
theorem perform_changes (hw : h.IsWritable) (hn : n.text = h.hostname) (ho : t.Open output path)
    (hfree : t.IsFree (path ++ [n])) :
    ∃ u, t.perform (h.changes output) = (u, none) ∧ t.Puts u (h.nodes (path ++ [n])) := by
  obtain ⟨u, hu, hmade⟩ := ho.perform_directories hfree.here
    (WriteError.noHostDirectory (output.join n.text))
  have hopen : u.Open (output.join n.text) (path ++ [n]) := by
    refine (ho.mono hmade.keeps).join (isDirectory_iff.2 ?_)
    rw [hmade.node, written_eq_some List.mem_cons_self (by simp)]
    rfl
  have hfree : u.IsFree (path ++ [n]) := by
    refine hfree.of_puts hmade (fun node hm => ?_) fun m hm => ?_
    · exact (Prod.mk.inj (List.mem_singleton.1 hm)).2
    · exact absurd (Prod.mk.inj (List.mem_singleton.1 hm)).1 child_ne
  obtain ⟨v, hv, henv⟩ := hopen.change?_file (hfree.below environmentName)
    h.environment.toDocument.pretty
  obtain ⟨w, hwrite, hfiles⟩ :=
    (hopen.mono henv.keeps).perform_files (hfree.of_file henv) hw.files
  refine ⟨w, ?_, (hmade.trans henv).trans hfiles⟩
  rw [changes, ← hn, List.append_assoc, perform_append hu, List.singleton_append]
  exact (perform_cons _ hv).trans hwrite

/-- The plans of hosts, each in the directory of its host. -/
def nodesOf (path : Path) (hosts : List HostPlan) : List (Path × Node) :=
  hosts.flatMap fun h => ((FileName.ofText? h.hostname).map fun n => h.nodes (path ++ [n])).getD []

theorem mem_nodesOf {e : Path × Node} {hosts : List HostPlan} (he : e ∈ nodesOf path hosts) :
    ∃ h ∈ hosts, ∃ n : FileName, n.text = h.hostname ∧ e ∈ h.nodes (path ++ [n]) := by
  obtain ⟨h, hm, he⟩ := List.mem_flatMap.1 he
  cases hn : FileName.ofText? h.hostname with
  | none =>
    rw [hn] at he
    cases he
  | some n =>
    rw [hn] at he
    exact ⟨h, hm, n, FileName.text_of_ofText? hn, he⟩

theorem perform_flatMap_changes {hosts : List HostPlan} (hw : ∀ h ∈ hosts, h.IsWritable)
    (ho : t.Open output path)
    (hfree : ∀ n : FileName, n.text ∈ hosts.map (·.hostname) → t.IsFree (path ++ [n])) :
    ∃ u, t.perform (hosts.flatMap (·.changes output)) = (u, none) ∧
      t.Puts u (nodesOf path hosts) := by
  induction hosts generalizing t with
  | nil => exact ⟨t, rfl, Puts.refl t⟩
  | cons h hosts ih =>
    obtain ⟨n, hn⟩ := FileName.exists_of_isHostname (hw h List.mem_cons_self).hostname
    obtain ⟨u, hu, hputs⟩ := perform_changes (hw h List.mem_cons_self) hn ho
      (hfree n (by simp [hn]))
    have hfree' : ∀ m : FileName, m.text ∈ hosts.map (·.hostname) → u.IsFree (path ++ [m]) :=
      fun m hm => isFree_of_puts (hfree m (List.mem_cons_of_mem _ hm)) hputs
    obtain ⟨v, hv, hputs'⟩ := ih (fun g hg => hw g (List.mem_cons_of_mem _ hg))
      (ho.mono hputs.keeps) hfree'
    refine ⟨v, ?_, ?_⟩
    · rw [List.flatMap_cons, perform_append hu, hv]
    · rw [nodesOf, List.flatMap_cons, ← hn, FileName.ofText?_text]
      exact hputs.trans hputs'

end HostPlan

/-! ## Plans -/

namespace BuildPlan

open FileTree

variable {p : BuildPlan} {t : FileTree} {output : Location} {path : Path} {q : Path} {n : FileName}

/-- What a plan is on disk, in the output directory. -/
def nodes (p : BuildPlan) (path : Path) : List (Path × Node) :=
  (path ++ [planName], .file p.toDocument.pretty) :: HostPlan.nodesOf path p.hosts

/-- The name of what a plan has in the output directory: its file, or the
    directory of a host. -/
def IsName (p : BuildPlan) (n : FileName) : Prop :=
  n = planName ∨ n.text ∈ p.hosts.map (·.hostname)

theorem isHostname_of_isWritable {s : String} (hw : ∀ h ∈ p.hosts, h.IsWritable)
    (hs : s ∈ p.hosts.map (·.hostname)) : Text.isHostname s = true := by
  obtain ⟨h, hm, rfl⟩ := List.mem_map.1 hs
  exact (hw h hm).hostname

/-- A path at or below what a plan has in the output directory. -/
def IsPath (p : BuildPlan) (path q : Path) : Prop :=
  ∃ n, p.IsName n ∧ path ++ [n] <+: q

theorem isPath_of_mem_nodes {e : Path × Node} (he : e ∈ p.nodes path) : p.IsPath path e.1 := by
  rcases List.mem_cons.1 he with rfl | he
  · exact ⟨planName, .inl rfl, List.prefix_rfl⟩
  · obtain ⟨h, hm, n, hn, he⟩ := HostPlan.mem_nodesOf he
    refine ⟨n, .inr (List.mem_map.2 ⟨h, hm, hn.symm⟩), ?_⟩
    rcases HostPlan.mem_nodes he with rfl | ⟨m, text, rfl⟩
    · exact List.prefix_rfl
    · exact List.prefix_append _ _

/-- Right in the output directory a plan has its file and the directories of its
    hosts. -/
theorem of_mem_nodes {e : Path × Node} (he : e ∈ p.nodes path) (hn : e.1 = path ++ [n]) :
    (n = planName ∧ e.2 = .file p.toDocument.pretty) ∨
      (n.text ∈ p.hosts.map (·.hostname) ∧ e.2 = .directory) := by
  rcases List.mem_cons.1 he with rfl | he
  · exact .inl ⟨(child_inj hn).symm, rfl⟩
  · obtain ⟨h, hm, m, hname, he⟩ := HostPlan.mem_nodesOf he
    rcases HostPlan.mem_nodes he with rfl | ⟨k, text, rfl⟩
    · rw [← child_inj hn]
      exact .inr ⟨List.mem_map.2 ⟨h, hm, hname.symm⟩, rfl⟩
    · exact absurd hn grandchild_ne_child

/-- **Writing a plan** to an open directory succeeds if nothing has the name of
    what it has there; then its nodes are there, and all else is as it was. -/
theorem perform_changes (hw : ∀ h ∈ p.hosts, h.IsWritable) (ho : t.Open output path)
    (hnone : ∀ n, p.IsName n → t.node? (path ++ [n]) = none) :
    ∃ u, t.perform (p.changes output) = (u, none) ∧ t.Puts u (p.nodes path) := by
  have hplan := hnone planName (.inl rfl)
  obtain ⟨u, hu, hputs⟩ := ho.change?_file (n := planName) (by rw [isDirectory, hplan]; rfl)
    p.toDocument.pretty
  have hfree : ∀ n : FileName, n.text ∈ p.hosts.map (·.hostname) → u.IsFree (path ++ [n]) := by
    intro n hn
    refine isFree_of_node? ?_
    rw [hputs.node_of_forall, hnone n (.inr hn)]
    intro e he heq
    rw [List.mem_singleton.1 he] at heq
    exact planName_ne_of_isHostname (isHostname_of_isWritable hw hn) (child_inj heq).symm
  obtain ⟨v, hv, hputs'⟩ := HostPlan.perform_flatMap_changes hw (ho.mono hputs.keeps) hfree
  refine ⟨v, ?_, hputs.trans hputs'⟩
  rw [changes, List.append_assoc,
    perform_append (perform_directories_of_isDirectory ho.follow ho.directory _),
    List.singleton_append]
  exact (perform_cons _ hu).trans hv

end BuildPlan

end NetworkSite
