/-
  The files of a written plan.

  A plan that has been written put its nodes in the output directory
  (`BuildPlan.puts_of_write`).  Of each host there are the environment and the files
  made from templates, one written after the other, and so of those with one name
  only the last is left.  All of them are there exactly if those of one name agree
  (`Site.emitted_files`).
-/
import NetworkSite.Proofs.CompiledFiles
import NetworkSite.Proofs.Rewriting

namespace NetworkSite

/-! ## Changes that were made -/

namespace FileTree

variable {ε : Type} {t u : FileTree} {l output : Location} {path : Path} {n m : FileName}

theorem Open.puts_directories (h : t.Open l path) {fault : ε}
    (hu : t.perform ((Change.directories (l.join n.text)).map (·, fault)) = (u, none)) :
    t.Puts u [(path ++ [n], .directory)] := by
  rw [FileTree.perform_directories (followNames?_join_of_isDirectory h.follow h.directory)] at hu
  split at hu
  next v hv =>
    cases hu
    exact puts_makeDirectory? hv
  next => cases hu

theorem Open.puts_file (h : t.Open l path) {text : String}
    (hu : t.change? (.file (l.join n.text) text) = some u) :
    t.Puts u [(path ++ [n], .file text)] := by
  rw [change?, follow?_join_of_isDirectory h.follow h.directory, Option.bind_some] at hu
  exact puts_write? hu

theorem change?_file_of_isDirectory {place : Location} {p : Path} {text : String}
    (hp : t.followNames? place = some p) (hd : t.isDirectory p = true) :
    t.change? (.file place text) = none := by
  have hfollow : t.follow? place = some p := follow?_eq_some.2 ⟨hp, fun _ => hd⟩
  rw [change?, hfollow, Option.bind_some, write?, put?, dif_neg]
  rw [hd]
  exact fun h => absurd h.2 (by decide)

/-- A front of a name that is none itself leads from an open directory to one. -/
theorem Open.exists_isDirectory (h : t.Open l path) {name : String}
    (hname : name = "" ∨ name = "." ∨ name = "..") :
    ∃ p, t.followNames? (l.join name) = some p ∧ t.isDirectory p = true := by
  have hfollow : l.names.foldlM t.step? l.start = some path := h.follow
  have hd := h.directory
  have hplace : ∀ {names : List String}, Location.isAbsolute name = false →
      Location.namesOf name = names →
      t.followNames? (l.join name) = names.foldlM t.step? path := by
    intro names hrelative hnames
    rw [followNames?, Location.join, if_neg (by rw [hrelative]; decide), hnames, List.foldlM_append,
      hfollow]
    rfl
  rcases hname with rfl | rfl | rfl
  · exact ⟨path, hplace (by decide) (by decide : _ = []), hd⟩
  · refine ⟨path, (hplace (by decide) (by decide : _ = ["."])).trans ?_, hd⟩
    simp [step?, hd]
  · have habove : t.isDirectory path.dropLast = true := by
      cases path using List.reverseRecOn with
      | nil => exact hd
      | append_singleton front n =>
        rw [List.dropLast_concat]
        exact isDirectory_of_append (by rw [isDirectory_iff.1 hd]; exact Option.some_ne_none _)
    refine ⟨path.dropLast, (hplace (by decide) (by decide : _ = [".."])).trans ?_, habove⟩
    simp [step?, hd]

/-- What is written to an open directory under a front of a name has a name. -/
theorem Open.isFileName_of_change? (h : t.Open l path) {name text : String}
    (hname : name.toList <+: n.text.toList)
    (hu : t.change? (.file (l.join name) text) = some u) : isFileName name = true := by
  have hnot : ¬(name = "" ∨ name = "." ∨ name = "..") := by
    intro hdots
    obtain ⟨p, hp, hd⟩ := h.exists_isDirectory hdots
    rw [change?_file_of_isDirectory hp hd] at hu
    cases hu
  obtain ⟨hempty, hdot, hdots⟩ : name ≠ "" ∧ name ≠ "." ∧ name ≠ ".." := by
    simpa only [not_or] using hnot
  exact isFileName_of_front hname hempty hdot hdots

/-- Files that were written one after the other have names and are all put. -/
theorem Open.puts_files (h : t.Open l path) {files : List RenderedFile}
    (hnames : ∀ f ∈ files, ∃ n : FileName, f.name.toList <+: n.text.toList)
    (hu : t.perform (files.map fun f =>
      (.file (l.join f.name) f.contents, WriteError.noFile (l.join f.name))) = (u, none)) :
    (∀ f ∈ files, isFileName f.name = true) ∧
      t.Puts u (files.filterMap fun f =>
        (FileName.ofText? f.name).map fun n => (path ++ [n], .file f.contents)) := by
  induction files generalizing t with
  | nil =>
    cases hu
    exact ⟨nofun, Puts.refl _⟩
  | cons f files ih =>
    obtain ⟨v, hv, hrest⟩ := exists_of_perform_cons hu
    obtain ⟨front, hfront⟩ := hnames f List.mem_cons_self
    have hvalid := h.isFileName_of_change? hfront hv
    obtain ⟨n, hn⟩ : ∃ n : FileName, n.text = f.name := ⟨⟨f.name, hvalid⟩, rfl⟩
    rw [← hn] at hv
    have hputs := h.puts_file hv
    obtain ⟨hfiles, hputs'⟩ := ih (h.mono hputs.keeps)
      (fun g hg => hnames g (List.mem_cons_of_mem _ hg)) hrest
    refine ⟨List.forall_mem_cons.2 ⟨hvalid, hfiles⟩, ?_⟩
    rw [List.filterMap_cons, ← hn, FileName.ofText?_text]
    exact hputs.trans hputs'

end FileTree

namespace HostPlan

open FileTree

variable {h : HostPlan} {t u : FileTree} {output : Location} {path : Path} {n : FileName}

/-- The plan of a host that was written is in the directory of the host. -/
theorem puts_of_perform (hnames : h.IsNamed) (hn : n.text = h.hostname) (ho : t.Open output path)
    (hu : t.perform (h.changes output) = (u, none)) :
    (∀ f ∈ h.files, isFileName f.name = true) ∧ t.Puts u (h.nodes (path ++ [n])) := by
  rw [changes, List.append_assoc, List.singleton_append, ← hn] at hu
  obtain ⟨v, hv, hu⟩ := exists_of_perform_append hu
  obtain ⟨w, hw, hu⟩ := exists_of_perform_cons hu
  have hmade := ho.puts_directories hv
  have hopen : v.Open (output.join n.text) (path ++ [n]) := by
    refine (ho.mono hmade.keeps).join (isDirectory_iff.2 ?_)
    rw [hmade.node, written_eq_some List.mem_cons_self (by simp)]
    rfl
  have henv := hopen.puts_file (n := environmentName) hw
  obtain ⟨hfiles, hputs⟩ := (hopen.mono henv.keeps).puts_files hnames hu
  exact ⟨hfiles, (hmade.trans henv).trans hputs⟩

theorem puts_of_perform_flatMap {hosts : List HostPlan} (hnames : ∀ h ∈ hosts, h.IsNamed)
    (hvalid : ∀ h ∈ hosts, Text.isHostname h.hostname = true) (ho : t.Open output path)
    (hu : t.perform (hosts.flatMap (·.changes output)) = (u, none)) :
    (∀ h ∈ hosts, h.IsWritable) ∧ t.Puts u (nodesOf path hosts) := by
  induction hosts generalizing t with
  | nil =>
    cases hu
    exact ⟨nofun, Puts.refl _⟩
  | cons h hosts ih =>
    rw [List.flatMap_cons] at hu
    obtain ⟨v, hv, hu⟩ := exists_of_perform_append hu
    have hhost := hvalid h List.mem_cons_self
    obtain ⟨n, hn⟩ := FileName.exists_of_isHostname hhost
    obtain ⟨hfiles, hputs⟩ := puts_of_perform (hnames h List.mem_cons_self) hn ho hv
    obtain ⟨hrest, hputs'⟩ := ih (fun g hg => hnames g (List.mem_cons_of_mem _ hg))
      (fun g hg => hvalid g (List.mem_cons_of_mem _ hg)) (ho.mono hputs.keeps) hu
    refine ⟨List.forall_mem_cons.2 ⟨⟨hhost, hfiles⟩, hrest⟩, ?_⟩
    rw [nodesOf, List.flatMap_cons, ← hn, FileName.ofText?_text]
    exact hputs.trans hputs'

end HostPlan

/-- **A plan that was written** is in its output directory. -/
theorem BuildPlan.puts_of_write {p : BuildPlan} {t u : FileTree} {output : Location}
    (hnames : ∀ h ∈ p.hosts, h.IsNamed)
    (hvalid : ∀ h ∈ p.hosts, Text.isHostname h.hostname = true)
    (h : p.write t output = (u, none)) :
    ∃ (path : Path) (v : FileTree), v.Open output path ∧ v.Puts u (p.nodes path) ∧ ∀ h ∈ p.hosts, h.IsWritable := by
  unfold write at h
  split at h
  next cleared _ =>
    rw [changes, List.append_assoc, List.singleton_append] at h
    obtain ⟨v, hv, h⟩ := FileTree.exists_of_perform_append h
    obtain ⟨w, hw, h⟩ := FileTree.exists_of_perform_cons h
    obtain ⟨path, hopen⟩ := FileTree.exists_open_of_directories hv
    have hplan := hopen.puts_file (n := planName) hw
    obtain ⟨hwritable, hputs⟩ := HostPlan.puts_of_perform_flatMap hnames hvalid
      (hopen.mono hplan.keeps) h
    exact ⟨path, v, hopen, hplan.trans hputs, hwritable⟩
  next => cases h

/-! ## The files of a host -/

namespace HostPlan

open FileTree

variable {h : HostPlan} {path directory : Path} {n m : FileName}

/-- The files that are written for a host, in this order: its environment, and those
    made from templates. -/
def outputs (h : HostPlan) : List RenderedFile :=
  { name := environmentFile, contents := h.environment.toDocument.pretty } :: h.files

/-- The last of the files of a host with a name. -/
def lastNamed? (h : HostPlan) (name : String) : Option RenderedFile :=
  (h.outputs.filter (·.name == name)).getLast?

theorem name_of_lastNamed? {name : String} {f : RenderedFile} (hf : h.lastNamed? name = some f) :
    f ∈ h.outputs ∧ f.name = name := by
  have hm := List.mem_filter.1 (List.mem_of_getLast? hf)
  exact ⟨hm.1, beq_iff_eq.1 hm.2⟩

theorem exists_lastNamed? {f : RenderedFile} (hf : f ∈ h.outputs) :
    ∃ g, h.lastNamed? f.name = some g := by
  rw [← Option.isSome_iff_exists, lastNamed?, List.getLast?_isSome]
  exact List.ne_nil_of_mem (List.mem_filter.2 ⟨hf, beq_self_eq_true _⟩)

/-- Of files in a directory that are put one after the other, the last of a name is
    left. -/
theorem written_files (files : List RenderedFile) (directory : Path) (n : FileName) :
    written (files.filterMap fun f =>
        (FileName.ofText? f.name).map fun n => (directory ++ [n], .file f.contents)) (directory ++ [n]) =
      ((files.filter (·.name == n.text)).getLast?).map fun f => .file f.contents := by
  induction files with
  | nil => rfl
  | cons f files ih =>
    by_cases hname : f.name = n.text
    · rw [List.filterMap_cons, hname, FileName.ofText?_text, Option.map_some, written, ih, if_pos rfl,
        List.filter_cons_of_pos (by simpa using hname), List.getLast?_cons]
      cases (files.filter (·.name == n.text)).getLast? <;> rfl
    · rw [List.filterMap_cons, List.filter_cons_of_neg (by simpa using hname), ← ih]
      cases hm : FileName.ofText? f.name with
      | none => rfl
      | some m =>
        have hne : directory ++ [n] ≠ directory ++ [m] := by
          intro heq
          rw [child_inj heq] at hname
          exact hname (FileName.text_of_ofText? hm).symm
        rw [Option.map_some, written, if_neg hne, Option.or_none]

theorem nodes_eq (h : HostPlan) (directory : Path) :
    h.nodes directory = (directory, .directory) :: h.outputs.filterMap fun f =>
      (FileName.ofText? f.name).map fun n => (directory ++ [n], .file f.contents) := by
  have henv : FileName.ofText? environmentFile = some environmentName :=
    FileName.ofText?_text environmentName
  rw [nodes, outputs, List.filterMap_cons, henv]
  rfl

theorem written_nodes (h : HostPlan) (directory : Path) (n : FileName) :
    written (h.nodes directory) (directory ++ [n]) =
      (h.lastNamed? n.text).map fun f => .file f.contents := by
  rw [nodes_eq, written, if_neg child_ne, Option.or_none, written_files, lastNamed?]

theorem written_nodesOf_others {hosts : List HostPlan} (hother : n.text ∉ hosts.map (·.hostname)) :
    written (nodesOf path hosts) (path ++ [n] ++ [m]) = none := by
  refine written_eq_none fun e he heq => ?_
  obtain ⟨g, hg, k, hk, he⟩ := mem_nodesOf he
  rcases mem_nodes he with rfl | ⟨j, text, rfl⟩
  · exact grandchild_ne_child heq.symm
  · have hdirectory : path ++ [k] = path ++ [n] := (List.append_inj' heq rfl).1
    rw [← child_inj hdirectory, hk] at hother
    exact hother (List.mem_map_of_mem hg)

theorem written_nodesOf {hosts : List HostPlan} (hnodup : (hosts.map (·.hostname)).Nodup)
    (hh : h ∈ hosts) (hn : n.text = h.hostname) :
    written (nodesOf path hosts) (path ++ [n] ++ [m]) =
      (h.lastNamed? m.text).map fun f => .file f.contents := by
  obtain ⟨before, after, rfl⟩ := List.append_of_mem hh
  rw [List.map_append, List.map_cons, List.nodup_append, List.nodup_cons] at hnodup
  obtain ⟨-, ⟨hafter, -⟩, hdisjoint⟩ := hnodup
  have hbefore : n.text ∉ before.map (·.hostname) := fun hm =>
    hdisjoint _ hm _ List.mem_cons_self hn
  rw [← hn] at hafter
  have hsplit : nodesOf path (before ++ h :: after) =
      nodesOf path before ++ (h.nodes (path ++ [n]) ++ nodesOf path after) := by
    rw [nodesOf, List.flatMap_append, List.flatMap_cons, ← hn, FileName.ofText?_text]
    rfl
  rw [hsplit, written_append, written_append, written_nodesOf_others hbefore,
    written_nodesOf_others hafter, Option.or_none, Option.none_or, written_nodes]

end HostPlan

/-- **Of the files of a host with one name the last is left.** -/
theorem BuildPlan.nodeAt?_of_write {p : BuildPlan} {t u : FileTree} {output : Location}
    (hnames : ∀ h ∈ p.hosts, h.IsNamed)
    (hvalid : ∀ h ∈ p.hosts, Text.isHostname h.hostname = true)
    (hnodup : (p.hosts.map (·.hostname)).Nodup) (hw : p.write t output = (u, none))
    {h : HostPlan} (hh : h ∈ p.hosts) {f : RenderedFile} (hf : f ∈ h.outputs) :
    u.nodeAt? ((output.join h.hostname).join f.name) =
      (h.lastNamed? f.name).map fun g => .file g.contents := by
  obtain ⟨path, v, hopen, hputs, hwritable⟩ := puts_of_write hnames hvalid hw
  obtain ⟨n, hn⟩ := FileName.exists_of_isHostname (hvalid h hh)
  obtain ⟨m, hm⟩ : ∃ m : FileName, m.text = f.name := by
    rcases List.mem_cons.1 hf with rfl | hf
    · exact ⟨environmentName, rfl⟩
    · exact ⟨⟨f.name, (hwritable h hh).files f hf⟩, rfl⟩
  obtain ⟨g, hg⟩ := HostPlan.exists_lastNamed? hf
  have hplan : path ++ [n] ++ [m] ≠ path ++ [planName] := FileTree.grandchild_ne_child
  have hnode : u.node? (path ++ [n] ++ [m]) = some (.file g.contents) := by
    rw [hputs.node, nodes, FileTree.written, if_neg hplan, Option.or_none,
      HostPlan.written_nodesOf hnodup hh hn, hm, hg]
    rfl
  have hdirectory : u.isDirectory (path ++ [n]) = true :=
    FileTree.isDirectory_of_append (by rw [hnode]; exact Option.some_ne_none _)
  have hhost := (hopen.mono hputs.keeps).join hdirectory
  rw [← hn, ← hm, FileTree.nodeAt?,
    FileTree.follow?_join_of_isDirectory hhost.follow hhost.directory, Option.bind_some, hnode, hm, hg]
  rfl

/-! ## Compiled plans -/

/-- A host of a compiled plan has the environment and a file for each template of
    its roles. -/
theorem Site.outputs_of_compile {s : Site} {templates : List Template} {p : BuildPlan}
    (hp : s.compile templates = .ok p) {h : HostPlan} (hh : h ∈ p.hosts) :
    ∃ host ∈ s.hosts, host.hostname = h.hostname ∧
      h.outputs.map (·.name) =
        environmentFile :: (Template.ofRoles templates host.effectiveRoles).map (·.name) := by
  obtain ⟨b, host, hhost, hplan⟩ := exists_isPlanOf hp hh
  refine ⟨host, hhost, hplan.hostname.symm, ?_⟩
  have hnames : List.Forall₂ (· = ·) (h.files.map (·.name))
      ((Template.ofRoles templates host.effectiveRoles).map (·.name)) := by
    rw [List.forall₂_map_left_iff, List.forall₂_map_right_iff]
    exact (hplan.files.imp fun _ _ h => h.1).flip
  rw [List.forall₂_eq_eq_eq] at hnames
  rw [HostPlan.outputs, List.map_cons, hnames]

/-- What is left under the name of a file of a compiled plan. -/
theorem Site.nodeAt?_of_compile {s : Site} {t disk after : FileTree} {directory output : Location}
    {templates : List Template} {p : BuildPlan}
    (ht : Template.ofDirectory t directory = .ok templates) (hp : s.compile templates = .ok p)
    (hw : p.write disk output = (after, none)) {h : HostPlan} (hh : h ∈ p.hosts) {f : RenderedFile}
    (hf : f ∈ h.outputs) :
    after.nodeAt? ((output.join h.hostname).join f.name) =
      (h.lastNamed? f.name).map fun g => .file g.contents := by
  have hnodup : (p.hosts.map (·.hostname)).Nodup :=
    hostnames_of_compile hp ▸ nodup_hostnames (compile_eq_ok_iff.1 hp).1
  exact BuildPlan.nodeAt?_of_write (isNamed_of_compile ht hp) (isHostname_of_compile hp) hnodup
    hw hh hf

/-- **The files of a written plan.**  A host has its environment and a file for each
    template of its roles.  Under the name of each of these the last file with this
    name is found; so all of them are found with their contents exactly if those of
    the same name have the same contents. -/
theorem Site.emitted_files {s : Site} {t disk after : FileTree} {directory output : Location}
    {templates : List Template} {p : BuildPlan}
    (ht : Template.ofDirectory t directory = .ok templates) (hp : s.compile templates = .ok p)
    (hw : p.write disk output = (after, none)) {h : HostPlan} (hh : h ∈ p.hosts) :
    (∃ host ∈ s.hosts, host.hostname = h.hostname ∧
      h.outputs.map (·.name) =
        environmentFile :: (Template.ofRoles templates host.effectiveRoles).map (·.name)) ∧
    (∀ f ∈ h.outputs, after.nodeAt? ((output.join h.hostname).join f.name) =
      (h.lastNamed? f.name).map fun g => .file g.contents) ∧
    ((∀ f ∈ h.outputs, after.nodeAt? ((output.join h.hostname).join f.name) =
        some (.file f.contents)) ↔
      ∀ f ∈ h.outputs, ∀ g ∈ h.outputs, f.name = g.name → f.contents = g.contents) := by
  have hlast : ∀ f ∈ h.outputs, after.nodeAt? ((output.join h.hostname).join f.name) =
      (h.lastNamed? f.name).map fun g => .file g.contents :=
    fun f hf => nodeAt?_of_compile ht hp hw hh hf
  refine ⟨outputs_of_compile hp hh, hlast, fun hkept f hf g hg hname => ?_, fun hagree f hf => ?_⟩
  · have hsame := hkept f hf
    rw [hname, hkept g hg] at hsame
    exact (Node.file.inj (Option.some.inj hsame)).symm
  · obtain ⟨g, hg⟩ := HostPlan.exists_lastNamed? hf
    obtain ⟨hm, hname⟩ := HostPlan.name_of_lastNamed? hg
    rw [hlast f hf, hg, Option.map_some, hagree g hm f hf hname]

theorem Environment.pretty_ne_empty (env : Environment) : env.toDocument.pretty ≠ "" := by
  intro hempty
  have hregular : env.toDocument.IsRegular :=
    Document.isRegular_ofFields (List.forall_mem_map.2 fun _ _ => .text _)
  have hread := Document.ofJson?_pretty hregular
  rw [hempty] at hread
  cases hread

namespace Site

open FileTree PlanDirectory

/-- The plan of the sample site without templates is written to a new directory, and
    its host has its environment there. -/
theorem home_emitted : ∃ (p : BuildPlan) (after : FileTree) (h : HostPlan),
    home.compile [] = .ok p ∧ p.write FileTree.empty outPlace = (after, none) ∧ h ∈ p.hosts ∧
      h.hostname = "gw" ∧ h.outputs.map (·.name) = [environmentFile] ∧
      after.nodeAt? ((outPlace.join "gw").join environmentFile) =
        some (.file h.environment.toDocument.pretty) := by
  have htemplates : Template.ofDirectory FileTree.empty (Location.ofText [] "home") = .ok [] := rfl
  obtain ⟨p, hp⟩ := home_compiles
  obtain ⟨d, hd⟩ := exists_isFresh_empty
  obtain ⟨after, hw, -⟩ :=
    hd.exists_write (isWritable_of_compile htemplates hp (namesFiles_of_compile_nil hp))
  obtain ⟨h, hh, hname⟩ : ∃ h ∈ p.hosts, h.hostname = "gw" := by
    have hm : "gw" ∈ p.hosts.map (·.hostname) := by
      rw [hostnames_of_compile hp]
      decide
    exact List.mem_map.1 hm
  obtain ⟨⟨host, -, -, hnames⟩, -, hkept⟩ := emitted_files htemplates hp hw hh
  have hnone : (Template.ofRoles [] host.effectiveRoles).map (·.name) = [] := by
    simp [Template.ofRoles, Template.ofRole]
  rw [hnone] at hnames
  have hfiles : h.files = [] := by
    rw [HostPlan.outputs, List.map_cons, List.cons.injEq, List.map_eq_nil_iff] at hnames
    exact hnames.2
  have hagree : ∀ f ∈ h.outputs, ∀ g ∈ h.outputs, f.name = g.name → f.contents = g.contents := by
    rw [HostPlan.outputs, hfiles]
    simp
  have henv := hkept.2 hagree _ List.mem_cons_self
  rw [hname] at henv
  exact ⟨p, after, h, hp, hw, hh, hname, hnames, henv⟩

/-- Templates without variables are in no plan's way. -/
theorem exists_compile_of_nil {s : Site} {templates : List Template} {p : BuildPlan}
    (hp : s.compile [] = .ok p) (ht : ∀ t ∈ templates, t.variableNames = []) :
    ∃ q, s.compile templates = .ok q := by
  obtain ⟨hf, addresses, rules, schedule, ha, hr, hs, he⟩ := compile_eq_ok_iff.1 hp
  obtain ⟨hmissing, -⟩ := Blueprint.emit_eq_ok_iff.1 he
  obtain ⟨q, hq⟩ : ∃ q, ({ site := s, addresses, rules, graph := s.dependencies, schedule :
      Blueprint }).emit templates = .ok q := by
    refine Blueprint.exists_emit fun h hh name hlacks => ?_
    obtain ⟨⟨r, hrole, hneeds⟩, hnot⟩ := hlacks
    have hown : name ∈ r.variableNames := by
      refine hneeds.resolve_right ?_
      rintro ⟨t, hm, -, hrefers⟩
      rw [← Template.mem_variableNames, ht t hm] at hrefers
      cases hrefers
    exact Blueprint.missing_ne_nil_iff.2 ⟨h, hh, name, ⟨r, hrole, .inl hown⟩, hnot⟩ hmissing
  exact ⟨q, compile_eq_ok_iff.2 ⟨hf, addresses, rules, schedule, ha, hr, hs, hq⟩⟩

/-- An empty template with the name of the environment. -/
def environmentTemplate : Template :=
  { role := .generic, name := environmentFile, text := "" }

/-- The files of a site directory with this template. -/
def clashing : FileTree :=
  (FileTree.empty.place? [⟨"home", by decide⟩, ⟨"templates", by decide⟩, ⟨"generic", by decide⟩,
    ⟨"environment.json.tmpl", by decide⟩] (.file "")).getD FileTree.empty

theorem ofDirectory_clashing :
    Template.ofDirectory clashing (Location.ofText [] "home") = .ok [environmentTemplate] := by
  decide

theorem pieces_environmentTemplate : environmentTemplate.pieces = [] := by
  simp [Template.pieces, environmentTemplate, Piece.ofChars]

theorem variableNames_environmentTemplate : environmentTemplate.variableNames = [] := by
  rw [Template.variableNames, pieces_environmentTemplate]
  rfl

theorem render_environmentTemplate (env : Environment) : environmentTemplate.render env = .ok "" := by
  rw [Template.render, Template.missing, variableNames_environmentTemplate, pieces_environmentTemplate]
  rfl

/-- The hosts of the sample site have one file from this template. -/
theorem files_of_home {p : BuildPlan} (hp : home.compile [environmentTemplate] = .ok p) {h : HostPlan}
    (hh : h ∈ p.hosts) : h.files = [{ name := environmentFile, contents := "" }] := by
  obtain ⟨b, host, hhost, hplan⟩ := exists_isPlanOf hp hh
  have htemplates : ∀ host ∈ home.hosts,
      (host.effectiveRoles.flatMap fun r => [environmentTemplate].filter (·.role == r)) =
        [environmentTemplate] := by decide
  have hfiles := hplan.files
  rw [htemplates host hhost, List.forall₂_cons_left_iff] at hfiles
  obtain ⟨f, rest, ⟨hname, hrender⟩, hrest, hf⟩ := hfiles
  rw [List.forall₂_nil_left_iff] at hrest
  rw [render_environmentTemplate, Except.ok.injEq] at hrender
  have hfile : f = { name := environmentFile, contents := "" } := by
    obtain ⟨name, contents⟩ := f
    exact RenderedFile.mk.injEq .. ▸ ⟨hname, hrender.symm⟩
  rw [hf, hrest, hfile]

/-- **The environment is lost.**  The sample site is compiled with a template that has
    the name of the environment, and written to a new directory.  Then the file of
    that name is empty, as the template is, and no environment. -/
theorem home_overwritten : ∃ (p : BuildPlan) (after : FileTree) (h : HostPlan),
    Template.ofDirectory clashing (Location.ofText [] "home") = .ok [environmentTemplate] ∧
      home.compile [environmentTemplate] = .ok p ∧
      p.write FileTree.empty outPlace = (after, none) ∧ h ∈ p.hosts ∧
      after.nodeAt? ((outPlace.join h.hostname).join environmentFile) = some (.file "") ∧
      h.environment.toDocument.pretty ≠ "" := by
  obtain ⟨p₀, hp₀⟩ := home_compiles
  obtain ⟨p, hp⟩ := exists_compile_of_nil hp₀ (List.forall_mem_singleton.2 variableNames_environmentTemplate)
  have hfiles : p.NamesFiles := by
    intro h hh f hf
    rw [files_of_home hp hh, List.mem_singleton] at hf
    rw [hf]
    decide
  obtain ⟨d, hd⟩ := exists_isFresh_empty
  obtain ⟨after, hw, -⟩ := hd.exists_write (isWritable_of_compile ofDirectory_clashing hp hfiles)
  obtain ⟨h, hh⟩ : ∃ h, h ∈ p.hosts := by
    have hm : "gw" ∈ p.hosts.map (·.hostname) := by
      rw [hostnames_of_compile hp]
      decide
    obtain ⟨h, hh, -⟩ := List.mem_map.1 hm
    exact ⟨h, hh⟩
  have hlast : h.lastNamed? environmentFile = some { name := environmentFile, contents := "" } := by
    rw [HostPlan.lastNamed?, HostPlan.outputs, files_of_home hp hh]
    rfl
  have hnode := nodeAt?_of_compile ofDirectory_clashing hp hw hh
    (f := { name := environmentFile, contents := h.environment.toDocument.pretty }) List.mem_cons_self
  rw [hlast] at hnode
  exact ⟨p, after, h, ofDirectory_clashing, hp, hw, hh, hnode, h.environment.pretty_ne_empty⟩

end Site

end NetworkSite
