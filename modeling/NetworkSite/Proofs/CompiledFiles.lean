/-
  The files of compiled plans.

  The hosts of a compiled plan have DNS labels as their names, and their files the
  names of templates.  The names of templates that were read from a directory are
  names of files that are cut at their ends, so that all of a compiled plan can be
  written (`Site.isWritable_of_compile`), unless what is left of a name means a
  directory.
-/
import NetworkSite.Proofs.FileNames
import NetworkSite.Proofs.HostVariables
import NetworkSite.Proofs.WrittenPlans
import NetworkSite.Files.SiteDirectory

namespace NetworkSite

/-! ## Cut endings -/

namespace Text

theorem go_suffix (head cs : List Char) (n : Nat) : dropEndings.go head cs n <:+ cs := by
  induction n generalizing cs with
  | zero => exact List.suffix_rfl
  | succ n ih =>
    rw [dropEndings.go]
    split
    · exact (ih _).trans (List.drop_suffix _ _)
    · exact List.suffix_rfl

theorem dropEndings_prefix (ending s : String) : (dropEndings ending s).toList <+: s.toList := by
  rw [dropEndings, String.toList_ofList, ← List.reverse_suffix, List.reverse_reverse]
  exact go_suffix _ _ _

end Text

/-! ## Templates that were read -/

namespace Template

variable {t : FileTree} {directory : Location} {templates : List Template} {template : Template}

/-- The template comes from a file with its name in front. -/
def IsNamed (template : Template) : Prop :=
  ∃ n : FileName, template.name.toList <+: n.text.toList

theorem isNamed_of_ofFile {role : Role} {name : FileName}
    (h : ofFile t role directory name = .ok template) : template.IsNamed := by
  obtain ⟨text, -, h⟩ := bind_eq_ok.1 h
  cases h
  exact ⟨name, Text.dropEndings_prefix _ _⟩

theorem exists_of_mem_mapM {α β ε : Type} {f : α → Except ε β} {items : List α} {bs : List β}
    (h : items.mapM f = .ok bs) {b : β} (hb : b ∈ bs) : ∃ a, f a = .ok b := by
  obtain ⟨a, -, ha⟩ := exists_mem_of_forall₂ (forall₂_of_mapM_eq_ok h).flip hb
  exact ⟨a, ha⟩

theorem isNamed_of_ofRoleDirectory {path : Path} {name : FileName}
    (h : ofRoleDirectory t directory path name = .ok templates) (hm : template ∈ templates) :
    template.IsNamed := by
  unfold ofRoleDirectory at h
  split at h
  next =>
    cases h
    cases hm
  next role _ =>
    obtain ⟨file, hfile⟩ := exists_of_mem_mapM h hm
    exact isNamed_of_ofFile hfile

/-- All templates of a directory have the names of their files, cut at the end. -/
theorem isNamed_of_ofDirectory (h : ofDirectory t directory = .ok templates)
    (hm : template ∈ templates) : template.IsNamed := by
  have hempty : (.ok [] : Except LoadError (List Template)) = .ok templates → template.IsNamed := by
    rintro ⟨⟩
    cases hm
  simp only [ofDirectory] at h
  split at h
  next path _ =>
    split at h
    next =>
      obtain ⟨found, hfound, h⟩ := bind_eq_ok.1 h
      cases h
      obtain ⟨group, hgroup, hm⟩ := List.mem_flatten.1 hm
      obtain ⟨name, hname⟩ := exists_of_mem_mapM hfound hgroup
      exact isNamed_of_ofRoleDirectory hname hm
    next => exact hempty h
  next => exact hempty h

end Template

/-! ## Compiled plans -/

/-- No file of the plan is named as a directory: the directory of the host itself,
    or the one around it. -/
def BuildPlan.NamesFiles (p : BuildPlan) : Prop :=
  ∀ h ∈ p.hosts, ∀ f ∈ h.files, f.name ≠ "" ∧ f.name ≠ "." ∧ f.name ≠ ".."

theorem Site.hostnames_of_compile {s : Site} {templates : List Template} {p : BuildPlan}
    (h : s.compile templates = .ok p) : p.hosts.map (·.hostname) = s.hosts.map (·.hostname) := by
  obtain ⟨b, -, -, hosts⟩ := exists_blueprint h
  have hnames : List.Forall₂ (· = ·) (p.hosts.map (·.hostname)) (s.hosts.map (·.hostname)) := by
    rw [List.forall₂_map_left_iff, List.forall₂_map_right_iff]
    exact (hosts.imp fun _ _ h => h.1.symm).flip.imp fun _ _ => Eq.symm
  rwa [List.forall₂_eq_eq_eq] at hnames

theorem Site.exists_isPlanOf {s : Site} {templates : List Template} {p : BuildPlan}
    (hp : s.compile templates = .ok p) {h : HostPlan} (hh : h ∈ p.hosts) :
    ∃ b : Blueprint, ∃ host ∈ s.hosts, b.IsPlanOf templates host h := by
  obtain ⟨host, hhost, hplan⟩ := exists_mem_of_forall₂ (forall₂_hostPlan hp).2.flip hh
  exact ⟨_, host, hhost, Blueprint.isPlanOf_of_hostPlan hplan⟩

theorem Site.isHostname_of_compile {s : Site} {templates : List Template} {p : BuildPlan}
    (hp : s.compile templates = .ok p) : ∀ h ∈ p.hosts, Text.isHostname h.hostname = true := by
  intro h hh
  obtain ⟨b, host, hhost, hplan⟩ := exists_isPlanOf hp hh
  exact hplan.hostname ▸ isHostname_of_mem_hosts (compile_eq_ok_iff.1 hp).1 hhost

/-- The files of the plan have fronts of names as their names. -/
def HostPlan.IsNamed (h : HostPlan) : Prop :=
  ∀ f ∈ h.files, ∃ n : FileName, f.name.toList <+: n.text.toList

theorem Site.isNamed_of_compile {s : Site} {t : FileTree} {directory : Location}
    {templates : List Template} {p : BuildPlan}
    (ht : Template.ofDirectory t directory = .ok templates) (hp : s.compile templates = .ok p) :
    ∀ h ∈ p.hosts, h.IsNamed := by
  intro h hh f hf
  obtain ⟨b, host, -, hplan⟩ := exists_isPlanOf hp hh
  obtain ⟨template, htemplate, hname, -⟩ := exists_mem_of_forall₂ hplan.files.flip hf
  obtain ⟨r, -, htemplate⟩ := List.mem_flatMap.1 htemplate
  exact hname ▸ Template.isNamed_of_ofDirectory ht (List.mem_filter.1 htemplate).1

/-- **All hosts of a compiled plan can be written.** -/
theorem Site.isWritable_of_compile {s : Site} {t : FileTree} {directory : Location}
    {templates : List Template} {p : BuildPlan}
    (ht : Template.ofDirectory t directory = .ok templates) (hp : s.compile templates = .ok p)
    (hfiles : p.NamesFiles) : ∀ h ∈ p.hosts, h.IsWritable := by
  refine fun h hh => ⟨isHostname_of_compile hp h hh, fun f hf => ?_⟩
  obtain ⟨n, hn⟩ := isNamed_of_compile ht hp h hh f hf
  obtain ⟨hempty, hdot, hdots⟩ := hfiles h hh f hf
  exact isFileName_of_front hn hempty hdot hdots

end NetworkSite
