/-
  What a run does to the disk, and how it ends.

  Whatever keeps a run from getting a plan, or from writing one, is known before
  the first change: so a run that gets no plan, that only checks, or whose output
  directory must not be written over (`PlanDirectory.IsRefused`) makes, changes
  and takes away nothing.  The status tells whether a site was compiled and, unless
  it was only checked, written (`CommandLine.run_spares`).  A question about the
  program itself is answered without a look at any site
  (`CommandLine.version_of_nowhere`).
-/
import NetworkSite.CommandLine.Run
import NetworkSite.Proofs.Changes
import NetworkSite.Proofs.Clearing
import NetworkSite.Proofs.Compilation

namespace NetworkSite

/-! ## Refused directories -/

namespace PlanDirectory

open FileTree

variable {t : FileTree} {output : Location} {path : Path}

/-- Something stands at the path that no plan may be written over: it is no
    directory, or one with content but without the file of an earlier plan, or
    with one that cannot be read as an earlier plan. -/
inductive Blocks (t : FileTree) (path : Path) : Prop where
  | file (h : t.isFile path = true)
  | foreign (hd : t.isDirectory path = true) {n : FileName} (hn : t.node? (path ++ [n]) ≠ none)
      (hf : t.isFile (path ++ [planName]) = false)
  | badPlan (hf : t.isFile (path ++ [planName]) = true)
      (h : ∀ text, t.node? (path ++ [planName]) = some (.file text) → hostnames? text = none)

/-- The location leads to what no plan may be written over. -/
def IsRefused (t : FileTree) (output : Location) : Prop :=
  ∃ path, t.followNames? output = some path ∧ Blocks t path

theorem isDirectory_of_isFile_planName (h : t.isFile (path ++ [planName]) = true) :
    t.isDirectory path = true := by
  refine isDirectory_of_append (n := planName) fun hn => ?_
  simp [isFile, hn] at h

/-- Where the location leads there, it is noticed before anything is taken away. -/
theorem exists_stale_eq (hf : t.follow? output = some path) (hb : Blocks t path) :
    ∃ e, stale t output = ([], some e) := by
  unfold stale
  simp only [hf]
  cases hb with
  | file h =>
    unfold isFile at h
    split at h
    next hn => exact ⟨_, by rw [hn]⟩
    next hn => exact ⟨_, by rw [hn]⟩
    next => cases h
  | foreign hd hn hp =>
    have hne : (t.childNames path).isEmpty = false := by
      rw [List.isEmpty_eq_false_iff]
      exact List.ne_nil_of_mem (mem_childNames.2 hn)
    unfold isFile at hp
    simp only [isDirectory_iff.1 hd, nodeAt?_planFile hf hd]
    split
    next hn => simp [hn] at hp
    next hn => simp [hn] at hp
    next => exact ⟨_, by rw [hne]; rfl⟩
  | badPlan hp h =>
    have hd := isDirectory_of_isFile_planName hp
    unfold isFile at hp
    simp only [isDirectory_iff.1 hd, nodeAt?_planFile hf hd]
    split
    next text hn => exact ⟨_, by rw [h text hn]⟩
    next => exact ⟨_, rfl⟩
    next h₁ h₂ =>
      split at hp
      next text hn => exact absurd hn (h₁ text)
      next hn => exact absurd hn h₂
      next => cases hp

/-- A location with a slash at its end leads nowhere from a file, and nothing goes. -/
theorem clear_of_follow?_eq_none (h : t.follow? output = none) : clear t output = (t, none) := by
  simp only [clear, stale, h]
  rfl

end PlanDirectory

open FileTree PlanDirectory in
theorem BuildPlan.write_of_isRefused {t : FileTree} {output : Location} (p : BuildPlan)
    (h : IsRefused t output) : (p.write t output).1 = t := by
  obtain ⟨path, hn, hb⟩ := h
  cases hf : t.follow? output with
  | some path' =>
    have hpath : path' = path := Option.some.inj ((follow?_eq_some.1 hf).1.symm.trans hn)
    obtain ⟨e, he⟩ := exists_stale_eq hf (hpath ▸ hb)
    simp only [BuildPlan.write, clear, he]
    rfl
  | none =>
    -- The names do lead to a file, so that the directory cannot be made there.
    have hd : t.isDirectory path = false := by
      rw [Bool.eq_false_iff]
      intro hd
      rw [follow?_eq_some.2 ⟨hn, fun _ => hd⟩] at hf
      cases hf
    have hmake : t.makeDirectory? path = none := by
      cases hb with
      | file h =>
        have hnode : t.node? path ≠ none := fun hnone => by simp [isFile, hnone] at h
        simp [makeDirectory?, hd, hnode]
      | foreign h => rw [h] at hd; cases hd
      | badPlan h => rw [isDirectory_of_isFile_planName h] at hd; cases hd
    have hstop := perform_directories hn (WriteError.noDirectory output)
    rw [hmake] at hstop
    simp only [BuildPlan.write, clear_of_follow?_eq_none hf, BuildPlan.changes, List.append_assoc,
      perform_append_of_some hstop]

theorem BuildPlan.ofDirectory_eq_ok_iff {t : FileTree} {directory : Location} {p : BuildPlan} :
    BuildPlan.ofDirectory t directory = .ok p ↔
      ∃ s templates, Site.ofDirectory t directory = .ok s ∧
        Template.ofDirectory t directory = .ok templates ∧ s.compile templates = .ok p := by
  simp only [BuildPlan.ofDirectory, bind_eq_ok, mapError_eq_ok, exists_and_left]

/-! ## Exit statuses -/

theorem RunError.status_ne_zero (e : RunError) : e.status ≠ 0 := by
  unfold status
  split <;> decide

namespace CommandLine

variable {t : FileTree} {working : Path} {arguments : List String}

/-- The exit status of a run. -/
def status (t : FileTree) (working : Path) (arguments : List String) : Nat :=
  match (run t working arguments).2 with
  | .ok _ => 0
  | .error e => e.status

theorem status_eq_zero_iff :
    status t working arguments = 0 ↔ ∃ text, (run t working arguments).2 = .ok text := by
  unfold status
  cases (run t working arguments).2 with
  | ok text => simp
  | error e => simpa using e.status_ne_zero

/-! ## Runs by what they are asked for -/

theorem run_of_error {e : ArgumentError} (h : Request.ofArguments arguments = .error e) :
    run t working arguments = (t, .error (.arguments e)) := by
  simp only [run, prepare, h, Except.mapError]
  rfl

theorem run_of_version (h : Request.ofArguments arguments = .ok .version) :
    run t working arguments = (t, .ok versionText) := by
  simp only [run, prepare, h, Except.mapError]
  rfl

theorem run_of_help (h : Request.ofArguments arguments = .ok .help) :
    run t working arguments = (t, .ok helpText) := by
  simp only [run, prepare, h, Except.mapError]
  rfl

section

variable {site output : String} {check : Bool}
  (h : Request.ofArguments arguments = .ok (.compile site output check))

include h

theorem run_of_noPlan {e : RunError}
    (hp : BuildPlan.ofDirectory t (Location.ofText working site) = .error e) :
    run t working arguments = (t, .error e) := by
  simp only [run, prepare, h, Except.mapError, bind, Except.bind, answer, hp]

theorem run_of_plan {p : BuildPlan}
    (hp : BuildPlan.ofDirectory t (Location.ofText working site) = .ok p) :
    run t working arguments =
      if check then (t, .ok "")
      else
        ((p.write t (Location.ofText working output)).1,
          match (p.write t (Location.ofText working output)).2 with
          | none => .ok (p.summary (Location.ofText working output))
          | some e => .error (.write e)) := by
  simp only [run, prepare, h, Except.mapError, bind, Except.bind, answer, hp, pure, Except.pure]
  cases check with
  | true => rfl
  | false =>
    simp only [Bool.false_eq_true, if_false]
    split
    next hw => rw [hw]
    next hw => rw [hw]

end

/-! ## Runs that fail -/

/-- What keeps a request from getting as far as the first change. -/
inductive Stops (t : FileTree) (working : Path) : Request → Prop where
  | version : Stops t working .version
  | help : Stops t working .help
  | noSite {site output : String} {check : Bool} {e : LoadError}
      (h : Site.ofDirectory t (Location.ofText working site) = .error e) :
      Stops t working (.compile site output check)
  | noTemplates {site output : String} {check : Bool} {e : LoadError}
      (h : Template.ofDirectory t (Location.ofText working site) = .error e) :
      Stops t working (.compile site output check)
  | noPlan {site output : String} {check : Bool} {s : Site} {templates : List Template}
      {e : CompileError} (hs : Site.ofDirectory t (Location.ofText working site) = .ok s)
      (ht : Template.ofDirectory t (Location.ofText working site) = .ok templates)
      (h : s.compile templates = .error e) : Stops t working (.compile site output check)
  | check {site output : String} : Stops t working (.compile site output true)
  | refused {site output : String} {check : Bool}
      (h : PlanDirectory.IsRefused t (Location.ofText working output)) :
      Stops t working (.compile site output check)

/-- What a run has to come by to end well: the answer to a question about the
    program, or a plan that is only checked or can be written. -/
inductive Succeeds (t : FileTree) (working : Path) : Request → Prop where
  | version : Succeeds t working .version
  | help : Succeeds t working .help
  | plan {site output : String} {check : Bool} {s : Site} {templates : List Template}
      {p : BuildPlan} (hs : Site.ofDirectory t (Location.ofText working site) = .ok s)
      (ht : Template.ofDirectory t (Location.ofText working site) = .ok templates)
      (hp : s.compile templates = .ok p)
      (h : check = true ∨ (p.write t (Location.ofText working output)).2 = none) :
      Succeeds t working (.compile site output check)

theorem run_of_stops {request : Request} (h : Request.ofArguments arguments = .ok request)
    (hs : Stops t working request) : (run t working arguments).1 = t := by
  cases request with
  | version => rw [run_of_version h]
  | help => rw [run_of_help h]
  | compile site output check =>
    cases hp : BuildPlan.ofDirectory t (Location.ofText working site) with
    | error e => rw [run_of_noPlan h hp]
    | ok p =>
      rw [run_of_plan h hp]
      obtain ⟨s, templates, hsite, htemplates, hcompile⟩ := BuildPlan.ofDirectory_eq_ok_iff.1 hp
      cases hs with
      | noSite he => rw [hsite] at he; cases he
      | noTemplates he => rw [htemplates] at he; cases he
      | noPlan hs' ht' he =>
        rw [hsite] at hs'
        rw [htemplates] at ht'
        cases hs'
        cases ht'
        rw [hcompile] at he
        cases he
      | check => rfl
      | refused hr =>
        cases check with
        | true => rfl
        | false => exact p.write_of_isRefused hr

theorem status_eq_zero_of_ok {request : Request} (h : Request.ofArguments arguments = .ok request) :
    status t working arguments = 0 ↔ Succeeds t working request := by
  rw [status_eq_zero_iff]
  cases request with
  | version => simp only [run_of_version h, Except.ok.injEq, exists_eq', Succeeds.version]
  | help => simp only [run_of_help h, Except.ok.injEq, exists_eq', Succeeds.help]
  | compile site output check =>
    cases hp : BuildPlan.ofDirectory t (Location.ofText working site) with
    | error e =>
      rw [run_of_noPlan h hp]
      refine iff_of_false (fun ⟨_, htext⟩ => nomatch htext) fun hsucceeds => ?_
      cases hsucceeds with
      | plan hs ht hcompile =>
        rw [BuildPlan.ofDirectory_eq_ok_iff.2 ⟨_, _, hs, ht, hcompile⟩] at hp
        cases hp
    | ok p =>
      obtain ⟨s, templates, hs, ht, hcompile⟩ := BuildPlan.ofDirectory_eq_ok_iff.1 hp
      have hsucceeds : Succeeds t working (.compile site output check) ↔
          check = true ∨ (p.write t (Location.ofText working output)).2 = none := by
        refine ⟨fun hsucceeds => ?_, .plan hs ht hcompile⟩
        cases hsucceeds with
        | plan hs' ht' hcompile' hend =>
          rw [BuildPlan.ofDirectory_eq_ok_iff.2 ⟨_, _, hs', ht', hcompile'⟩] at hp
          cases hp
          exact hend
      rw [hsucceeds, run_of_plan h hp]
      cases check with
      | true => simp
      | false =>
        simp only [Bool.false_eq_true, if_false, false_or]
        cases (p.write t (Location.ofText working output)).2 <;> simp

/-- **A failing run leaves the disk alone**, and so does one that only checks or
    answers a question about the program: where the arguments ask for nothing
    that gets as far as the first change, the tree stays what it was.  The status
    is zero exactly if there was a question to answer, or if the site was loaded
    and compiled and its plan was only checked or could be written. -/
theorem run_spares (t : FileTree) (working : Path) (arguments : List String) :
    ((∀ request, Request.ofArguments arguments = .ok request → Stops t working request) →
      (run t working arguments).1 = t) ∧
    (status t working arguments = 0 ↔
      ∃ request, Request.ofArguments arguments = .ok request ∧ Succeeds t working request) := by
  cases h : Request.ofArguments arguments with
  | error e =>
    refine ⟨fun _ => by rw [run_of_error h], iff_of_false ?_ ?_⟩
    · rw [status_eq_zero_iff, run_of_error h]
      exact nofun
    · exact nofun
  | ok request =>
    refine ⟨fun hs => run_of_stops h (hs request rfl), ?_⟩
    rw [status_eq_zero_of_ok h]
    exact ⟨fun hs => ⟨request, rfl, hs⟩, fun ⟨r, hr, hs⟩ => Except.ok.inj hr ▸ hs⟩

/-- Where there is no site at all, a question about the program is answered: the
    status is zero, and no site was loaded. -/
theorem version_of_nowhere :
    status FileTree.empty [] ["--site", "nowhere", "--version"] = 0 ∧
      ¬∃ s, Site.ofDirectory FileTree.empty (Location.ofText [] "nowhere") = .ok s := by
  have hnone : FileTree.empty.isFileAt ((Location.ofText [] "nowhere").join "site.yaml") = false := by
    decide
  refine ⟨by decide, ?_⟩
  rintro ⟨s, hs⟩
  rw [Site.ofDirectory, hnone] at hs
  split at hs
  next h => cases h
  next => cases hs

end CommandLine

end NetworkSite
