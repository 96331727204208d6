/-
  Build plans: all files or none.

  The check of variables and the rendering find the same placeholders: a text
  refers to a variable exactly if it holds a dollar sign and the name in braces
  (`Template.mem_variableNames`).  So a build plan is made unless a host lacks a
  variable, the error has every variable that is lacking once, and otherwise each
  template of each role of a host becomes a file (`Blueprint.emit_all_or_none`).
-/
import NetworkSite.Data.Keyed
import NetworkSite.Proofs.Compilation
import Mathlib.Data.List.Nodup

namespace NetworkSite

/-! ## Placeholders -/

namespace Piece

theorem readName?_eq_some {cs name rest : List Char} :
    readName? cs = some (name, rest) ↔
      name ≠ [] ∧ (∀ c ∈ name, isNameChar c = true) ∧ cs = name ++ '}' :: rest := by
  constructor
  · intro h
    have hcs := eq_of_readName h
    unfold readName? at h
    split at h
    next c tail _ htake _ =>
      obtain ⟨rfl, -⟩ := Prod.mk.inj (Option.some.inj h)
      refine ⟨List.cons_ne_nil _ _, fun d hd => ?_, hcs⟩
      rw [← htake] at hd
      exact List.all_eq_true.1 List.all_takeWhile d hd
    next => cases h
  · rintro ⟨hne, hchars, rfl⟩
    obtain ⟨c, tail, rfl⟩ := List.exists_cons_of_ne_nil hne
    have hend : ¬isNameChar '}' = true := by decide
    rw [readName?, List.takeWhile_append_of_pos hchars, List.dropWhile_append_of_pos hchars,
      List.takeWhile_cons_of_neg hend, List.dropWhile_cons_of_neg hend, List.append_nil]
    rfl

variable {name : String} {cs : List Char}

theorem infix_cons_of_ne {c : Char} (hc : c ≠ '$') :
    (placeholder name).chars <:+: c :: cs ↔ (placeholder name).chars <:+: cs := by
  rw [List.infix_cons_iff]
  refine or_iff_right fun hp => hc ?_
  exact (List.cons_prefix_cons.1 hp).1.symm

theorem infix_append_of_forall_ne {piece : List Char} (h : ∀ c ∈ piece, c ≠ '$') :
    (placeholder name).chars <:+: piece ++ cs ↔ (placeholder name).chars <:+: cs := by
  induction piece with
  | nil => rfl
  | cons c piece ih =>
    rw [List.cons_append, infix_cons_of_ne (h c List.mem_cons_self),
      ih fun d hd => h d (List.mem_cons_of_mem c hd)]

theorem ne_dollar_of_isNameChar {c : Char} (h : isNameChar c = true) : c ≠ '$' := by
  rintro rfl
  exact absurd h (by decide)

/-- A run of characters that may name a variable. -/
def IsName (name : String) : Prop :=
  name.toList ≠ [] ∧ ∀ c ∈ name.toList, isNameChar c = true

/-- The name of a placeholder is read where its text begins. -/
theorem chars_prefix_iff (hname : IsName name) :
    (placeholder name).chars <+: '$' :: '{' :: cs ↔
      ∃ rest, readName? cs = some (name.toList, rest) := by
  simp only [readName?_eq_some, hname.1, ne_eq, not_false_eq_true, true_and]
  rw [chars, List.cons_append, List.cons_append, List.cons_prefix_cons, List.cons_prefix_cons]
  constructor
  · rintro ⟨-, -, rest, rfl⟩
    exact ⟨rest, hname.2, by simp⟩
  · rintro ⟨rest, -, rfl⟩
    exact ⟨rfl, rfl, rest, by simp⟩

theorem isName_of_mem_ofChars (h : placeholder name ∈ ofChars cs) : IsName name := by
  fun_induction ofChars cs with
  | case1 => cases h
  | case2 cs found rest hread ih =>
    rcases List.mem_cons.1 h with he | h
    · obtain ⟨hne, hchars, -⟩ := readName?_eq_some.1 hread
      rw [placeholder.inj he, IsName, String.toList_ofList]
      exact ⟨hne, hchars⟩
    · exact ih h
  | case3 cs hread ih =>
    rcases List.mem_cons.1 h with he | h
    · cases he
    · exact ih h
  | case4 c cs _ ih =>
    rcases List.mem_cons.1 h with he | h
    · cases he
    · exact ih h

/-- **The placeholders of a text** are the names that stand in it after a dollar
    sign and in braces. -/
theorem placeholder_mem_ofChars (hname : IsName name) :
    placeholder name ∈ ofChars cs ↔ (placeholder name).chars <:+: cs := by
  fun_induction ofChars cs with
  | case1 => simp [chars]
  | case2 cs found rest h ih =>
    obtain ⟨-, hfound, rfl⟩ := readName?_eq_some.1 h
    -- Another placeholder begins after the one that was read.
    have hrest : (placeholder name).chars <:+: '{' :: (found ++ '}' :: rest) ↔
        (placeholder name).chars <:+: rest := by
      rw [infix_cons_of_ne (by decide),
        infix_append_of_forall_ne fun c hc => ne_dollar_of_isNameChar (hfound c hc),
        infix_cons_of_ne (by decide)]
    rw [List.infix_cons_iff, hrest, chars_prefix_iff hname, h, List.mem_cons, ih]
    refine or_congr_left ?_
    simp only [placeholder.injEq, Option.some.injEq, Prod.mk.injEq, exists_and_left, exists_eq',
      and_true]
    constructor
    · rintro rfl
      rw [String.toList_ofList]
    · rintro rfl
      rw [String.ofList_toList]
  | case3 cs h ih =>
    rw [List.infix_cons_iff, chars_prefix_iff hname, h, List.mem_cons, ih]
    simp
  | case4 c cs hno ih =>
    rw [List.infix_cons_iff, List.mem_cons, ih]
    refine or_congr_left (iff_of_false (fun he => ?_) fun hp => ?_)
    · cases he
    · obtain ⟨hc, rest, hrest⟩ := List.cons_prefix_cons.1 hp
      exact hno _ hc.symm hrest.symm

end Piece

/-- The template refers to a variable. -/
def Template.RefersTo (t : Template) (name : String) : Prop :=
  Piece.IsName name ∧ (Piece.placeholder name).chars <:+: t.text.toList

theorem Template.mem_variableNames {t : Template} {name : String} :
    name ∈ t.variableNames ↔ t.RefersTo name := by
  have hpieces : name ∈ t.variableNames ↔ .placeholder name ∈ Piece.ofChars t.text.toList := by
    rw [variableNames, mem_firstOccurrences, List.mem_filterMap]
    constructor
    · rintro ⟨piece, hp, hn⟩
      cases piece with
      | char c => cases hn
      | placeholder found =>
        obtain rfl := Option.some.inj hn
        exact hp
    · exact fun hp => ⟨_, hp, rfl⟩
  rw [hpieces, RefersTo]
  constructor
  · intro hp
    have hname := Piece.isName_of_mem_ofChars hp
    exact ⟨hname, (Piece.placeholder_mem_ofChars hname).1 hp⟩
  · exact fun ⟨hname, ht⟩ => (Piece.placeholder_mem_ofChars hname).2 ht

/-! ## What hosts lack -/

/-- An environment defines the names that were put into it. -/
theorem Environment.contains_ofList {values : List (String × String)} {name : String} :
    (Environment.ofList values).contains name = true ↔ name ∈ values.map (·.1) := by
  suffices hf : ∀ env : Environment,
      (values.foldl (fun env x => env.insert x.1 x.2) env).contains name = true ↔
        env.contains name = true ∨ name ∈ values.map (·.1) by
    exact (hf _).trans (by simp [SortedMap.contains, SortedMap.empty, SortedMap.get?])
  induction values with
  | nil => simp
  | cons v rest ih =>
    intro env
    rw [List.foldl_cons, ih, SortedMap.contains, SortedMap.get?_insert, List.map_cons, List.mem_cons]
    by_cases h : compare v.1 name = .eq
    · simp [Std.LawfulEqOrd.eq_of_compare h]
    · have hne : name ≠ v.1 := fun he => h (by rw [he]; exact Std.ReflOrd.compare_self)
      simp [h, hne, SortedMap.contains]

/-- The host needs a variable for one of its roles or a template of these, and
    does not define it. -/
def Blueprint.Lacks (b : Blueprint) (templates : List Template) (h : Host) (name : String) : Prop :=
  (∃ r ∈ h.effectiveRoles,
    name ∈ r.variableNames ∨ ∃ t ∈ templates, t.role = r ∧ t.RefersTo name) ∧
  (b.environment h).contains name = false

theorem Role.mem_needs {r : Role} {templates : List Template} {name : String} :
    name ∈ r.needs templates ↔
      name ∈ r.variableNames ∨ ∃ t ∈ templates, t.role = r ∧ t.RefersTo name := by
  simp only [needs, List.mem_append, List.mem_flatMap, Template.ofRole, List.mem_filter, beq_iff_eq,
    Template.mem_variableNames, and_assoc]

theorem Host.nodup_addNew {seen rest : List Role} (h : seen.Nodup) : (addNew seen rest).Nodup := by
  induction rest generalizing seen with
  | nil => exact h
  | cons r rest ih =>
    rw [addNew]
    refine ih ?_
    split
    next => exact h
    next hr =>
      refine List.nodup_append.2 ⟨h, List.nodup_singleton r, fun a ha b hb hab => hr ?_⟩
      rw [← List.mem_singleton.1 hb, ← hab]
      exact List.contains_iff_mem.2 ha

theorem Host.nodup_effectiveRoles (h : Host) : h.effectiveRoles.Nodup :=
  nodup_addNew (List.nodup_singleton _)

namespace Blueprint

variable {b : Blueprint} {templates : List Template} {h : Host} {m : MissingVariable}

theorem mem_missingVariables :
    m ∈ missingVariables templates h.hostname h.effectiveRoles (b.environment h) ↔
      m.host = h.hostname ∧ b.Lacks templates h m.name := by
  simp only [missingVariables, List.mem_map, List.mem_filter, mem_firstOccurrences,
    List.mem_flatMap, Role.mem_needs, Bool.not_eq_true']
  constructor
  · rintro ⟨name, hlacks, rfl⟩
    exact ⟨rfl, hlacks⟩
  · rintro ⟨hhost, hlacks⟩
    exact ⟨m.name, hlacks, by rw [← hhost]⟩

theorem nodup_missingVariables (host : String) (roles : List Role) (env : Environment) :
    (missingVariables templates host roles env).Nodup := by
  refine List.Nodup.map (fun a b hab => (MissingVariable.mk.inj hab).2) ?_
  exact (nodup_firstOccurrences _).filter _

theorem mem_missing :
    m ∈ b.missing templates ↔
      ∃ h ∈ b.site.hosts, h.hostname = m.host ∧ b.Lacks templates h m.name := by
  simp only [missing, List.mem_flatMap, mem_missingVariables, eq_comm]

theorem missing_ne_nil_iff :
    b.missing templates ≠ [] ↔ ∃ h ∈ b.site.hosts, ∃ name, b.Lacks templates h name := by
  constructor
  · intro hne
    obtain ⟨m, hm⟩ := List.exists_mem_of_ne_nil _ hne
    obtain ⟨h, hh, -, hlacks⟩ := mem_missing.1 hm
    exact ⟨h, hh, m.name, hlacks⟩
  · rintro ⟨h, hh, name, hlacks⟩
    exact List.ne_nil_of_mem (mem_missing.2
      ⟨h, hh, rfl, hlacks⟩ : { host := h.hostname, name } ∈ b.missing templates)

theorem nodup_missing (hn : (b.site.hosts.map (·.hostname)).Nodup) :
    (b.missing templates).Nodup := by
  refine List.nodup_flatMap.2 ⟨fun h _ => nodup_missingVariables _ _ _, ?_⟩
  refine (List.pairwise_map.1 hn).imp fun hne m hm hm' => hne ?_
  rw [← (mem_missingVariables.1 hm).1, (mem_missingVariables.1 hm').1]

theorem flatMap_filter_missing (hn : (b.site.hosts.map (·.hostname)).Nodup) :
    (b.site.hosts.flatMap fun h => (b.missing templates).filter (·.host == h.hostname)) =
      b.missing templates := by
  have howner : ∀ h : Host, ∀ m ∈ missingVariables templates h.hostname h.effectiveRoles
      (b.environment h), m.host = h.hostname := fun h m hm => (mem_missingVariables.1 hm).1
  refine List.flatMap_congr fun h hh => ?_
  rw [missing, filter_flatMap_key howner, filter_key_eq hn hh, List.flatMap_singleton]

/-! ## Files -/

/-- The plan of a host has a file for each template of each of its roles, in the
    order of the roles and then of the templates. -/
structure IsPlanOf (b : Blueprint) (templates : List Template) (h : Host) (plan : HostPlan) :
    Prop where
  hostname : plan.hostname = h.hostname
  environment : plan.environment = b.environment h
  /-- No role comes twice, and so no file. -/
  roles : h.effectiveRoles.Nodup
  files : List.Forall₂ (fun t f => f.name = t.name ∧ t.render plan.environment = .ok f.contents)
    (h.effectiveRoles.flatMap fun r => templates.filter (·.role == r)) plan.files

theorem renderFile_eq_ok {hostname : String} {env : Environment} {t : Template} {f : RenderedFile} :
    renderFile hostname env t = .ok f ↔ f.name = t.name ∧ t.render env = .ok f.contents := by
  unfold renderFile
  cases ht : t.render env with
  | error names => simp
  | ok contents =>
    simp only [Except.ok.injEq]
    constructor
    · rintro rfl
      exact ⟨rfl, rfl⟩
    · rintro ⟨hname, hcontents⟩
      rw [← hname, hcontents]

theorem hostPlan_eq_ok_iff {plan : HostPlan} :
    b.hostPlan templates h = .ok plan ↔ ∃ files,
      (Template.ofRoles templates h.effectiveRoles).mapM
        (renderFile h.hostname (b.environment h)) = .ok files ∧
      plan = {
        hostname := h.hostname
        roles := h.effectiveRoles
        stage := (b.schedule.stageOf? h.hostname).getD 0
        dependsOn := b.dependenciesOf h
        environment := b.environment h
        files } := by
  simp only [hostPlan, bind_eq_ok, pure, Except.pure, Except.ok.injEq]
  exact exists_congr fun files => and_congr_right fun _ => eq_comm

theorem isPlanOf_of_hostPlan {plan : HostPlan} (hp : b.hostPlan templates h = .ok plan) :
    b.IsPlanOf templates h plan := by
  obtain ⟨files, hf, hplan⟩ := hostPlan_eq_ok_iff.1 hp
  have henvironment : plan.environment = b.environment h := by rw [hplan]
  refine ⟨by rw [hplan], henvironment, h.nodup_effectiveRoles, ?_⟩
  rw [henvironment, hplan]
  exact (forall₂_of_mapM_eq_ok hf).imp fun t f => renderFile_eq_ok.1

/-- **Rendering does not fail** for a host that lacks nothing. -/
theorem exists_render (hl : ∀ name, ¬b.Lacks templates h name) {t : Template} (ht : t ∈ templates)
    (hr : t.role ∈ h.effectiveRoles) : ∃ contents, t.render (b.environment h) = .ok contents := by
  have hnone : t.missing (b.environment h) = [] := by
    refine List.filter_eq_nil_iff.2 fun name hname hm => hl name ⟨⟨t.role, hr, .inr ?_⟩, ?_⟩
    · exact ⟨t, ht, rfl, Template.mem_variableNames.1 hname⟩
    · simpa using hm
  rw [Template.render, hnone]
  exact ⟨_, rfl⟩

theorem exists_hostPlan (hl : ∀ name, ¬b.Lacks templates h name) :
    ∃ plan, b.hostPlan templates h = .ok plan := by
  obtain ⟨files, hf⟩ : ∃ files, (Template.ofRoles templates h.effectiveRoles).mapM
      (renderFile h.hostname (b.environment h)) = .ok files := by
    refine exists_mapM_eq_ok fun t ht => ?_
    obtain ⟨r, hr, ht⟩ := List.mem_flatMap.1 ht
    obtain ⟨ht, hrole⟩ := List.mem_filter.1 ht
    rw [← beq_iff_eq.1 hrole] at hr
    obtain ⟨contents, hc⟩ := exists_render hl ht hr
    exact ⟨{ name := t.name, contents }, renderFile_eq_ok.2 ⟨rfl, hc⟩⟩
  exact ⟨_, hostPlan_eq_ok_iff.2 ⟨files, hf, rfl⟩⟩

/-! ## Build plans -/

theorem exists_emit (hl : ∀ h ∈ b.site.hosts, ∀ name, ¬b.Lacks templates h name) :
    ∃ plan, b.emit templates = .ok plan := by
  have hm : b.missing templates = [] := by
    by_contra hne
    obtain ⟨h, hh, name, hlacks⟩ := missing_ne_nil_iff.1 hne
    exact hl h hh name hlacks
  obtain ⟨plans, hp⟩ := exists_mapM_eq_ok fun h hh => exists_hostPlan (hl h hh)
  exact ⟨_, emit_eq_ok_iff.2 ⟨hm, plans, hp, rfl⟩⟩

theorem emit_eq_error_iff {missing : List MissingVariable} :
    b.emit templates = .error missing ↔ b.missing templates = missing ∧ missing ≠ [] := by
  by_cases hm : b.missing templates = []
  · obtain ⟨plan, hp⟩ : ∃ plan, b.emit templates = .ok plan :=
      exists_emit fun h hh name hlacks => missing_ne_nil_iff.2 ⟨h, hh, name, hlacks⟩ hm
    rw [hp]
    exact iff_of_false nofun fun ⟨he, hne⟩ => hne (he ▸ hm)
  · rw [emit]
    split
    next hnil => exact absurd hnil hm
    next =>
      rw [Except.error.injEq]
      exact ⟨fun he => ⟨he, he ▸ hm⟩, fun he => he.1⟩

/-- **All files or none.**  There is no build plan exactly if a host lacks a
    variable.  The error has all variables that hosts lack, each once and host by
    host.  Otherwise there is a build plan, and every host has its files in it;
    rendering does not fail once nothing is missing. -/
theorem emit_all_or_none (hn : (b.site.hosts.map (·.hostname)).Nodup) :
    ((∃ missing, b.emit templates = .error missing) ↔
      ∃ h ∈ b.site.hosts, ∃ name, b.Lacks templates h name) ∧
    (∀ missing, b.emit templates = .error missing → missing.Nodup ∧
      (∀ m, m ∈ missing ↔ ∃ h ∈ b.site.hosts, h.hostname = m.host ∧ b.Lacks templates h m.name) ∧
      missing = b.site.hosts.flatMap fun h => missing.filter (·.host == h.hostname)) ∧
    ((∀ h ∈ b.site.hosts, ∀ name, ¬b.Lacks templates h name) →
      ∃ plan, b.emit templates = .ok plan ∧
        List.Forall₂ (b.IsPlanOf templates) b.site.hosts plan.hosts) ∧
    (b.missing templates = [] → ∀ h ∈ b.site.hosts, ∀ t ∈ templates, t.role ∈ h.effectiveRoles →
      ∃ contents, t.render (b.environment h) = .ok contents) := by
  refine ⟨?_, fun missing he => ?_, fun hl => ?_, fun hm h hh t ht hr => ?_⟩
  · rw [← missing_ne_nil_iff]
    simp only [emit_eq_error_iff, exists_eq_left']
  · obtain ⟨rfl, -⟩ := emit_eq_error_iff.1 he
    exact ⟨nodup_missing hn, fun m => mem_missing, (flatMap_filter_missing hn).symm⟩
  · obtain ⟨plan, hp⟩ := exists_emit hl
    obtain ⟨-, plans, hplans, rfl⟩ := emit_eq_ok_iff.1 hp
    exact ⟨_, hp, (forall₂_of_mapM_eq_ok hplans).imp fun h plan => isPlanOf_of_hostPlan⟩
  · refine exists_render (fun name hlacks => ?_) ht hr
    exact missing_ne_nil_iff.2 ⟨h, hh, name, hlacks⟩ hm

/-- The blueprint of a site with one host, which has no addresses. -/
def ofDesk : Blueprint where
  site := { name := "desk", domain := "example.net", switches := [], hosts := [{ hostname := "pc" }] }
  addresses := { vlans := [], hosts := [], request := none }
  rules := []
  graph := { hosts := ["pc"], edges := [] }
  schedule := { stages := [["pc"]] }

/-- A template for all hosts with a variable that nobody defines. -/
def greeting : Template where
  role := .generic
  name := "motd"
  text := "${HOSTNAME} ${NO_SUCH}"

/-- The host lacks this variable, which the error has once; without the
    template it has no files and lacks nothing. -/
theorem ofDesk_greeting : (ofDesk.site.hosts.map (·.hostname)).Nodup ∧
    (∃ missing, ofDesk.emit [greeting] = .error missing ∧ missing.Nodup ∧
      { host := "pc", name := "NO_SUCH" } ∈ missing) ∧
    ∃ plan, ofDesk.emit [] = .ok plan ∧
      List.Forall₂ (ofDesk.IsPlanOf []) ofDesk.site.hosts plan.hosts := by
  have hn : (ofDesk.site.hosts.map (·.hostname)).Nodup := by decide
  have hdefined : ∀ h ∈ ofDesk.site.hosts, h.effectiveRoles = [.generic] ∧
      (ofDesk.environment h).contains "NO_SUCH" = false ∧
      ∀ name ∈ Role.generic.variableNames, (ofDesk.environment h).contains name = true := by
    decide
  obtain ⟨h, hh, hhost⟩ : ∃ h ∈ ofDesk.site.hosts, h.hostname = "pc" := by decide
  obtain ⟨hr, hnot, -⟩ := hdefined h hh
  have hlacks : ofDesk.Lacks [greeting] h "NO_SUCH" := by
    refine ⟨⟨.generic, by rw [hr]; decide, .inr ⟨greeting, List.mem_singleton_self _, rfl, ?_, ?_⟩⟩,
      hnot⟩
    · exact ⟨by decide, List.all_eq_true.1 (by decide)⟩
    · exact ⟨"${HOSTNAME} ".toList, [], by decide⟩
  have hall : ∀ h ∈ ofDesk.site.hosts, ∀ name, ¬ofDesk.Lacks [] h name := by
    rintro h hh name ⟨⟨r, hr, hneeds⟩, hnot⟩
    obtain ⟨hroles, -, hnames⟩ := hdefined h hh
    obtain rfl : r = .generic := List.mem_singleton.1 (hroles ▸ hr)
    have hname := hneeds.resolve_right fun ⟨t, ht, _⟩ => by cases ht
    exact Bool.false_ne_true (hnot.symm.trans (hnames name hname))
  obtain ⟨missing, he⟩ : ∃ missing, ofDesk.emit [greeting] = .error missing :=
    (emit_all_or_none hn).1.2 ⟨h, hh, _, hlacks⟩
  obtain ⟨hnodup, hmem, -⟩ := (emit_all_or_none hn).2.1 missing he
  refine ⟨hn, ⟨missing, he, hnodup, (hmem _).2 ⟨h, hh, hhost, hlacks⟩⟩, ?_⟩
  exact (emit_all_or_none hn).2.2.1 hall

end Blueprint

end NetworkSite
