/-
  Cycles of dependencies in valid sites.

  The check follows the hosting relation from each host, so in a valid site no
  host runs itself, not even through others (`Site.not_onCycle_hosting`).  A
  cycle of dependencies therefore passes a router, and a valid site has one
  router at most (`Site.router_of_cycle`).
-/
import NetworkSite.Proofs.BuildCycles
import NetworkSite.Proofs.Validity

namespace NetworkSite

open Finding

namespace Site

variable {s : Site} {g h : Host} {i j n : Nat}

/-! ## The hosting relation -/

/-- The host `h` runs on the host `g`, as the check reads it. -/
def RunsOn (s : Site) (h g : Host) : Prop :=
  s.vmhost? h = some g

/-- On a cycle the check finds one, whatever it has passed on the way. -/
theorem hostingCycle?_ne_none (hc : OnCycle s.RunsOn h) (chain : List String) :
    s.hostingCycle? h chain ≠ none := by
  fun_induction hostingCycle? s h chain with
  | case1 h chain hp =>
    obtain ⟨g, hg, -⟩ := hc.exists_next
    exact absurd (hp.symm.trans hg) nofun
  | case2 => exact nofun
  | case3 h chain parent hp hcontains ih =>
    obtain ⟨g, hg, hcycle, -⟩ := hc.exists_next
    obtain rfl := Option.some.inj (hp.symm.trans hg)
    exact ih hcycle

theorem not_onCycle_hosting (hs : s.findings = []) (hh : h ∈ s.hosts) : ¬OnCycle s.RunsOn h := by
  intro hc
  have hf := (findings_eq_nil.1 hs).2.2.2.2.1
  rw [hostingFindings, List.append_eq_nil_iff, List.map_eq_nil_iff] at hf
  obtain ⟨names, hnames⟩ := Option.ne_none_iff_exists'.1 (hostingCycle?_ne_none hc [h.hostname])
  have hm : names ∈ firstOccurrences (s.hosts.filterMap fun h => s.hostingCycle? h [h.hostname]) :=
    mem_firstOccurrences.2 (List.mem_filterMap.2 ⟨h, hh, hnames⟩)
  rw [hf.2] at hm
  cases hm

theorem runsOn_of_runs (hs : s.findings = []) (hg : g ∈ s.hosts) (h' : g.Runs h) :
    s.RunsOn h g := by
  unfold RunsOn vmhost?
  rw [h'.2, Option.bind_some, findHost?_eq hs hg]

/-! ## Dependencies -/

/-- The host number `i` runs the host number `j`. -/
def HostsAt (s : Site) (i j : Nat) : Prop :=
  ∃ g h, s.hosts[i]? = some g ∧ s.hosts[j]? = some h ∧ g.Runs h

/-- The host number `i` is a router. -/
def RouterAt (s : Site) (i : Nat) : Prop :=
  ∃ g, s.hosts[i]? = some g ∧ g.hasRole .router = true

theorem hostsAt_or_routerAt (hn : (s.hosts.map (·.hostname)).Nodup)
    (hs : s.dependencies.Precedes i j) : s.HostsAt i j ∨ s.RouterAt i := by
  have hi := hs.before_lt
  have hj := hs.after_lt
  rw [size_dependencies] at hi hj
  have hi := List.getElem?_eq_getElem hi
  have hj := List.getElem?_eq_getElem hj
  rcases ((precedes_iff hn hi hj).1 hs).2 with hr | hr
  · exact .inl ⟨_, _, hi, hj, hr⟩
  · exact .inr ⟨_, hi, hr.1⟩

/-- A walk from host to virtual machine, as the check reads it. -/
theorem walk_runsOn (hs : s.findings = []) (hw : Walk s.HostsAt n i j)
    (hi : s.hosts[i]? = some g) (hj : s.hosts[j]? = some h) : Walk s.RunsOn n h g := by
  induction hw generalizing h with
  | refl =>
    obtain rfl := Option.some.inj (hi.symm.trans hj)
    exact .refl g
  | snoc _ hstep ih =>
    obtain ⟨f, h', hf, hh', hr⟩ := hstep
    obtain rfl := Option.some.inj (hj.symm.trans hh')
    exact .cons (runsOn_of_runs hs (List.mem_of_getElem? hf) hr) (ih hi hf)

/-- In a valid site a cycle of dependencies passes a router. -/
theorem exists_router_of_onCycle (hs : s.findings = []) (hc : OnCycle s.dependencies.Precedes i) :
    ∃ k, s.RouterAt k ∧ OnCycle s.dependencies.Precedes k := by
  have hlt := DependencyGraph.lt_of_onCycle hc
  rw [size_dependencies] at hlt
  have hi := List.getElem?_eq_getElem hlt
  obtain ⟨n, hw⟩ := hc
  have hsteps : ∀ x y, s.dependencies.Precedes x y → s.HostsAt x y ∨ s.RouterAt x :=
    fun _ _ => hostsAt_or_routerAt (nodup_hostnames hs)
  rcases hw.steps_or_passes hsteps with hw | ⟨k, l, m, hk, hl, hm⟩
  · exact absurd ⟨n, walk_runsOn hs hw hi hi⟩ (not_onCycle_hosting hs (List.mem_of_getElem? hi))
  · exact ⟨k, hk, onCycle_of_walks hm hl⟩

/-- **Cycles pass the router.**  In a valid site hosts that wait for each other
    are only reported if there is a router, and it is one of them.  So a valid
    site without a router has stages. -/
theorem router_of_cycle (hs : s.findings = []) :
    (∀ names, s.dependencies.schedule = .error names →
      ∃ router, s.hostsWithRole .router = [router] ∧ router.hostname ∈ names) ∧
    (s.hostsWithRole .router = [] → ∃ p, s.dependencies.schedule = .ok p) := by
  have hfailed : ∀ names, s.dependencies.schedule = .error names →
      ∃ router, s.hostsWithRole .router = [router] ∧ router.hostname ∈ names := by
    intro names hnames
    obtain ⟨members, hm, rfl⟩ := DependencyGraph.schedule_eq_error.1 hnames
    obtain ⟨hne, -, hmem⟩ := DependencyGraph.members_of_stagesFrom hm
    obtain ⟨i, hi⟩ := List.exists_mem_of_ne_nil _ hne
    obtain ⟨j, -, hj, -⟩ := ((hmem i).1 hi).1
    obtain ⟨k, ⟨router, hk, hrole⟩, hc⟩ := exists_router_of_onCycle hs hj
    have hrouter : router ∈ s.hostsWithRole .router :=
      List.mem_filter.2 ⟨List.mem_of_getElem? hk, hrole⟩
    have hf := (findings_eq_nil.1 hs).2.2.2.1
    rw [hostFindings, List.append_eq_nil_iff, forbid_eq_nil, decide_eq_false_iff_not] at hf
    obtain ⟨first, hfirst⟩ := List.length_eq_one_iff.1
      (Nat.le_antisymm (Nat.le_of_not_lt hf.2) (List.length_pos_of_mem hrouter))
    rw [hfirst, List.mem_singleton] at hrouter
    subst hrouter
    refine ⟨router, hfirst, List.mem_map.2 ⟨k, (hmem k).2 ?_, hostname_dependencies hk⟩⟩
    exact ⟨⟨k, 0, hc, .refl k⟩, k, 0, .refl k, hc⟩
  refine ⟨hfailed, fun hnone => ?_⟩
  cases hp : s.dependencies.schedule with
  | ok p => exact ⟨p, rfl⟩
  | error names =>
    obtain ⟨router, hrouter, -⟩ := hfailed names hp
    rw [hnone] at hrouter
    cases hrouter

/-- The router and the host that runs it wait for each other. -/
theorem entangled_router : entangled.findings = [] ∧
    entangled.dependencies.schedule = .error ["hyper", "gw"] ∧
    ∃ router, entangled.hostsWithRole .router = [router] ∧ router.hostname ∈ ["hyper", "gw"] := by
  have hf : entangled.findings = [] := by with_unfolding_all decide
  have hs : entangled.dependencies.schedule = .error ["hyper", "gw"] := by with_unfolding_all decide
  exact ⟨hf, hs, (router_of_cycle hf).1 _ hs⟩

end Site

end NetworkSite
