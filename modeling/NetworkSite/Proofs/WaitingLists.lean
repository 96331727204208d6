/-
  The hosts for which a host of a build plan waits.

  The dependencies of a site are sorted by the host that comes first, then by the
  one that waits and the reason.  So the hosts for which one host waits stand in
  the order of their declaration, once for each reason
  (`Site.dependenciesOf_eq`).  The build plan drops the reasons but not what they
  repeat: a host is listed once, unless it both runs the waiting host and routes
  its traffic (`Site.dependsOn_eq`, `Site.twofold_dependsOn`).
-/
import NetworkSite.Proofs.BuildStages
import NetworkSite.Proofs.HostVariables
import NetworkSite.Proofs.Validity

namespace NetworkSite

/-! ## Lists by number -/

section

variable {α β : Type} {items : List α} {a : α}

/-- The only item that adds anything is one with a known number. -/
theorem flatMap_zipIdx_eq {f : α × Nat → List β} {k j : Nat} (hj : items[j]? = some a)
    (hf : ∀ x i, i ≠ k + j → f (x, i) = []) : (items.zipIdx k).flatMap f = f (a, k + j) := by
  induction items generalizing k j with
  | nil => cases hj
  | cons b rest ih =>
    rw [List.zipIdx_cons, List.flatMap_cons]
    cases j with
    | zero =>
      obtain rfl : b = a := Option.some.inj hj
      have hrest : (rest.zipIdx (k + 1)).flatMap f = [] := by
        refine List.flatMap_eq_nil_iff.2 fun x hx => hf x.1 x.2 ?_
        have hle := List.le_snd_of_mem_zipIdx hx
        omega
      rw [hrest, List.append_nil, Nat.add_zero]
    | succ j =>
      rw [hf b k (by omega), List.nil_append, ih hj fun x i hi => hf x i (by omega)]
      congr 2
      omega

theorem flatMap_ite_eq {p : α → Prop} [DecidablePred p] {f : α → β} :
    (items.flatMap fun a => if p a then [f a] else []) = (items.filter (p ·)).map f := by
  induction items with
  | nil => rfl
  | cons b rest ih =>
    rw [List.flatMap_cons, ih, List.filter_cons]
    by_cases hb : p b <;> simp [hb]

theorem flatMap_range_eq {f : Nat → List β} {g : α → List β}
    (h : ∀ i a, items[i]? = some a → f i = g a) :
    (List.range items.length).flatMap f = items.flatMap g := by
  have hnumbers : (List.range items.length).flatMap f = items.zipIdx.flatMap fun x => f x.2 := by
    rw [List.range_eq_range', ← List.zipIdx_map_snd 0 items, List.flatMap_map]
  have hitems : items.flatMap g = items.zipIdx.flatMap fun x => g x.1 := by
    conv_lhs => rw [← List.zipIdx_map_fst 0 items, List.flatMap_map]
  rw [hnumbers, hitems]
  exact List.flatMap_congr fun x hx => h x.2 x.1 (List.mk_mem_zipIdx_iff_getElem?.1 hx)

end

/-! ## Reasons -/

namespace Host

variable {s : Site} {g h : Host}

instance : Decidable (g.Runs h) :=
  inferInstanceAs (Decidable (_ ∧ _))

instance : Decidable (g.Routes s h) :=
  decidable_of_iff (g.hasRole .router = true ∧ Site.isServer h = true ∧ s.isRouted h = true)
    (and_congr_right fun _ => and_congr Site.isServer_iff Site.isRouted_iff)

/-- Why the host `h` waits for the host `g`; no host waits for itself. -/
def reasons (s : Site) (g h : Host) : List DependencyKind :=
  if g = h then []
  else (if g.Runs h then [.hosting] else []) ++ if g.Routes s h then [.routing] else []

end Host

namespace Site

variable {s : Site} {d g h : Host} {i j : Nat}

section

variable (hn : (s.hosts.map (·.hostname)).Nodup)

include hn

/-- The dependencies of one host on another are the reasons for them. -/
theorem map_needsEdges (hi : s.hosts[i]? = some d) (hj : s.hosts[j]? = some h) :
    ((h.needs s j).edges s.routerIndices i).map
        (fun e => (s.dependencies.hostname e.before, e.kind)) =
      (d.reasons s h).map (d.hostname, ·) := by
  have heq : i = j ↔ d = h := by
    constructor
    · rintro rfl
      exact Option.some.inj (hi.symm.trans hj)
    · rintro rfl
      exact index_unique hn hi hj rfl
  have hruns : (h.needs s j).vmhost = some i ↔ d.Runs h := by
    rw [Host.needs, Option.ite_none_right_eq_some, runs_iff hn hi]
  have hroutes : ((h.needs s j).router && s.routerIndices.contains i) = true ↔ d.Routes s h := by
    rw [Bool.and_eq_true, List.contains_iff_mem, ← routes_iff hn hi, Host.needs, Bool.and_eq_true,
      and_assoc]
  have hname := hostname_dependencies hi
  unfold Needs.edges Host.reasons
  change List.map _ (if i = j then _ else _) = _
  simp only [heq, hruns, hroutes]
  split_ifs <;> simp [hname]

/-- **The hosts for which a host waits** stand in the order of their declaration,
    once for each reason. -/
theorem dependenciesOf_eq (hj : s.hosts[j]? = some h) :
    s.dependencies.dependenciesOf h.hostname =
      s.hosts.flatMap fun d => (d.reasons s h).map (d.hostname, ·) := by
  have hidx : s.dependencies.hosts.idxOf? h.hostname = some j := hostIndex?_eq hn hj
  have hown : ∀ before, (s.hosts.zipIdx.map fun x => x.1.needs s x.2).flatMap
      (fun n => (n.edges s.routerIndices before).filter (·.after == j)) =
        (h.needs s j).edges s.routerIndices before := by
    intro before
    rw [List.flatMap_map, flatMap_zipIdx_eq hj fun x i hi => ?_, Nat.zero_add]
    · refine List.filter_eq_self.2 fun e he => ?_
      exact beq_iff_eq.2 (mem_needsEdges.1 he).2.1
    · refine List.filter_eq_nil_iff.2 fun e he hafter => hi ?_
      rw [Nat.zero_add, ← beq_iff_eq.1 hafter]
      exact (mem_needsEdges.1 he).2.1.symm
  rw [DependencyGraph.dependenciesOf, hidx]
  change (((List.range s.hosts.length).flatMap fun before =>
    (s.hosts.zipIdx.map fun x => x.1.needs s x.2).flatMap
      (·.edges s.routerIndices before)).filter (·.after == j)).map _ = _
  simp only [List.filter_flatMap, hown, List.map_flatMap]
  exact flatMap_range_eq fun i d hi => map_needsEdges hn hi hj

end

/-! ## Stages -/

theorem stageOf?_lt (hn : (s.hosts.map (·.hostname)).Nodup) {p : Schedule}
    (hp : s.dependencies.schedule = .ok p) (hi : s.hosts[i]? = some d) (hj : s.hosts[j]? = some h)
    (hd : s.dependencies.Precedes i j) :
    ∃ k l, p.stageOf? d.hostname = some k ∧ p.stageOf? h.hostname = some l ∧ k < l := by
  obtain ⟨k, hk, hdk⟩ := DependencyGraph.places_of_schedule hn hp hd.before_lt
  obtain ⟨l, hl, hdl⟩ := DependencyGraph.places_of_schedule hn hp hd.after_lt
  rw [hostname_dependencies hi] at hk
  rw [hostname_dependencies hj] at hl
  exact ⟨k, l, hk.stageOf?_eq, hl.stageOf?_eq, hdk.lt_of_walk hdl (.single hd)⟩

/-! ## Plans of hosts -/

theorem mem_reasons_iff {kind : DependencyKind} : kind ∈ d.reasons s h ↔
    d ≠ h ∧ (kind = .hosting ∧ d.Runs h ∨ kind = .routing ∧ d.Routes s h) := by
  unfold Host.reasons
  split_ifs <;> simp_all

/-- A host that waits for another one for one reason at most lists it once at
    most. -/
theorem map_reasons_eq (hboth : d.Runs h → d.Routes s h → d = h) :
    (d.reasons s h).map (fun _ => d.hostname) =
      if d ≠ h ∧ (d.Runs h ∨ d.Routes s h) then [d.hostname] else [] := by
  unfold Host.reasons
  split_ifs <;> simp_all

/-- A host is built in a later stage than those for which it waits. -/
theorem stageOf?_lt_of_mem_reasons (hn : (s.hosts.map (·.hostname)).Nodup) {p : Schedule}
    (hp : s.dependencies.schedule = .ok p) (hd : d ∈ s.hosts) (hh : h ∈ s.hosts)
    {kind : DependencyKind} (hk : kind ∈ d.reasons s h) :
    (p.stageOf? d.hostname).getD 0 < (p.stageOf? h.hostname).getD 0 := by
  obtain ⟨i, hi⟩ := List.mem_iff_getElem?.1 hd
  obtain ⟨j, hj⟩ := List.mem_iff_getElem?.1 hh
  obtain ⟨hne, hkind⟩ := mem_reasons_iff.1 hk
  have hij : i ≠ j := by
    rintro rfl
    exact hne (Option.some.inj (hi.symm.trans hj))
  have hwaits : d.Runs h ∨ d.Routes s h := hkind.imp (·.2) (·.2)
  obtain ⟨k, l, hk, hl, hlt⟩ := stageOf?_lt hn hp hi hj ((precedes_iff hn hi hj).2 ⟨hij, hwaits⟩)
  rw [hk, hl]
  exact hlt

theorem dependsOn_of_hostPlan (hn : (s.hosts.map (·.hostname)).Nodup) {p : AddressPlan}
    {rules : List RuleTuple} {schedule : Schedule} {templates : List Template} {plan : HostPlan}
    (hh : h ∈ s.hosts) (hplan : (s.blueprint p rules schedule).hostPlan templates h = .ok plan) :
    plan.dependsOn = s.hosts.flatMap fun d => (d.reasons s h).map fun _ => d.hostname := by
  obtain ⟨files, -, rfl⟩ := Blueprint.hostPlan_eq_ok_iff.1 hplan
  obtain ⟨j, hj⟩ := List.mem_iff_getElem?.1 hh
  change (s.dependencies.dependenciesOf h.hostname).map _ = _
  rw [dependenciesOf_eq hn hj, List.map_flatMap]
  simp only [List.map_map, Function.comp_def]

theorem stage_of_hostPlan {p : AddressPlan} {rules : List RuleTuple} {schedule : Schedule}
    {templates : List Template} {plan : HostPlan}
    (hplan : (s.blueprint p rules schedule).hostPlan templates h = .ok plan) :
    plan.stage = (schedule.stageOf? h.hostname).getD 0 := by
  obtain ⟨files, -, rfl⟩ := Blueprint.hostPlan_eq_ok_iff.1 hplan
  rfl

/-- **What a host of a build plan waits for.**  It lists the hosts of the site
    that run it or route its traffic, itself apart, in the order of their
    declaration, once for each reason; so it lists each of them once, if none
    does both.  All of them are built in earlier stages. -/
theorem dependsOn_eq {templates : List Template} {plan : BuildPlan}
    (h : s.compile templates = .ok plan) {g : HostPlan} (hg : g ∈ plan.hosts) :
    ∃ host ∈ s.hosts, host.hostname = g.hostname ∧
      g.dependsOn = s.hosts.flatMap (fun d => (d.reasons s host).map fun _ => d.hostname) ∧
      ((∀ d ∈ s.hosts, d.Runs host → d.Routes s host → d = host) →
        g.dependsOn = (s.hosts.filter fun d =>
          d ≠ host ∧ (d.Runs host ∨ d.Routes s host)).map (·.hostname) ∧ g.dependsOn.Nodup) ∧
      ∀ name ∈ g.dependsOn, ∃ other ∈ plan.hosts, other.hostname = name ∧ other.stage < g.stage := by
  have hn := nodup_hostnames (addresses_of_compile h).1
  obtain ⟨hp, hall⟩ := forall₂_hostPlan h
  obtain ⟨host, hh, hplan⟩ := exists_mem_of_forall₂ hall.flip hg
  have hlist := dependsOn_of_hostPlan hn hh hplan
  refine ⟨host, hh, (Blueprint.isPlanOf_of_hostPlan hplan).hostname.symm, hlist, fun hboth => ?_,
    fun name hname => ?_⟩
  · have honce : g.dependsOn = (s.hosts.filter fun d =>
        d ≠ host ∧ (d.Runs host ∨ d.Routes s host)).map (·.hostname) := by
      rw [hlist, List.flatMap_congr fun d hd => map_reasons_eq (hboth d hd), flatMap_ite_eq]
    refine ⟨honce, ?_⟩
    rw [honce]
    exact hn.sublist (List.filter_sublist.map _)
  · rw [hlist] at hname
    obtain ⟨d, hd, hname⟩ := List.mem_flatMap.1 hname
    obtain ⟨kind, hk, rfl⟩ := List.mem_map.1 hname
    obtain ⟨other, ho, hother⟩ := exists_mem_of_forall₂ hall hd
    refine ⟨other, ho, (Blueprint.isPlanOf_of_hostPlan hother).hostname, ?_⟩
    rw [stage_of_hostPlan hother, stage_of_hostPlan hplan]
    exact stageOf?_lt_of_mem_reasons hn hp hd hh hk

theorem virtual_compiles : ∃ plan, virtual.compile [] = .ok plan :=
  exists_compile_nil (by with_unfolding_all decide) (by decide) (by with_unfolding_all decide)
    (by decide) (by with_unfolding_all decide) (by decide)

/-- The virtual machine lists the router and the host that runs it. -/
theorem virtual_dependsOn : ∃ plan g, virtual.compile [] = .ok plan ∧ g ∈ plan.hosts ∧
    g.dependsOn = ["gw", "hyper"] ∧
    ∀ name ∈ g.dependsOn, ∃ other ∈ plan.hosts, other.hostname = name ∧ other.stage < g.stage := by
  obtain ⟨plan, hplan⟩ := virtual_compiles
  obtain ⟨leases, hh, hname⟩ : ∃ host ∈ virtual.hosts, host.hostname = "leases" := by decide
  obtain ⟨g, hg, hgplan⟩ := exists_mem_of_forall₂ (forall₂_hostPlan hplan).2 hh
  obtain ⟨host, hh, hhost, hlist, -, hstages⟩ := dependsOn_eq hplan hg
  have hexpected : ∀ host ∈ virtual.hosts, host.hostname = "leases" →
      virtual.hosts.flatMap (fun d => (d.reasons virtual host).map fun _ => d.hostname) =
        ["gw", "hyper"] := by
    decide
  rw [hexpected host hh (by rw [hhost, (Blueprint.isPlanOf_of_hostPlan hgplan).hostname, hname])]
    at hlist
  exact ⟨plan, g, hplan, hg, hlist, hstages⟩

/-- A site whose router runs the server for names. -/
def twofold : Site where
  name := "home"
  switches := [{
    name := "sw"
    vlans := [{ name := "lan", ipv4Subnet := "10.0.0.0/24" }] }]
  hosts := [
    { hostname := "gw", roles := [.router, .vmhost], interfaces := [{ uplink := some "wan0" }] },
    { hostname := "ns", roles := [.dns], isVm := true, vmhost := some "gw"
      interfaces := [{ switch := some "sw", ipv4 := .fixed "10.0.0.2" }] }]

theorem twofold_compiles : ∃ plan, twofold.compile [] = .ok plan :=
  exists_compile_nil (by with_unfolding_all decide) (by decide) (by with_unfolding_all decide)
    (by decide) (by with_unfolding_all decide) (by decide)

/-- **A host may be listed twice**: the server for names lists the router, which
    runs it and routes its traffic. -/
theorem twofold_dependsOn : ∃ plan g, twofold.compile [] = .ok plan ∧ g ∈ plan.hosts ∧
    g.hostname = "ns" ∧ g.dependsOn = ["gw", "gw"] := by
  obtain ⟨plan, hplan⟩ := twofold_compiles
  obtain ⟨host, hh, hname, hexpected⟩ : ∃ host ∈ twofold.hosts, host.hostname = "ns" ∧
      twofold.hosts.flatMap (fun d => (d.reasons twofold host).map fun _ => d.hostname) =
        ["gw", "gw"] := by
    decide
  obtain ⟨g, hg, hgplan⟩ := exists_mem_of_forall₂ (forall₂_hostPlan hplan).2 hh
  refine ⟨plan, g, hplan, hg, (Blueprint.isPlanOf_of_hostPlan hgplan).hostname.trans hname, ?_⟩
  exact (dependsOn_of_hostPlan (by decide) hh hgplan).trans hexpected

end Site

end NetworkSite
