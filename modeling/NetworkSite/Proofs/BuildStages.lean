/-
  The stages in which hosts are built.

  A stage takes the hosts that wait for nobody who is left.  After `d` stages
  the walks that end at a host that is done have fewer than `d` steps, and a
  walk of `d` steps ends at every other host (`DependencyGraph.Layered`).  So
  the number of a host's stage is the length of the longest walk that ends at
  it (`Site.stages_of_schedule`).
-/
import NetworkSite.Proofs.Dependencies

namespace NetworkSite

namespace DependencyGraph

variable {g : DependencyGraph} {done : List Nat} {stages : List (List Nat)} {d i j : Nat}

/-! ## Hosts that are ready -/

theorem mem_remaining : i ∈ g.remaining done ↔ i < g.size ∧ i ∉ done := by
  simp [remaining]

theorem forall_precedes_iff {p : Nat → Prop} :
    (∀ j, g.Precedes j i → p j) ↔ ∀ e ∈ g.edges, e.after = i → p e.before := by
  constructor
  · intro h e he hi
    exact h _ ⟨e, he, rfl, hi⟩
  · rintro h _ ⟨e, he, rfl, hi⟩
    exact h e he hi

theorem mem_ready :
    i ∈ g.ready done ↔ i < g.size ∧ i ∉ done ∧ ∀ j, g.Precedes j i → j ∈ done := by
  simp only [ready, List.mem_filter, List.mem_range, Bool.and_eq_true, Bool.not_eq_true',
    List.contains_eq_mem, decide_eq_false_iff_not, forall_precedes_iff, List.all_eq_true,
    Bool.or_eq_true, bne_iff_ne, decide_eq_true_eq, Decidable.imp_iff_not_or, ne_eq]

theorem exists_precedes_of_not_ready (hi : i ∈ g.remaining done)
    (hr : i ∉ g.ready done) : ∃ j ∈ g.remaining done, g.Precedes j i := by
  obtain ⟨hlt, hdone⟩ := mem_remaining.1 hi
  rw [mem_ready] at hr
  push Not at hr
  obtain ⟨j, hj, hnot⟩ := hr hlt hdone
  exact ⟨j, mem_remaining.2 ⟨hj.before_lt, hnot⟩, hj⟩

/-! ## Layers -/

/-- Of the hosts those are done whose walks have fewer than `d` steps. -/
structure Layered (g : DependencyGraph) (done : List Nat) (d : Nat) : Prop where
  below : ∀ i ∈ done, ∀ n j, Walk g.Precedes n j i → n < d
  above : ∀ i ∈ g.remaining done, ∃ j, Walk g.Precedes d j i

theorem layered_nil (g : DependencyGraph) : g.Layered [] 0 where
  below _ hi := absurd hi List.not_mem_nil
  above i _ := ⟨i, .refl i⟩

theorem Layered.isDepth (h : g.Layered done d) (hi : i ∈ g.ready done) : g.IsDepth d i := by
  obtain ⟨hlt, hnot, hready⟩ := mem_ready.1 hi
  refine ⟨h.above i (mem_remaining.2 ⟨hlt, hnot⟩), fun m j hw => ?_⟩
  cases m with
  | zero => exact Nat.zero_le d
  | succ m =>
    obtain ⟨k, hw, hs⟩ := hw.exists_last
    exact h.below k (hready k hs) m j hw

/-- Doing all hosts that are ready completes a layer. -/
theorem Layered.append_ready (h : g.Layered done d) :
    g.Layered (done ++ g.ready done) (d + 1) where
  below i hi n j hw := by
    rcases List.mem_append.1 hi with hi | hi
    · exact Nat.lt_succ_of_lt (h.below i hi n j hw)
    · exact Nat.lt_succ_of_le ((h.isDepth hi).2 n j hw)
  above i hi := by
    rw [mem_remaining, List.mem_append, not_or] at hi
    obtain ⟨hlt, hdone, hready⟩ := hi
    obtain ⟨j, hj, hs⟩ := exists_precedes_of_not_ready (mem_remaining.2 ⟨hlt, hdone⟩) hready
    obtain ⟨k, hw⟩ := h.above j hj
    exact ⟨k, hw.snoc hs⟩

/-! ## Runs of stages -/

theorem ready_sublist (g : DependencyGraph) (done : List Nat) :
    (g.ready done).Sublist (List.range g.size) :=
  List.filter_sublist

/-- The stages of a run: each takes hosts of one depth in their order, and no
    host is missed. -/
theorem stages_of_stagesFrom (h : g.Layered done d)
    (hs : g.stagesFrom done = .ok stages) :
    (∀ k stage, stages[k]? = some stage →
      stage ≠ [] ∧ stage.Sublist (List.range g.size) ∧ ∀ i ∈ stage, g.IsDepth (d + k) i) ∧
    ∀ i ∈ g.remaining done, ∃ stage ∈ stages, i ∈ stage := by
  fun_induction stagesFrom g done generalizing d stages with
  | case1 done hempty =>
    obtain rfl := Except.ok.inj hs
    rw [List.isEmpty_iff] at hempty
    refine ⟨fun k stage hk => ?_, fun i hi => ?_⟩
    · cases hk
    · rw [hempty] at hi
      cases hi
  | case2 => cases hs
  | case3 done hne i rest hready stages' hrec ih =>
    obtain rfl := Except.ok.inj hs
    have hnext := h.append_ready
    rw [hready] at hnext
    obtain ⟨hstages, hall⟩ := ih hnext hrec
    refine ⟨fun k stage hk => ?_, fun j hj => ?_⟩
    · cases k with
      | zero =>
        obtain rfl := Option.some.inj hk
        refine ⟨List.cons_ne_nil i rest, hready ▸ g.ready_sublist done, fun j hj => ?_⟩
        exact h.isDepth (hready ▸ hj)
      | succ k =>
        obtain ⟨hstage, hsub, hdepth⟩ := hstages k stage hk
        refine ⟨hstage, hsub, fun j hj => ?_⟩
        have hd := hdepth j hj
        rwa [Nat.add_assoc, Nat.add_comm 1] at hd
    · by_cases hr : j ∈ i :: rest
      · exact ⟨i :: rest, List.mem_cons_self, hr⟩
      · obtain ⟨hlt, hnot⟩ := mem_remaining.1 hj
        have hleft : j ∈ g.remaining (done ++ i :: rest) :=
          mem_remaining.2 ⟨hlt, fun hm => (List.mem_append.1 hm).elim hnot hr⟩
        obtain ⟨stage, hstage, hm⟩ := hall j hleft
        exact ⟨stage, List.mem_cons_of_mem _ hstage, hm⟩
  | case4 => cases hs

end DependencyGraph

/-! ## Schedules -/

/-- The name stands in the stage number `k` and in no other one. -/
def Schedule.Places (p : Schedule) (hostname : String) (k : Nat) : Prop :=
  ∀ l, (∃ stage, p.stages[l]? = some stage ∧ hostname ∈ stage) ↔ l = k

theorem Schedule.Places.stageOf?_eq {p : Schedule} {hostname : String} {k : Nat}
    (h : p.Places hostname k) : p.stageOf? hostname = some k := by
  obtain ⟨stage, hstage, hm⟩ := (h k).2 rfl
  obtain ⟨hlt, rfl⟩ := List.getElem?_eq_some_iff.1 hstage
  refine List.findIdx?_eq_some_iff_getElem.2 ⟨hlt, List.contains_iff_mem.2 hm, fun l hl hc => ?_⟩
  have hk := (h l).1 ⟨_, List.getElem?_eq_getElem (hl.trans hlt), List.contains_iff_mem.1 hc⟩
  omega

namespace DependencyGraph

variable {g : DependencyGraph} {p : Schedule} {i j : Nat}

theorem hostname_eq (g : DependencyGraph) (hi : i < g.hosts.length) : g.hostname i = g.hosts[i] := by
  rw [hostname, List.getD_eq_getElem?_getD, List.getElem?_eq_getElem hi, Option.getD_some]

theorem map_hostname_range (g : DependencyGraph) : (List.range g.size).map g.hostname = g.hosts := by
  refine List.ext_getElem (by simp [size]) fun i _ hi => ?_
  rw [List.getElem_map, List.getElem_range, g.hostname_eq hi]

theorem hostname_inj (hn : g.hosts.Nodup) (hi : i < g.size) (hj : j < g.size)
    (h : g.hostname i = g.hostname j) : i = j := by
  rw [g.hostname_eq hi, g.hostname_eq hj] at h
  exact (List.Nodup.getElem_inj_iff hn).1 h

theorem schedule_eq_ok :
    g.schedule = .ok p ↔
      ∃ stages, g.stagesFrom [] = .ok stages ∧ p = ⟨stages.map (·.map g.hostname)⟩ := by
  rw [schedule_eq]
  cases g.stagesFrom [] with
  | ok stages => simp [eq_comm]
  | error members => simp

theorem stage_of_schedule (hp : g.schedule = .ok p) {stage : List String}
    (hm : stage ∈ p.stages) : stage ≠ [] ∧ stage.Sublist g.hosts := by
  obtain ⟨stages, hs, rfl⟩ := schedule_eq_ok.1 hp
  obtain ⟨numbers, hnumbers, rfl⟩ := List.mem_map.1 hm
  obtain ⟨k, hk⟩ := List.mem_iff_getElem?.1 hnumbers
  obtain ⟨hne, hsub, -⟩ := (stages_of_stagesFrom g.layered_nil hs).1 k numbers hk
  refine ⟨mt List.map_eq_nil_iff.1 hne, ?_⟩
  rw [← g.map_hostname_range]
  exact hsub.map g.hostname

/-- Each host stands in one stage, the number of which is its depth. -/
theorem places_of_schedule (hn : g.hosts.Nodup) (hp : g.schedule = .ok p)
    (hi : i < g.size) : ∃ k, p.Places (g.hostname i) k ∧ g.IsDepth k i := by
  obtain ⟨stages, hs, rfl⟩ := schedule_eq_ok.1 hp
  obtain ⟨hstages, hall⟩ := stages_of_stagesFrom g.layered_nil hs
  obtain ⟨stage, hstage, hm⟩ := hall i (mem_remaining.2 ⟨hi, List.not_mem_nil⟩)
  obtain ⟨k, hk⟩ := List.mem_iff_getElem?.1 hstage
  have hdepth : g.IsDepth k i := by simpa using (hstages k stage hk).2.2 i hm
  refine ⟨k, fun l => ⟨?_, ?_⟩, hdepth⟩
  · rintro ⟨names, hl, hname⟩
    rw [List.getElem?_map, Option.map_eq_some_iff] at hl
    obtain ⟨numbers, hl, rfl⟩ := hl
    obtain ⟨j, hj, he⟩ := List.mem_map.1 hname
    obtain ⟨-, hsub, hd⟩ := hstages l numbers hl
    obtain rfl := hostname_inj hn (List.mem_range.1 (hsub.subset hj)) hi he
    have hdl := hd j hj
    rw [Nat.zero_add] at hdl
    exact hdl.unique hdepth
  · rintro rfl
    exact ⟨stage.map g.hostname, by rw [List.getElem?_map, hk]; rfl, List.mem_map_of_mem hm⟩

end DependencyGraph

namespace Site

variable {s : Site} {p : Schedule}

theorem hostname_dependencies {i : Nat} {h : Host} (hi : s.hosts[i]? = some h) :
    s.dependencies.hostname i = h.hostname := by
  show (s.hosts.map (·.hostname)).getD i "" = h.hostname
  rw [List.getD_eq_getElem?_getD, List.getElem?_map, hi]
  rfl

/-- **The stages of a site** with different names of hosts.  No stage is empty,
    and each keeps the order of the hosts.  Each host stands in one stage, the
    number of which is the length of the longest walk of dependencies that ends
    at it.  So a host stands in a later stage than the ones for which it waits,
    and no host of a stage waits for another one of the stage, not even through
    others. -/
theorem stages_of_schedule (hn : (s.hosts.map (·.hostname)).Nodup)
    (hp : s.dependencies.schedule = .ok p) :
    (∀ stage ∈ p.stages, stage ≠ [] ∧ stage.Sublist (s.hosts.map (·.hostname))) ∧
    (∀ i h, s.hosts[i]? = some h → ∃ k, p.Places h.hostname k ∧
      p.stageOf? h.hostname = some k ∧ s.dependencies.IsDepth k i) ∧
    (∀ g ∈ s.hosts, ∀ h ∈ s.hosts, g ≠ h → g.Runs h ∨ g.Routes s h →
      ∃ k l, p.Places g.hostname k ∧ p.Places h.hostname l ∧ k < l) ∧
    ∀ stage ∈ p.stages, ∀ i j g h, s.hosts[i]? = some g → s.hosts[j]? = some h →
      g.hostname ∈ stage → h.hostname ∈ stage →
        ∀ n, ¬Walk s.dependencies.Precedes (n + 1) i j := by
  have hplace : ∀ i h, s.hosts[i]? = some h →
      ∃ k, p.Places h.hostname k ∧ s.dependencies.IsDepth k i := by
    intro i h hi
    have hlt : i < s.dependencies.size := by
      rw [size_dependencies]
      exact (List.getElem?_eq_some_iff.1 hi).1
    rw [← hostname_dependencies hi]
    exact DependencyGraph.places_of_schedule hn hp hlt
  have hwalk : ∀ i j g h n, s.hosts[i]? = some g → s.hosts[j]? = some h →
      Walk s.dependencies.Precedes (n + 1) i j →
        ∃ k l, p.Places g.hostname k ∧ p.Places h.hostname l ∧ k < l := by
    intro i j g h n hi hj hw
    obtain ⟨k, hk, hdk⟩ := hplace i g hi
    obtain ⟨l, hl, hdl⟩ := hplace j h hj
    exact ⟨k, l, hk, hl, hdk.lt_of_walk hdl hw⟩
  refine ⟨fun stage hm => DependencyGraph.stage_of_schedule hp hm, ?_, ?_, ?_⟩
  · intro i h hi
    obtain ⟨k, hk, hd⟩ := hplace i h hi
    exact ⟨k, hk, hk.stageOf?_eq, hd⟩
  · intro g hg h hh hne hdep
    obtain ⟨i, hi⟩ := List.mem_iff_getElem?.1 hg
    obtain ⟨j, hj⟩ := List.mem_iff_getElem?.1 hh
    have hij : i ≠ j := by
      rintro rfl
      exact hne (Option.some.inj (hi.symm.trans hj))
    exact hwalk i j g h 0 hi hj (.single ((precedes_iff hn hi hj).2 ⟨hij, hdep⟩))
  · intro stage hm i j g h hi hj hig hjh n hw
    obtain ⟨k, l, hk, hl, hlt⟩ := hwalk i j g h n hi hj hw
    obtain ⟨m, hm⟩ := List.mem_iff_getElem?.1 hm
    have h₁ := (hk m).1 ⟨stage, hm, hig⟩
    have h₂ := (hl m).1 ⟨stage, hm, hjh⟩
    omega

/-- A site whose server for addresses is a virtual machine. -/
def virtual : Site where
  name := "home"
  switches := [{
    name := "sw"
    vlans := [{ name := "lan", ipv4Subnet := "10.0.0.0/24" }] }]
  hosts := [
    { hostname := "leases", roles := [.dhcp], isVm := true, vmhost := some "hyper"
      interfaces := [{ switch := some "sw", ipv4 := .fixed "10.0.0.3" }] },
    { hostname := "desk", interfaces := [{ switch := some "sw" }] },
    { hostname := "gw", roles := [.router], interfaces := [{ uplink := some "wan0" }] },
    { hostname := "hyper", roles := [.vmhost], interfaces := [{ switch := some "sw" }] }]

/-- The virtual machine waits for the router and for the host that runs it. -/
theorem virtual_stages :
    (virtual.hosts.map (·.hostname)).Nodup ∧
    virtual.dependencies.schedule = .ok ⟨[["desk", "gw", "hyper"], ["leases"]]⟩ ∧
    virtual.dependencies.IsDepth 1 0 := by
  have hn : (virtual.hosts.map (·.hostname)).Nodup := by decide
  have hp : virtual.dependencies.schedule = .ok ⟨[["desk", "gw", "hyper"], ["leases"]]⟩ := by
    with_unfolding_all decide
  obtain ⟨k, -, hk, hd⟩ := (stages_of_schedule hn hp).2.1 0 _ rfl
  obtain rfl : 1 = k := Option.some.inj hk
  exact ⟨hn, hp, hd⟩

end Site

end NetworkSite
