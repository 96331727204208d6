/-
  Hosts that wait for each other.

  When no host is ready, those that are left are the ones to which a walk leads
  from a cycle (`DependencyGraph.mem_remaining_iff`).  Of these, dropping hosts
  for which nobody waits leaves the ones from which a walk leads to a cycle
  (`mem_cycleMembers_iff`).  So exactly the hosts on cycles and between them are
  reported (`Site.schedule_cycles`).
-/
import NetworkSite.Proofs.BuildStages

namespace NetworkSite

namespace DependencyGraph

variable {g : DependencyGraph} {done alive members : List Nat} {d i : Nat}

/-- The host is behind a cycle, or on it. -/
def BehindCycle (g : DependencyGraph) (i : Nat) : Prop :=
  ∃ j n, OnCycle g.Precedes j ∧ Walk g.Precedes n j i

/-- The host is in front of a cycle, or on it. -/
def BeforeCycle (g : DependencyGraph) (i : Nat) : Prop :=
  ∃ k n, Walk g.Precedes n i k ∧ OnCycle g.Precedes k

/-! ## Hosts that nobody awaits -/

theorem mem_awaited : i ∈ g.awaited alive ↔ i ∈ alive ∧ ∃ j ∈ alive, g.Precedes i j := by
  simp only [awaited, List.mem_filter, List.any_eq_true, Bool.and_eq_true, beq_iff_eq,
    List.contains_iff_mem]
  refine and_congr_right fun _ => ⟨?_, ?_⟩
  · rintro ⟨e, he, hb, ha⟩
    exact ⟨e.after, ha, e, he, hb, rfl⟩
  · rintro ⟨j, hj, e, he, hb, rfl⟩
    exact ⟨e, he, hb, hj⟩

theorem awaited_sublist (g : DependencyGraph) (alive : List Nat) : (g.awaited alive).Sublist alive :=
  List.filter_sublist

theorem cycleMembers_sublist (g : DependencyGraph) (alive : List Nat) :
    (g.cycleMembers alive).Sublist alive := by
  fun_induction cycleMembers g alive with
  | case1 alive _ ih => exact ih.trans (g.awaited_sublist alive)
  | case2 alive _ => exact List.Sublist.refl alive

theorem exists_of_mem_cycleMembers (hi : i ∈ g.cycleMembers alive) :
    ∃ j ∈ g.cycleMembers alive, g.Precedes i j := by
  fun_induction cycleMembers g alive with
  | case1 alive _ ih => exact ih hi
  | case2 alive hlt =>
    have heq : g.awaited alive = alive :=
      (g.awaited_sublist alive).eq_of_length_le (Nat.le_of_not_lt hlt)
    rw [← heq] at hi
    exact (mem_awaited.1 hi).2

/-- Hosts are left if for each of them one of them waits. -/
theorem mem_cycleMembers_of_forall {p : Nat → Prop} (hp : ∀ i, p i → i ∈ alive)
    (hnext : ∀ i, p i → ∃ j, p j ∧ g.Precedes i j) (hi : p i) : i ∈ g.cycleMembers alive := by
  fun_induction cycleMembers g alive with
  | case1 alive _ ih =>
    refine ih fun i hi => mem_awaited.2 ⟨hp i hi, ?_⟩
    obtain ⟨j, hj, hs⟩ := hnext i hi
    exact ⟨j, hp j hj, hs⟩
  | case2 alive _ => exact hp i hi

/-- Of hosts among which all are that wait for one of them, those are left from
    which a walk leads to a cycle. -/
theorem mem_cycleMembers_iff (hclosed : ∀ i ∈ alive, ∀ j, g.Precedes i j → j ∈ alive) :
    i ∈ g.cycleMembers alive ↔ i ∈ alive ∧ g.BeforeCycle i := by
  constructor
  · intro hi
    obtain ⟨k, n, hw, hk⟩ := exists_onCycle (fun i => exists_of_mem_cycleMembers) hi
    exact ⟨(g.cycleMembers_sublist alive).subset hi, k, n, hw, hk⟩
  · refine mem_cycleMembers_of_forall (p := fun i => i ∈ alive ∧ g.BeforeCycle i)
      (fun i hi => hi.1) fun i hi => ?_
    obtain ⟨ha, k, n, hw, hk⟩ := hi
    cases n with
    | zero =>
      obtain rfl := hw.eq_of_zero
      obtain ⟨j, hs, hj, -⟩ := hk.exists_next
      exact ⟨j, ⟨hclosed i ha j hs, j, 0, .refl j, hj⟩, hs⟩
    | succ n =>
      obtain ⟨j, hs, hw⟩ := hw.exists_first
      exact ⟨j, ⟨hclosed i ha j hs, k, n, hw, hk⟩, hs⟩

/-! ## Hosts that are left when none is ready -/

theorem BehindCycle.lt (h : g.BehindCycle i) : i < g.size := by
  obtain ⟨j, n, hj, hw⟩ := h
  cases n with
  | zero => exact hw.eq_of_zero ▸ lt_of_onCycle hj
  | succ n =>
    obtain ⟨k, -, hs⟩ := hw.exists_last
    exact hs.after_lt

theorem mem_remaining_iff (h : g.Layered done d) (hready : g.ready done = []) :
    i ∈ g.remaining done ↔ g.BehindCycle i := by
  constructor
  · intro hi
    have hback : ∀ i ∈ g.remaining done, ∃ j ∈ g.remaining done, g.Precedes j i := by
      intro i hi
      refine exists_precedes_of_not_ready hi ?_
      rw [hready]
      exact List.not_mem_nil
    obtain ⟨j, n, hw, hj⟩ := exists_onCycle (r := fun a b => g.Precedes b a) hback hi
    exact ⟨j, n, hj.reverse, hw.of_reverse⟩
  · intro hi
    refine mem_remaining.2 ⟨hi.lt, fun hdone => ?_⟩
    -- Walks that end at a host that is done are short, but a cycle makes long ones.
    obtain ⟨j, n, hj, hw⟩ := hi
    obtain ⟨m, hm, hc⟩ := hj.exists_long d
    have hlt := h.below i hdone _ j (hc.trans hw)
    omega

/-- A run of stages that fails has done all that it can. -/
theorem exists_of_stagesFrom_eq_error (h : g.Layered done d)
    (hs : g.stagesFrom done = .error members) :
    ∃ done' d', g.Layered done' d' ∧ g.ready done' = [] ∧ g.remaining done' ≠ [] ∧
      members = g.cycleMembers (g.remaining done') := by
  fun_induction stagesFrom g done generalizing d members with
  | case1 => cases hs
  | case2 done hne hready =>
    obtain rfl := Except.error.inj hs
    exact ⟨done, d, h, hready, mt List.isEmpty_iff.2 hne, rfl⟩
  | case3 => cases hs
  | case4 done hne i rest hready members' hrec ih =>
    obtain rfl := Except.error.inj hs
    have hnext := h.append_ready
    rw [hready] at hnext
    exact ih hnext hrec

/-- The hosts that a run of stages reports. -/
theorem members_of_stagesFrom (hs : g.stagesFrom [] = .error members) :
    members ≠ [] ∧ members.Sublist (List.range g.size) ∧
      ∀ i, i ∈ members ↔ g.BehindCycle i ∧ g.BeforeCycle i := by
  obtain ⟨done, d, h, hready, hne, rfl⟩ := exists_of_stagesFrom_eq_error g.layered_nil hs
  have hclosed : ∀ i ∈ g.remaining done, ∀ j, g.Precedes i j → j ∈ g.remaining done := by
    intro i hi j hij
    rw [mem_remaining_iff h hready] at hi ⊢
    obtain ⟨k, n, hk, hw⟩ := hi
    exact ⟨k, n + 1, hk, hw.snoc hij⟩
  have hmem : ∀ i, i ∈ g.cycleMembers (g.remaining done) ↔ g.BehindCycle i ∧ g.BeforeCycle i :=
    fun i => by rw [mem_cycleMembers_iff hclosed, mem_remaining_iff h hready]
  refine ⟨?_, (g.cycleMembers_sublist _).trans List.filter_sublist, hmem⟩
  obtain ⟨i, hi⟩ := List.exists_mem_of_ne_nil _ hne
  obtain ⟨j, -, hj, -⟩ := (mem_remaining_iff h hready).1 hi
  have hm := (hmem j).2 ⟨⟨j, 0, hj, .refl j⟩, j, 0, .refl j, hj⟩
  exact List.ne_nil_of_mem hm

theorem not_onCycle_of_stagesFrom {stages : List (List Nat)}
    (hs : g.stagesFrom [] = .ok stages) : ¬OnCycle g.Precedes i := by
  intro hi
  obtain ⟨hstages, hall⟩ := stages_of_stagesFrom g.layered_nil hs
  obtain ⟨stage, hstage, hm⟩ := hall i (mem_remaining.2 ⟨lt_of_onCycle hi, List.not_mem_nil⟩)
  obtain ⟨k, hk⟩ := List.mem_iff_getElem?.1 hstage
  exact not_isDepth_of_onCycle hi (.refl i) ((hstages k stage hk).2.2 i hm)

theorem schedule_eq_error {names : List String} :
    g.schedule = .error names ↔
      ∃ members, g.stagesFrom [] = .error members ∧ names = members.map g.hostname := by
  rw [schedule_eq]
  cases g.stagesFrom [] with
  | ok stages => simp
  | error members => simp [eq_comm]

end DependencyGraph

namespace Site

/-- **Cycles of dependencies.**  A site has no stages exactly if hosts wait for
    each other in a cycle.  The names of hosts that are then reported, in the
    order of the hosts, are those on a cycle or on a walk from one cycle to
    another. -/
theorem schedule_cycles (s : Site) :
    ((∃ names, s.dependencies.schedule = .error names) ↔
      ∃ i, OnCycle s.dependencies.Precedes i) ∧
    ∀ names, s.dependencies.schedule = .error names →
      ∃ members, names = members.map s.dependencies.hostname ∧ members ≠ [] ∧
        members.Sublist (List.range s.hosts.length) ∧
        ∀ i, i ∈ members ↔ OnCycle s.dependencies.Precedes i ∨
          ∃ j k m n, OnCycle s.dependencies.Precedes j ∧ OnCycle s.dependencies.Precedes k ∧
            Walk s.dependencies.Precedes m j i ∧ Walk s.dependencies.Precedes n i k := by
  refine ⟨⟨?_, ?_⟩, ?_⟩
  · rintro ⟨names, h⟩
    obtain ⟨members, hs, -⟩ := DependencyGraph.schedule_eq_error.1 h
    obtain ⟨hne, -, hmem⟩ := DependencyGraph.members_of_stagesFrom hs
    obtain ⟨i, hi⟩ := List.exists_mem_of_ne_nil _ hne
    obtain ⟨j, -, hj, -⟩ := ((hmem i).1 hi).1
    exact ⟨j, hj⟩
  · rintro ⟨i, hi⟩
    cases hs : s.dependencies.stagesFrom [] with
    | ok stages => exact absurd hi (DependencyGraph.not_onCycle_of_stagesFrom hs)
    | error members => exact ⟨_, DependencyGraph.schedule_eq_error.2 ⟨members, hs, rfl⟩⟩
  · intro names h
    obtain ⟨members, hs, rfl⟩ := DependencyGraph.schedule_eq_error.1 h
    obtain ⟨hne, hsub, hmem⟩ := DependencyGraph.members_of_stagesFrom hs
    rw [size_dependencies] at hsub
    refine ⟨members, rfl, hne, hsub, fun i => (hmem i).trans ⟨?_, ?_⟩⟩
    · rintro ⟨⟨j, m, hj, hm⟩, k, n, hn, hk⟩
      exact .inr ⟨j, k, m, n, hj, hk, hm, hn⟩
    · rintro (hi | ⟨j, k, m, n, hj, hk, hm, hn⟩)
      · exact ⟨⟨i, 0, hi, .refl i⟩, i, 0, .refl i, hi⟩
      · exact ⟨⟨j, m, hj, hm⟩, k, n, hn, hk⟩

/-- A site whose router is a virtual machine on the host that serves addresses
    through it. -/
def entangled : Site where
  name := "home"
  domain := "example.net"
  switches := [{
    name := "sw"
    vlans := [{ name := "lan", ipv4Subnet := "10.0.0.0/24" }] }]
  hosts := [
    { hostname := "hyper", roles := [.vmhost, .dhcp]
      interfaces := [{ switch := some "sw", ipv4 := .fixed "10.0.0.2" }] },
    { hostname := "gw", roles := [.router], isVm := true, vmhost := some "hyper"
      interfaces := [{ uplink := some "wan0" }] },
    { hostname := "guest", isVm := true, vmhost := some "hyper"
      interfaces := [{ switch := some "sw" }] },
    { hostname := "desk", interfaces := [{ switch := some "sw" }] }]

/-- The guest only waits for the cycle and is not reported. -/
theorem entangled_cycle : entangled.dependencies.schedule = .error ["hyper", "gw"] ∧
    ∃ i, OnCycle entangled.dependencies.Precedes i := by
  have hs : entangled.dependencies.schedule = .error ["hyper", "gw"] := by with_unfolding_all decide
  exact ⟨hs, (schedule_cycles entangled).1.1 ⟨_, hs⟩⟩

end Site

end NetworkSite
