/-
  The cycles of the hosting relation and the findings on them.

  The walk of the check passes a host more with every step, so it is shorter than
  the list of hosts.  Where names differ, the hosts that it has passed form a
  chain of the relation (`Site.Passed`), and the walk stops at a member of the
  chain with the whole cycle behind it.  As each cycle is kept once, the findings
  are the cycles (`Site.hostingCycles_are_findings`), however many hosts lead to
  them.
-/
import NetworkSite.Data.Cycles
import NetworkSite.Proofs.FindingKinds
import NetworkSite.Proofs.Hosting
import Mathlib.Data.Multiset.Sort
import Mathlib.Data.Set.Function
import Mathlib.Data.String.Basic

namespace NetworkSite

/-- The names of the members of a cycle, in ascending order. -/
def memberNames (c : Cycle Host) : List String :=
  (c.toMultiset.map (·.hostname)).sort (· ≤ ·)

theorem mem_memberNames {c : Cycle Host} {name : String} :
    name ∈ memberNames c ↔ ∃ h ∈ c, h.hostname = name := by
  simp only [memberNames, Multiset.mem_sort, Multiset.mem_map, mem_toMultiset]

open Finding

namespace Site

variable {s : Site} {g h : Host} {c : Cycle Host} {n : Nat} {chain names : List String}
  {front : List Host}

/-! ## The walk of the check -/

/-- A step of the walk, at a host and with the names passed on the way: the host
    that runs it is passed next, unless it was passed before. -/
inductive HostingStep (s : Site) : Host × List String → Host × List String → Prop
  | pass {h parent : Host} {chain : List String} : s.vmhost? h = some parent →
      parent.hostname ∉ chain → HostingStep s (h, chain) (parent, chain ++ [parent.hostname])

theorem unpassed_lt_of_hostingStep {x y : Host × List String} (hs : s.HostingStep x y) :
    s.unpassed y.2 < s.unpassed x.2 := by
  obtain ⟨hp, hc⟩ := hs
  exact unpassed_lt hp (by simpa using hc)

theorem add_unpassed_le_of_walk {x y : Host × List String} (hw : Walk s.HostingStep n x y) :
    n + s.unpassed y.2 ≤ s.unpassed x.2 := by
  induction hw with
  | refl => exact (Nat.zero_add _).le
  | snoc _ hs ih =>
    have hlt := unpassed_lt_of_hostingStep hs
    omega

theorem unpassed_lt_length (hh : h ∈ s.hosts) : s.unpassed [h.hostname] < s.hosts.length := by
  refine Nat.lt_of_le_of_ne List.countP_le_length fun he => ?_
  have hall := List.countP_eq_length.1 he h hh
  simp at hall

/-- The members of the cycle that the walk closes at `parent`, in ascending order. -/
def closedBy (chain : List String) (parent : Host) : List String :=
  (chain.dropWhile (· != parent.hostname)).mergeSort fun a b => decide (a ≤ b)

/-- The walk stops, and it is the stop that decides what is found. -/
theorem exists_stop (s : Site) (h : Host) (chain : List String) :
    ∃ n last, Walk s.HostingStep n (h, chain) last ∧ (∀ x, ¬s.HostingStep last x) ∧
      s.hostingCycle? h chain = (s.vmhost? last.1).map (closedBy last.2) := by
  fun_induction hostingCycle? s h chain with
  | case1 h chain hp =>
    refine ⟨0, _, .refl _, ?_, by rw [hp, Option.map_none]⟩
    rintro _ ⟨hp', -⟩
    cases hp.symm.trans hp'
  | case2 h chain parent hp hc =>
    refine ⟨0, _, .refl _, ?_, by rw [hp, Option.map_some, closedBy]⟩
    rintro _ ⟨hp', hn⟩
    obtain rfl := Option.some.inj (hp.symm.trans hp')
    exact hn (List.contains_iff_mem.1 hc)
  | case3 h chain parent hp hc ih =>
    obtain ⟨n, last, hw, hstop, he⟩ := ih
    exact ⟨n + 1, last, .cons (.pass hp fun hm => hc (List.contains_iff_mem.2 hm)) hw, hstop, he⟩

/-! ## Hosts in chains and cycles -/

theorem mem_hosts_of_runsOn (hr : s.RunsOn h g) : g ∈ s.hosts := by
  obtain ⟨name, -, hg⟩ := Option.bind_eq_some_iff.1 hr
  exact List.mem_of_find?_eq_some hg

theorem rightUnique_runsOn (s : Site) : Relator.RightUnique s.RunsOn :=
  fun _ _ _ h h' => Option.some.inj (h.symm.trans h')

theorem mem_hosts_of_mem_cycle (hc : IsCycleOf s.RunsOn c) (hg : g ∈ c) : g ∈ s.hosts := by
  obtain ⟨n, hw⟩ := hc.onCycle hg
  obtain ⟨h, -, hr⟩ := hw.exists_last
  exact mem_hosts_of_runsOn hr

/-- The hosts that a walk has passed, `h` the last of them. -/
structure Passed (s : Site) (front : List Host) (h : Host) : Prop where
  mem_hosts : ∀ g ∈ front ++ [h], g ∈ s.hosts
  nodup : ((front ++ [h]).map (·.hostname)).Nodup
  isChain : List.IsChain s.RunsOn (front ++ [h])

theorem passed_start (hh : h ∈ s.hosts) : s.Passed [] h where
  mem_hosts := List.forall_mem_singleton.2 hh
  nodup := List.nodup_singleton _
  isChain := .singleton h

theorem Passed.step (hf : s.Passed front h) (hr : s.RunsOn h g)
    (hg : g.hostname ∉ (front ++ [h]).map (·.hostname)) : s.Passed (front ++ [h]) g where
  mem_hosts x hx := by
    rcases List.mem_append.1 hx with hx | hx
    · exact hf.mem_hosts x hx
    · exact List.mem_singleton.1 hx ▸ mem_hosts_of_runsOn hr
  nodup := by
    rw [List.map_append, List.map_singleton, List.nodup_append]
    refine ⟨hf.nodup, List.nodup_singleton _, fun x hx y hy he => hg ?_⟩
    rw [← List.mem_singleton.1 hy, ← he]
    exact hx
  isChain := by
    rw [List.append_assoc, List.singleton_append, List.isChain_split]
    exact ⟨hf.isChain, List.isChain_pair.2 hr⟩

theorem dropWhile_hostnames {back : List Host}
    (hd : ((front ++ g :: back).map (·.hostname)).Nodup) :
    ((front ++ g :: back).map (·.hostname)).dropWhile (· != g.hostname) =
      (g :: back).map (·.hostname) := by
  rw [List.map_append, List.map_cons, List.nodup_append] at hd
  rw [List.map_append, List.map_cons, List.dropWhile_append_of_pos, List.dropWhile_cons_of_neg]
  · simp
  · intro name hname
    simpa using hd.2.2 name hname g.hostname List.mem_cons_self

section DifferentNames

variable (hn : (s.hosts.map (·.hostname)).Nodup)

include hn

/-- Where the walk comes back to a host it passed, it has passed a cycle. -/
theorem Passed.exists_cycle (hf : s.Passed front h) (hr : s.RunsOn h g)
    (hg : g.hostname ∈ (front ++ [h]).map (·.hostname)) :
    ∃ c, IsCycleOf s.RunsOn c ∧ g ∈ c ∧
      closedBy ((front ++ [h]).map (·.hostname)) g = memberNames c := by
  obtain ⟨x, hx, hname⟩ := List.mem_map.1 hg
  obtain rfl := eq_of_key_eq hn (hf.mem_hosts x hx) (mem_hosts_of_runsOn hr) hname
  obtain ⟨before, back, heq⟩ := List.append_of_mem hx
  obtain ⟨init, hinit, -⟩ := (List.suffix_concat_iff.1 ⟨before, heq.symm⟩).resolve_left nofun
  have hnodup := heq ▸ hf.nodup
  have hsteps : List.IsChain s.RunsOn (x :: back) := (heq ▸ hf.isChain).right_of_append
  have hmembers : (x :: back).Nodup :=
    .of_map _ (List.nodup_append.1 (List.map_append ▸ hnodup)).2.1
  -- The last of the members is `h`, which runs on the first.
  have hring : List.IsChain s.RunsOn (x :: (back ++ [x])) := by
    rw [hinit] at hsteps
    rw [← List.cons_append, hinit, List.append_assoc, List.singleton_append, List.isChain_split]
    exact ⟨hsteps, List.isChain_pair.2 hr⟩
  refine ⟨_, isCycleOf_cons hmembers hring, Cycle.mem_coe_iff.2 List.mem_cons_self, ?_⟩
  rw [closedBy, heq, dropWhile_hostnames hnodup]
  rfl

/-- What the walk finds is a cycle to which it leads. -/
theorem exists_cycle_of_hostingCycle? (hf : s.Passed front h)
    (he : s.hostingCycle? h ((front ++ [h]).map (·.hostname)) = some names) :
    ∃ c, IsCycleOf s.RunsOn c ∧ memberNames c = names ∧ ∃ g ∈ c, ∃ n, Walk s.RunsOn n h g := by
  generalize hchain : (front ++ [h]).map (·.hostname) = chain at he
  -- By the recursion of the walk; what it has passed is a chain at every step.
  fun_induction hostingCycle? s h chain generalizing front with
  | case1 h chain hp => cases he
  | case2 h chain parent hp hc =>
    subst hchain
    obtain ⟨c, hcycle, hm, hnames⟩ := hf.exists_cycle hn hp (List.contains_iff_mem.1 hc)
    exact ⟨c, hcycle, hnames.symm.trans (Option.some.inj he), parent, hm, 1, .single hp⟩
  | case3 h chain parent hp hc ih =>
    subst hchain
    have hstep := hf.step hp fun hm => hc (List.contains_iff_mem.2 hm)
    obtain ⟨c, hcycle, hnames, g, hg, n, hw⟩ := ih hstep List.map_append he
    exact ⟨c, hcycle, hnames, g, hg, n + 1, .cons hp hw⟩

theorem exists_cycle_of_onCycle (hh : h ∈ s.hosts) (hc : OnCycle s.RunsOn h) :
    ∃ c, IsCycleOf s.RunsOn c ∧ h ∈ c ∧ s.hostingCycle? h [h.hostname] = some (memberNames c) := by
  obtain ⟨names, he⟩ := Option.ne_none_iff_exists'.1 (hostingCycle?_ne_none hc [h.hostname])
  obtain ⟨c, hcycle, rfl, g, hg, n, hw⟩ := exists_cycle_of_hostingCycle? hn (passed_start hh) he
  exact ⟨c, hcycle, hcycle.mem_of_onCycle s.rightUnique_runsOn hc hw hg, he⟩

/-! ## Findings -/

theorem injOn_memberNames : Set.InjOn memberNames {c | IsCycleOf s.RunsOn c} := by
  intro c hc c' hc' he
  obtain ⟨g, hg⟩ := hc.exists_mem
  have hname : g.hostname ∈ memberNames c' := he ▸ mem_memberNames.2 ⟨g, hg, rfl⟩
  obtain ⟨g', hg', heq⟩ := mem_memberNames.1 hname
  obtain rfl := eq_of_key_eq hn (mem_hosts_of_mem_cycle hc' hg') (mem_hosts_of_mem_cycle hc hg) heq
  exact hc.eq_of_mem s.rightUnique_runsOn hc' hg hg'

theorem bijOn_memberNames :
    Set.BijOn memberNames {c | IsCycleOf s.RunsOn c} {names | .hostingCycle names ∈ s.findings} := by
  refine ⟨fun c hc => ?_, injOn_memberNames hn, fun names hnames => ?_⟩
  · obtain ⟨h, hh⟩ := hc.exists_mem
    have hmem := mem_hosts_of_mem_cycle hc hh
    obtain ⟨c', hc', hh', he⟩ := exists_cycle_of_onCycle hn hmem (hc.onCycle hh)
    obtain rfl := hc.eq_of_mem s.rightUnique_runsOn hc' hh hh'
    exact hostingCycle_mem_findings.2 ⟨h, hmem, he⟩
  · obtain ⟨h, hh, he⟩ := hostingCycle_mem_findings.1 hnames
    obtain ⟨c, hc, hnames, -⟩ := exists_cycle_of_hostingCycle? hn (passed_start hh) he
    exact ⟨c, hc, hnames⟩

theorem onCycle_iff_mem_cycle (hh : h ∈ s.hosts) :
    OnCycle s.RunsOn h ↔ ∃ names, .hostingCycle names ∈ s.findings ∧ h.hostname ∈ names := by
  constructor
  · intro hc
    obtain ⟨c, -, hmem, he⟩ := exists_cycle_of_onCycle hn hh hc
    exact ⟨_, hostingCycle_mem_findings.2 ⟨h, hh, he⟩, mem_memberNames.2 ⟨h, hmem, rfl⟩⟩
  · rintro ⟨names, hnames, hname⟩
    obtain ⟨c, hc, rfl⟩ := (bijOn_memberNames hn).surjOn hnames
    obtain ⟨g, hg, heq⟩ := mem_memberNames.1 hname
    obtain rfl := eq_of_key_eq hn (mem_hosts_of_mem_cycle hc hg) hh heq
    exact hc.onCycle hg

theorem pairwise_memberNames (hc : IsCycleOf s.RunsOn c) : (memberNames c).Pairwise (· < ·) := by
  have hnodup : (memberNames c).Nodup := by
    rw [← Multiset.coe_nodup, memberNames, Multiset.sort_eq]
    refine Multiset.Nodup.map_on (fun g hg h hh he => ?_) hc.nodup_toMultiset
    exact eq_of_key_eq hn (mem_hosts_of_mem_cycle hc (mem_toMultiset.1 hg))
      (mem_hosts_of_mem_cycle hc (mem_toMultiset.1 hh)) he
  have hsorted : (memberNames c).Pairwise (· ≤ ·) := Multiset.pairwise_sort _ _
  exact (hsorted.and hnodup).imp fun h => lt_of_le_of_ne h.1 h.2

end DifferentNames

/-- **The findings on cycles are the cycles.**  The walk from a host makes fewer
    steps than there are hosts, and it is the stop that decides what is found.
    Where names differ, the cycles of the hosting relation correspond to the
    findings, each of which stands once and names exactly the members in
    ascending order; a host on no cycle is named by none of them. -/
theorem hostingCycles_are_findings (s : Site) :
    (∀ h ∈ s.hosts,
      (∀ n last, Walk s.HostingStep n (h, [h.hostname]) last → n < s.hosts.length) ∧
      ∃ n last, Walk s.HostingStep n (h, [h.hostname]) last ∧ (∀ x, ¬s.HostingStep last x) ∧
        s.hostingCycle? h [h.hostname] = (s.vmhost? last.1).map (closedBy last.2)) ∧
    ((s.hosts.map (·.hostname)).Nodup →
      (s.findings.filterMap (·.cycle?)).Nodup ∧
      Set.BijOn memberNames {c | IsCycleOf s.RunsOn c} {names | .hostingCycle names ∈ s.findings} ∧
      (∀ names, .hostingCycle names ∈ s.findings → names.Pairwise (· < ·)) ∧
      (∀ h ∈ s.hosts, OnCycle s.RunsOn h ↔
        ∃ names, .hostingCycle names ∈ s.findings ∧ h.hostname ∈ names) ∧
      ((∀ h ∈ s.hosts, ¬OnCycle s.RunsOn h) → s.findings.filterMap (·.cycle?) = [])) := by
  refine ⟨fun h hh => ⟨fun n last hw => ?_, s.exists_stop h _⟩, fun hn => ⟨?_, bijOn_memberNames hn,
    fun names hnames => ?_, fun h hh => onCycle_iff_mem_cycle hn hh, fun hnone => ?_⟩⟩
  · have hle := add_unpassed_le_of_walk hw
    have hlt := unpassed_lt_length hh
    exact Nat.lt_of_le_of_lt ((Nat.le_add_right _ _).trans hle) hlt
  · rw [filterMap_cycle?_findings]
    exact nodup_firstOccurrences _
  · obtain ⟨c, hc, rfl⟩ := (bijOn_memberNames hn).surjOn hnames
    exact pairwise_memberNames hn hc
  · refine List.eq_nil_iff_forall_not_mem.2 fun names hnames => ?_
    obtain ⟨c, hc, -⟩ := (bijOn_memberNames hn).surjOn (mem_filterMap_cycle?.1 hnames)
    obtain ⟨g, hg⟩ := hc.exists_mem
    exact hnone g (mem_hosts_of_mem_cycle hc hg) (hc.onCycle hg)

/-- A virtual machine and the host that it names. -/
def guest (hostname vmhost : String) : Host where
  hostname := hostname
  isVm := true
  vmhost := some vmhost

/-- A site with a host that runs itself and two hosts that run each other; others
    lead to them. -/
def carousel : Site where
  name := "home"
  domain := "example.net"
  switches := [{
    name := "sw"
    vlans := [{ name := "lan", ipv4Subnet := "10.0.0.0/24" }] }]
  hosts := [guest "tail" "nested", guest "nested" "west", guest "visitor" "east", guest "west" "east",
    guest "solo" "solo", guest "east" "west", { hostname := "desk" }]

/-- Both cycles are found, with the names in ascending order. -/
theorem carousel_cycles : (carousel.hosts.map (·.hostname)).Nodup ∧
    .hostingCycle ["east", "west"] ∈ carousel.findings ∧
    .hostingCycle ["solo"] ∈ carousel.findings := by
  have hn : (carousel.hosts.map (·.hostname)).Nodup := by decide
  have hring : IsCycleOf carousel.RunsOn ↑[guest "west" "east", guest "east" "west"] :=
    isCycleOf_cons (by simp [guest]) (.cons_cons rfl (.cons_cons rfl (.singleton _)))
  have hself : IsCycleOf carousel.RunsOn ↑[guest "solo" "solo"] :=
    isCycleOf_cons (List.nodup_singleton _) (.cons_cons rfl (.singleton _))
  have hmaps := ((hostingCycles_are_findings carousel).2 hn).2.1.mapsTo
  have hnames : memberNames ↑[guest "west" "east", guest "east" "west"] = ["east", "west"] := by
    simp [memberNames, guest, List.mergeSort, List.MergeSort.Internal.splitInTwo]
  have hname : memberNames ↑[guest "solo" "solo"] = ["solo"] := by simp [memberNames, guest]
  exact ⟨hn, hnames ▸ hmaps hring, hname ▸ hmaps hself⟩

end Site

end NetworkSite
