/-
  The dependencies of a site, as a relation between its hosts.

  * `Site.mem_edges`: which dependencies a host has, whatever the names.
  * `DependencyGraph.Precedes`: one host is built right before another;
    `DependencyGraph.IsDepth`: the longest walk that ends at a host.
  * `Site.precedes_iff`: where the names of hosts differ, a host waits for the
    one that runs it and, if it is a server on a routable vlan, for the routers.
-/
import NetworkSite.BuildOrder.Schedule
import NetworkSite.Data.Walk

namespace NetworkSite

/-! ## Graphs -/

namespace DependencyGraph

variable {g : DependencyGraph} {m n i j : Nat}

/-- The host number `i` is built right before the host number `j`. -/
def Precedes (g : DependencyGraph) (i j : Nat) : Prop :=
  ∃ e ∈ g.edges, e.before = i ∧ e.after = j

theorem Precedes.before_lt (h : g.Precedes i j) : i < g.size := by
  obtain ⟨e, he, rfl, -⟩ := h
  exact g.before_lt e he

theorem Precedes.after_lt (h : g.Precedes i j) : j < g.size := by
  obtain ⟨e, he, -, rfl⟩ := h
  exact g.after_lt e he

theorem lt_of_onCycle (h : OnCycle g.Precedes i) : i < g.size := by
  obtain ⟨j, hs, -⟩ := h.exists_next
  exact hs.before_lt

/-- The longest walk that ends at the host number `i` has `n` steps. -/
def IsDepth (g : DependencyGraph) (n i : Nat) : Prop :=
  (∃ j, Walk g.Precedes n j i) ∧ ∀ m j, Walk g.Precedes m j i → m ≤ n

theorem IsDepth.unique (h : g.IsDepth m i) (h' : g.IsDepth n i) : m = n := by
  obtain ⟨⟨j, hj⟩, hm⟩ := h
  obtain ⟨⟨k, hk⟩, hn⟩ := h'
  have h₁ := hm n k hk
  have h₂ := hn m j hj
  omega

theorem IsDepth.lt_of_walk (h : g.IsDepth m i) (h' : g.IsDepth n j) {k : Nat}
    (hw : Walk g.Precedes (k + 1) i j) : m < n := by
  obtain ⟨⟨l, hl⟩, -⟩ := h
  have hle := h'.2 _ l (hl.trans hw)
  omega

theorem not_isDepth_of_onCycle (h : OnCycle g.Precedes i) (hw : Walk g.Precedes m i j) :
    ¬g.IsDepth n j := by
  intro hd
  obtain ⟨k, hk, hc⟩ := h.exists_long (n + 1)
  have hle := hd.2 _ i (hc.trans hw)
  omega

end DependencyGraph

/-! ## The hosts of a site -/

/-- The host `g` runs the virtual machine `h`. -/
def Host.Runs (g h : Host) : Prop :=
  h.isVm = true ∧ h.vmhost = some g.hostname

/-- The router `g` routes the traffic of the server `h`, which has an interface
    on a routable vlan. -/
def Host.Routes (s : Site) (g h : Host) : Prop :=
  g.hasRole .router = true ∧ (h.hasRole .dns = true ∨ h.hasRole .dhcp = true) ∧
    ∃ i ∈ h.interfaces, i.isUplink = false ∧
      ∃ x, s.interfaceVlan? i = some x ∧ x.2.routable = true

namespace Site

variable {s : Site} {g h : Host} {i j : Nat} {e : Dependency}

theorem isServer_iff : isServer h = true ↔ h.hasRole .dns = true ∨ h.hasRole .dhcp = true := by
  rw [isServer, Bool.or_eq_true]

theorem isRouted_iff : s.isRouted h = true ↔ ∃ i ∈ h.interfaces, i.isUplink = false ∧
    ∃ x, s.interfaceVlan? i = some x ∧ x.2.routable = true := by
  simp only [isRouted, List.any_eq_true, List.mem_filter, Bool.not_eq_true', Option.any_eq_true,
    and_assoc]

theorem mem_needsEdges {n : Needs} {routers : List Nat} {before : Nat} :
    e ∈ n.edges routers before ↔ e.before = before ∧ e.after = n.index ∧ before ≠ n.index ∧
      (e.kind = .hosting ∧ n.vmhost = some before ∨
        e.kind = .routing ∧ n.router = true ∧ before ∈ routers) := by
  obtain ⟨b, a, kind⟩ := e
  unfold Needs.edges
  by_cases hne : before = n.index
  · simp [hne]
  · simp only [hne, if_false, List.mem_append, List.mem_ite_nil_right, List.mem_singleton,
      Dependency.mk.injEq, Bool.and_eq_true, List.contains_iff_mem, not_false_eq_true, true_and,
      ne_eq]
    tauto

/-- The dependencies of a site: a virtual machine waits for the first host with
    the name of its host, and a server on a routable vlan for the routers. -/
theorem mem_edges : e ∈ s.dependencies.edges ↔ e.before < s.hosts.length ∧ e.before ≠ e.after ∧
    ∃ h, s.hosts[e.after]? = some h ∧
      (e.kind = .hosting ∧ h.isVm = true ∧ h.vmhost.bind s.hostIndex? = some e.before ∨
        e.kind = .routing ∧ isServer h = true ∧ s.isRouted h = true ∧
          e.before ∈ s.routerIndices) := by
  simp only [dependencies, dependencyEdges, List.mem_flatMap, List.mem_range, List.mem_map, mem_needsEdges]
  constructor
  · rintro ⟨before, hlt, n, ⟨⟨h, index⟩, hm, rfl⟩, rfl, ha, hne, hk⟩
    rw [List.mk_mem_zipIdx_iff_getElem?] at hm
    dsimp only [Host.needs] at ha hne hk
    subst ha
    refine ⟨hlt, hne, h, hm, ?_⟩
    rcases hk with ⟨hk, hv⟩ | ⟨hk, hr, hb⟩
    · left
      split at hv
      next hvm => exact ⟨hk, hvm, hv⟩
      next => cases hv
    · rw [Bool.and_eq_true] at hr
      exact .inr ⟨hk, hr.1, hr.2, hb⟩
  · rintro ⟨hlt, hne, h, hm, hk⟩
    refine ⟨e.before, hlt, h.needs s e.after,
      ⟨(h, e.after), List.mk_mem_zipIdx_iff_getElem?.2 hm, rfl⟩, rfl, rfl, hne, ?_⟩
    rcases hk with ⟨hk, hvm, hv⟩ | ⟨hk, hs, hr, hb⟩
    · left
      exact ⟨hk, by simpa only [Host.needs, hvm, if_true] using hv⟩
    · exact .inr ⟨hk, by simp only [Host.needs, hs, hr, Bool.and_self], hb⟩

theorem size_dependencies (s : Site) : s.dependencies.size = s.hosts.length :=
  List.length_map _

/-! ## Hosts with different names -/

theorem exists_of_hostIndex? {name : String} (hi : s.hostIndex? name = some i) :
    ∃ g, s.hosts[i]? = some g ∧ g.hostname = name := by
  obtain ⟨hlt, hn, -⟩ := List.idxOf?_eq_some_iff.1 hi
  rw [List.length_map] at hlt
  exact ⟨_, List.getElem?_eq_getElem hlt, by simpa using hn⟩

variable (hn : (s.hosts.map (·.hostname)).Nodup)

include hn

theorem index_unique (hi : s.hosts[i]? = some g) (hj : s.hosts[j]? = some h)
    (he : g.hostname = h.hostname) : i = j := by
  have hi' : (s.hosts.map (·.hostname))[i]? = some g.hostname := by rw [List.getElem?_map, hi]; rfl
  have hj' : (s.hosts.map (·.hostname))[j]? = some g.hostname := by
    rw [List.getElem?_map, hj, he]
    rfl
  obtain ⟨hlt, hi'⟩ := List.getElem?_eq_some_iff.1 hi'
  obtain ⟨hlt', hj'⟩ := List.getElem?_eq_some_iff.1 hj'
  exact (List.Nodup.getElem_inj_iff hn).1 (hi'.trans hj'.symm)

theorem hostIndex?_eq (hi : s.hosts[i]? = some g) : s.hostIndex? g.hostname = some i := by
  have hm : g.hostname ∈ s.hosts.map (·.hostname) :=
    List.mem_map_of_mem (List.mem_of_getElem? hi)
  obtain ⟨j, hj⟩ := Option.isSome_iff_exists.1 (List.isSome_idxOf?.2 hm)
  obtain ⟨h, hh, he⟩ := exists_of_hostIndex? hj
  rw [index_unique hn hi hh he.symm]
  exact hj

theorem mem_routerIndices (hi : s.hosts[i]? = some g) :
    i ∈ s.routerIndices ↔ g.hasRole .router = true := by
  rw [routerIndices, List.mem_filterMap]
  constructor
  · rintro ⟨h, hh, hidx⟩
    obtain ⟨hm, hr⟩ := List.mem_filter.1 hh
    obtain ⟨j, hj⟩ := List.mem_iff_getElem?.1 hm
    rw [hostIndex?_eq hn hj, Option.some.injEq] at hidx
    subst hidx
    rw [hi] at hj
    exact Option.some.inj hj ▸ hr
  · intro hr
    exact ⟨g, List.mem_filter.2 ⟨List.mem_of_getElem? hi, hr⟩, hostIndex?_eq hn hi⟩

theorem runs_iff (hi : s.hosts[i]? = some g) :
    h.isVm = true ∧ h.vmhost.bind s.hostIndex? = some i ↔ g.Runs h := by
  refine and_congr_right fun _ => ?_
  rw [Option.bind_eq_some_iff]
  constructor
  · rintro ⟨name, hv, hidx⟩
    obtain ⟨g', hg', rfl⟩ := exists_of_hostIndex? hidx
    rw [hi, Option.some.injEq] at hg'
    rw [hv, hg']
  · exact fun hv => ⟨g.hostname, hv, hostIndex?_eq hn hi⟩

theorem routes_iff (hi : s.hosts[i]? = some g) :
    isServer h = true ∧ s.isRouted h = true ∧ i ∈ s.routerIndices ↔ g.Routes s h := by
  rw [isServer_iff, isRouted_iff, mem_routerIndices hn hi, Host.Routes]
  tauto

/-- **What a host waits for**: a virtual machine for the host that runs it, and
    a server with an interface on a routable vlan for the routers. -/
theorem precedes_iff (hi : s.hosts[i]? = some g) (hj : s.hosts[j]? = some h) :
    s.dependencies.Precedes i j ↔ i ≠ j ∧ (g.Runs h ∨ g.Routes s h) := by
  have hlt : i < s.hosts.length := (List.getElem?_eq_some_iff.1 hi).1
  have hruns := runs_iff (h := h) hn hi
  have hroutes := routes_iff (h := h) hn hi
  unfold DependencyGraph.Precedes
  simp only [mem_edges]
  constructor
  · rintro ⟨e, ⟨-, hne, h', hh', hk⟩, rfl, rfl⟩
    rw [hj, Option.some.injEq] at hh'
    subst hh'
    exact ⟨hne, hk.imp (fun hk => hruns.1 hk.2) fun hk => hroutes.1 hk.2⟩
  · rintro ⟨hne, hr | hr⟩
    · exact ⟨⟨i, j, .hosting⟩, ⟨hlt, hne, h, hj, .inl ⟨rfl, hruns.2 hr⟩⟩, rfl, rfl⟩
    · exact ⟨⟨i, j, .routing⟩, ⟨hlt, hne, h, hj, .inr ⟨rfl, hroutes.2 hr⟩⟩, rfl, rfl⟩

end Site

end NetworkSite
