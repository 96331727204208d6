/-
  The hosts of a plan and their interfaces on a vlan.

  The names of hosts differ, so that each host of a valid site finds its own
  planned host (`Site.host?_planHosts`).  On a vlan that has its declared
  interfaces there, and if it has none and the vlan is routable, the router has
  the interface of the gateway (`Site.mem_interfaces_iff`).
-/
import NetworkSite.Proofs.Holders
import NetworkSite.Proofs.Placement

namespace NetworkSite

open Finding

namespace Host

variable {s : Site} {host : Host} {vlan : String}

/-- The declared interfaces of a host on the vlan with a name. -/
def interfacesOn (s : Site) (host : Host) (vlan : String) : List Interface :=
  host.interfaces.filter fun i => (s.interfaceVlan? i).any (·.2.name == vlan)

/-! ## Names of interfaces -/

theorem length_namesFrom (n : Nat) (interfaces : List Interface) :
    (namesFrom n interfaces).length = interfaces.length := by
  induction interfaces generalizing n with
  | nil => rfl
  | cons i rest ih =>
    unfold namesFrom
    split
    · rw [List.length_cons, ih, List.length_cons]
    · rw [List.length_cons, ih, List.length_cons]

theorem map_fst_namedInterfaces (host : Host) :
    host.namedInterfaces.map (·.1) = host.interfaceNames :=
  List.map_fst_zip (Nat.le_of_eq (length_namesFrom 0 host.interfaces))

theorem exists_mem_namedInterfaces {i : Interface} (hi : i ∈ host.interfaces) :
    ∃ name, (name, i) ∈ host.namedInterfaces := by
  have hlen : host.interfaces.length ≤ host.interfaceNames.length :=
    Nat.le_of_eq (length_namesFrom 0 _).symm
  have hsnd : i ∈ host.namedInterfaces.map (·.2) := by
    rwa [namedInterfaces, List.map_snd_zip hlen]
  obtain ⟨⟨name, j⟩, hj, rfl⟩ := List.mem_map.1 hsnd
  exact ⟨name, hj⟩

end Host

namespace Site

variable {s : Site} {host router : Host} {x : Switch × Vlan} {w : PlannedVlan}
  {i : PlannedInterface}

/-! ## Names of hosts -/

theorem host?_planHosts (h : s.findings = []) {p : AddressPlan} (hp : p.hosts = s.planHosts)
    (hh : host ∈ s.hosts) : p.host? host.hostname = some (s.planHost s.outlines host) := by
  have hnodup : (s.planHosts.map (·.hostname)).Nodup := by
    rw [planHosts, List.map_map]
    exact nodup_hostnames h
  rw [AddressPlan.host?, hp]
  exact find?_key_eq (a := s.planHost s.outlines host) hnodup (List.mem_map_of_mem hh)

/-- A valid site has one host at most with the role of router. -/
theorem isRouter_eq_hasRole (h : s.findings = []) (hh : host ∈ s.hosts) :
    s.isRouter host = host.hasRole .router := by
  have hf := (findings_eq_nil.1 h).2.2.2.1
  simp only [hostFindings, List.append_eq_nil_iff, forbid_eq_nil, decide_eq_false_iff_not] at hf
  rw [isRouter, router?]
  cases hr : s.hostsWithRole .router with
  | nil =>
    have hno := List.filter_eq_nil_iff.1 hr host hh
    simpa using hno
  | cons router rest =>
    obtain rfl : rest = [] := by
      rw [hr, List.length_cons] at hf
      exact List.eq_nil_of_length_eq_zero (by omega)
    have hm : router ∈ s.hostsWithRole .router := by rw [hr]; exact List.mem_singleton_self _
    obtain ⟨hmem, hrole⟩ := List.mem_filter.1 hm
    rw [List.head?_cons, Option.any_some, Bool.eq_iff_iff, beq_iff_eq]
    constructor
    · intro he
      rw [← eq_of_key_eq (nodup_hostnames h) hmem hh he]
      exact hrole
    · intro hrole'
      have : host ∈ s.hostsWithRole .router := List.mem_filter.2 ⟨hh, hrole'⟩
      rw [hr, List.mem_singleton] at this
      rw [this]

theorem exists_router? (hh : host ∈ s.hosts) (hr : host.hasRole .router = true) :
    ∃ router, s.router? = some router := by
  have hm : host ∈ s.hostsWithRole .router := List.mem_filter.2 ⟨hh, hr⟩
  obtain ⟨router, rest, he⟩ := List.exists_cons_of_ne_nil (List.ne_nil_of_mem hm)
  exact ⟨router, by rw [router?, he]; rfl⟩

theorem isRouter_of_router? (hr : s.router? = some router) : s.isRouter router = true := by
  simp [isRouter, hr]

/-! ## Interfaces on a vlan -/

theorem isUplink_eq_false (h : s.findings = []) (hh : host ∈ s.hosts) {j : Interface}
    (hj : j ∈ host.interfaces) (hx : s.interfaceVlan? j = some x) : j.isUplink = false := by
  obtain ⟨name, hn⟩ := Host.exists_mem_namedInterfaces hj
  have hf := shapeFindings_of_mem h hh hn
  obtain ⟨switch, hs, -⟩ := Option.bind_eq_some_iff.1 hx
  unfold Interface.shapeFindings at hf
  rw [hs] at hf
  unfold Interface.isUplink
  cases hu : j.uplink with
  | none => rfl
  | some uplink => simp [hu] at hf

theorem mem_interfacesOn (h : s.findings = []) (hx : x ∈ s.vlans) {j : Interface} :
    j ∈ host.interfacesOn s x.2.name ↔ j ∈ host.interfaces ∧ s.interfaceVlan? j = some x := by
  rw [Host.interfacesOn, List.mem_filter, Option.any_eq_true]
  refine and_congr_right fun _ => ?_
  constructor
  · rintro ⟨y, hy, hn⟩
    rw [hy, eq_of_name_eq h (mem_vlans_of_interfaceVlan? hy) hx (beq_iff_eq.1 hn)]
  · exact fun hj => ⟨x, hj, beq_self_eq_true _⟩

/-- The declared interfaces on a vlan are planned on it. -/
theorem mem_planDeclared_iff (h : s.findings = []) (hh : host ∈ s.hosts) (hx : x ∈ s.vlans)
    (hw : s.vlanOutline? s.effectiveDelegation x.1 x.2 = some w) :
    i ∈ host.planDeclared s s.outlines ∧ i.vlan = some x.2.name ↔
      ∃ name, ∃ j ∈ host.interfacesOn s x.2.name, (name, j) ∈ host.namedInterfaces ∧
        i = host.planOnVlan s name j x.1 x.2 w := by
  constructor
  · rintro ⟨hi, hv⟩
    obtain ⟨name, j, y, w', hj, -, hy, hw', rfl⟩ := Host.exists_of_planDeclared hi hv
    obtain rfl := eq_of_name_eq h (mem_vlans_of_interfaceVlan? hy) hx (Option.some.inj hv)
    rw [find?_outlines h hx hw] at hw'
    cases hw'
    exact ⟨name, j, (mem_interfacesOn h hx).2 ⟨mem_interfaces_of_namedInterfaces hj, hy⟩, hj, rfl⟩
  · rintro ⟨name, j, hj, hn, rfl⟩
    obtain ⟨hj, hy⟩ := (mem_interfacesOn h hx).1 hj
    refine ⟨List.mem_filterMap.2 ⟨(name, j), hn, ?_⟩, rfl⟩
    have ho : Host.vlanOf? s s.outlines j = some (x.1, x.2, w) :=
      Option.bind_eq_some_iff.2 ⟨x, hy, Option.bind_eq_some_iff.2 ⟨w, find?_outlines h hx hw, rfl⟩⟩
    simp [Host.planInterface?, isUplink_eq_false h hh hj hy, ho]

/-- A host declares no interface on a vlan exactly if none is planned there. -/
theorem interfacesOn_eq_nil_iff (h : s.findings = []) (hh : host ∈ s.hosts) (hx : x ∈ s.vlans) :
    host.interfacesOn s x.2.name = [] ↔
      ∀ j ∈ host.planDeclared s s.outlines, j.vlan ≠ some x.2.name := by
  obtain ⟨w, hw⟩ := exists_vlanOutline? (d := s.effectiveDelegation) h hx
  constructor
  · intro hnil j hj hv
    obtain ⟨-, k, hk, -⟩ := (mem_planDeclared_iff h hh hx hw).1 ⟨hj, hv⟩
    rw [hnil] at hk
    cases hk
  · intro hall
    refine List.eq_nil_iff_forall_not_mem.2 fun k hk => ?_
    obtain ⟨name, hn⟩ := Host.exists_mem_namedInterfaces ((mem_interfacesOn h hx).1 hk).1
    obtain ⟨hj, hv⟩ := (mem_planDeclared_iff h hh hx hw).2 ⟨name, k, hk, hn, rfl⟩
    exact hall _ hj hv

/-- **The interfaces of a planned host on a vlan** are the declared ones; a
    router without any has that of the gateway, if the vlan is routable. -/
theorem mem_interfaces_iff (h : s.findings = []) (hh : host ∈ s.hosts) (hx : x ∈ s.vlans)
    (hw : s.vlanOutline? s.effectiveDelegation x.1 x.2 = some w) :
    i ∈ (s.planHost s.outlines host).interfaces ∧ i.vlan = some x.2.name ↔
      (∃ name, ∃ j ∈ host.interfacesOn s x.2.name, (name, j) ∈ host.namedInterfaces ∧
        i = host.planOnVlan s name j x.1 x.2 w) ∨
      s.isRouter host = true ∧ x.2.routable = true ∧ host.interfacesOn s x.2.name = [] ∧
        i = w.gatewayInterface := by
  have hname : w.name = x.2.name := name_of_vlanOutline? hw
  have hroutable : w.routable = x.2.routable := routable_of_vlanOutline? hw
  simp only [planHost, List.mem_append, or_and_right, mem_planDeclared_iff h hh hx hw]
  refine or_congr_right ?_
  cases hr : s.isRouter host with
  | false => simp
  | true =>
    simp only [if_true, mem_gatewayInterfaces (nodup_name_outlines h), true_and]
    constructor
    · rintro ⟨⟨w', hw', hr', hd, rfl⟩, hv⟩
      have hn : w'.name = w.name := (Option.some.inj hv).trans hname.symm
      obtain rfl : w' = w := eq_of_key_eq (nodup_name_outlines h) hw' (mem_outlines hx hw) hn
      rw [hname] at hd
      exact ⟨hroutable ▸ hr', (interfacesOn_eq_nil_iff h hh hx).2 hd, rfl⟩
    · rintro ⟨hr', hnil, rfl⟩
      have hd := (interfacesOn_eq_nil_iff h hh hx).1 hnil
      rw [← hname] at hd
      exact ⟨⟨w, mem_outlines hx hw, hroutable.trans hr', hd, rfl⟩, congrArg some hname⟩

/-! ## Presence on a vlan -/

theorem isOn_iff {v : Vlan} : host.isOn s v = true ↔
    host.hasRole .router = true ∧ v.routable = true ∨ host.interfacesOn s v.name ≠ [] := by
  rw [Host.isOn, Bool.or_eq_true, Bool.and_eq_true, Host.interfacesOn, List.any_eq_true]
  simp only [ne_eq, List.filter_eq_nil_iff, Classical.not_forall, Classical.not_not, exists_prop]

theorem isOn_of_planDeclared (h : s.findings = []) (hh : host ∈ s.hosts) (hx : x ∈ s.vlans)
    (hi : i ∈ host.planDeclared s s.outlines) (hv : i.vlan = some x.2.name) :
    host.isOn s x.2 = true :=
  isOn_iff.2 (.inr fun hnil => (interfacesOn_eq_nil_iff h hh hx).1 hnil i hi hv)

/-- A planned host is on the vlans on which the check takes the host to be. -/
theorem isOn_planHost (h : s.findings = []) (hh : host ∈ s.hosts) (hx : x ∈ s.vlans) :
    (s.planHost s.outlines host).isOn x.2.name = host.isOn s x.2 := by
  obtain ⟨w, hw⟩ := exists_vlanOutline? (d := s.effectiveDelegation) h hx
  have hmem := fun i => mem_interfaces_iff (i := i) h hh hx hw
  rw [Bool.eq_iff_iff, isOn_iff, PlannedHost.isOn, List.any_eq_true, ← isRouter_eq_hasRole h hh]
  constructor
  · rintro ⟨i, hi, hv⟩
    rcases (hmem i).1 ⟨hi, beq_iff_eq.1 hv⟩ with ⟨name, j, hj, -⟩ | ⟨hr, hroutable, -⟩
    · exact .inr (List.ne_nil_of_mem hj)
    · exact .inl ⟨hr, hroutable⟩
  · intro hon
    by_cases hnil : host.interfacesOn s x.2.name = []
    · obtain ⟨hr, hroutable⟩ := hon.resolve_right fun hne => hne hnil
      obtain ⟨hi, hv⟩ := (hmem _).2 (.inr ⟨hr, hroutable, hnil, rfl⟩)
      exact ⟨_, hi, beq_iff_eq.2 hv⟩
    · obtain ⟨j, hj⟩ := List.exists_mem_of_ne_nil _ hnil
      obtain ⟨name, hn⟩ := Host.exists_mem_namedInterfaces ((mem_interfacesOn h hx).1 hj).1
      obtain ⟨hi, hv⟩ := (hmem _).2 (.inl ⟨name, j, hj, hn, rfl⟩)
      exact ⟨_, hi, beq_iff_eq.2 hv⟩

end Site

end NetworkSite
