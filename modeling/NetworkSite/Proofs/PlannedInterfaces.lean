/-
  The interfaces of planned hosts: none is lost and none made up.

  An interface that cannot be placed is left out of the plan without a word.  In
  a valid site every declared interface is an uplink or finds its vlan, so that
  all of them are planned, in order and under their names; and the interfaces of
  the gateways go by the routable vlans that the router left open
  (`Site.planned_interfaces`).
-/
import NetworkSite.Proofs.Compilation
import NetworkSite.Proofs.DhcpSettings
import NetworkSite.Proofs.PlannedHosts

namespace NetworkSite

/-- A planned interface is that of a declared one: the same uplink, or one that
    joins the same switch, on the vlan to which the declared one is attached. -/
structure Site.IsPlanned (s : Site) (i : Interface) (j : PlannedInterface) : Prop where
  uplink : j.uplink = i.uplink
  switch : j.switch = i.switch
  vlan : j.vlan = (s.interfaceVlan? i).map (·.2.name)
  placed : j.uplink.isSome = j.vlan.isNone

/-- The routable vlans to which no declared interface of a host is attached. -/
def Site.openVlans (s : Site) (host : Host) : List (Switch × Vlan) :=
  s.routableVlans.filter fun x => host.interfaces.all fun i => s.interfaceVlan? i != some x

/-- A planned host has the declared interfaces under their names and, if it is
    the router, one more on each vlan that is left open. -/
structure Site.IsPlannedHost (s : Site) (host : Host) (planned : PlannedHost)
    (declared gateways : List PlannedInterface) : Prop where
  hostname : planned.hostname = host.hostname
  interfaces : planned.interfaces = declared ++ gateways
  names : declared.map (·.name) = host.interfaceNames
  declared : List.Forall₂ s.IsPlanned host.interfaces declared
  gateways : List.Forall₂
    (fun x j => j.uplink = none ∧ j.switch = some x.1.name ∧ j.vlan = some x.2.name)
    (if host.hasRole .router then s.openVlans host else []) gateways

namespace Site

variable {s : Site} {host : Host} {x : Switch × Vlan} {i : Interface} {name : String}

/-! ## Declared interfaces -/

/-- A declared interface of a valid site is an uplink or finds its vlan. -/
theorem uplink_or_vlan (h : s.findings = []) (hh : host ∈ s.hosts) (hi : i ∈ host.interfaces) :
    (∃ uplink, i.uplink = some uplink ∧ i.switch = none) ∨
      i.uplink = none ∧ ∃ x, s.interfaceVlan? i = some x := by
  obtain ⟨name, hn⟩ := Host.exists_mem_namedInterfaces hi
  have hf := shapeFindings_of_mem h hh hn
  unfold Interface.shapeFindings at hf
  cases hu : i.uplink with
  | some uplink =>
    cases hs : i.switch with
    | some switch => simp [hu, hs] at hf
    | none => exact .inl ⟨uplink, rfl, rfl⟩
  | none =>
    cases hs : i.switch with
    | none => simp [hu, hs] at hf
    | some switch =>
      refine .inr ⟨rfl, ?_⟩
      rw [hu, hs] at hf
      dsimp only [Interface.switchFindings] at hf
      split at hf
      · cases hf
      · split at hf
        next y hy => exact ⟨_, hy⟩
        next => split at hf <;> cases hf

theorem switch_eq_of_interfaceVlan? (hx : s.interfaceVlan? i = some x) : i.switch = some x.1.name := by
  obtain ⟨name, hn, hx⟩ := Option.bind_eq_some_iff.1 hx
  obtain ⟨switch, hs, hx⟩ := Option.bind_eq_some_iff.1 hx
  have hname : (switch.name == name) = true :=
    List.find?_some (p := fun switch : Switch => switch.name == name) hs
  rw [hn, ← beq_iff_eq.1 hname]
  dsimp only at hx
  split at hx
  all_goals
    obtain ⟨v, -, hx⟩ := Option.bind_eq_some_iff.1 hx
    cases hx
    rfl

/-- Every declared interface of a valid site is planned. -/
theorem exists_planInterface? (h : s.findings = []) (hh : host ∈ s.hosts)
    (hi : i ∈ host.interfaces) :
    ∃ j, host.planInterface? s s.outlines name i = some j ∧ j.name = name ∧ s.IsPlanned i j := by
  rcases uplink_or_vlan h hh hi with ⟨uplink, hu, hs⟩ | ⟨hu, x, hx⟩
  · have hnone : s.interfaceVlan? i = none := by rw [interfaceVlan?, hs]; rfl
    refine ⟨_, if_pos (Option.isSome_iff_exists.2 ⟨uplink, hu⟩), rfl, rfl, hs.symm, ?_, ?_⟩
    · rw [hnone]
      rfl
    · exact congrArg Option.isSome hu
  · obtain ⟨w, hw⟩ := exists_vlanOutline? (d := s.effectiveDelegation) h (mem_vlans_of_interfaceVlan? hx)
    have ho : Host.vlanOf? s s.outlines i = some (x.1, x.2, w) :=
      Option.bind_eq_some_iff.2 ⟨x, hx, Option.bind_eq_some_iff.2
        ⟨w, find?_outlines h (mem_vlans_of_interfaceVlan? hx) hw, rfl⟩⟩
    refine ⟨host.planOnVlan s name i x.1 x.2 w, ?_, rfl, hu.symm,
      (switch_eq_of_interfaceVlan? hx).symm, ?_, rfl⟩
    · rw [Host.planInterface?, if_neg (by simp [Interface.isUplink, hu]), ho]
      rfl
    · rw [hx]
      rfl

theorem forall₂_planDeclared (h : s.findings = []) (hh : host ∈ s.hosts) :
    List.Forall₂ (fun n j => j.name = n.1 ∧ s.IsPlanned n.2 j) host.namedInterfaces
      (host.planDeclared s s.outlines) := by
  refine forall₂_filterMap_of_forall fun n hn => ?_
  exact exists_planInterface? h hh (mem_interfaces_of_namedInterfaces hn)

theorem names_planDeclared (h : s.findings = []) (hh : host ∈ s.hosts) :
    (host.planDeclared s s.outlines).map (·.name) = host.interfaceNames := by
  rw [← host.map_fst_namedInterfaces, eq_comm, ← List.forall₂_eq_eq_eq, List.forall₂_map_left_iff,
    List.forall₂_map_right_iff]
  exact (forall₂_planDeclared h hh).imp fun _ _ hj => hj.1.symm

theorem isPlanned_planDeclared (h : s.findings = []) (hh : host ∈ s.hosts) :
    List.Forall₂ s.IsPlanned host.interfaces (host.planDeclared s s.outlines) := by
  have hlen := Host.length_namesFrom 0 host.interfaces
  have hinterfaces : host.namedInterfaces.map (·.2) = host.interfaces :=
    List.map_snd_zip (Nat.le_of_eq hlen.symm)
  rw [← hinterfaces, List.forall₂_map_left_iff]
  exact (forall₂_planDeclared h hh).imp fun _ _ hj => hj.2

/-! ## Interfaces of gateways -/

/-- Where names differ, none of the vlans is passed over for its name. -/
theorem gatewayInterfaces_eq {outlines : List PlannedVlan} {declared : List PlannedInterface}
    (hn : (outlines.map (·.name)).Nodup) :
    gatewayInterfaces outlines declared = ((outlines.filter (·.routable)).filter fun w =>
      !(declared.any (·.vlan == some w.name))).map (·.gatewayInterface) := by
  have hn : ((outlines.filter (·.routable)).map (·.name)).Nodup :=
    (List.filter_sublist.map _).nodup hn
  -- Both sides filter the same list, the left one with the vlans in front at hand.
  nth_rewrite 1 [← map_snd_withEarlier (outlines.filter (·.routable))]
  rw [List.filter_map, List.map_map, gatewayInterfaces]
  refine congrArg _ (List.filter_congr fun (before, w) hw => ?_)
  dsimp only [Function.comp_apply]
  rw [any_key_eq_false hn hw, Bool.not_false, Bool.and_true]

theorem forall₂_outlines (h : s.findings = []) :
    List.Forall₂ (fun x w => x ∈ s.vlans ∧ s.vlanOutline? s.effectiveDelegation x.1 x.2 = some w)
      s.vlans s.outlines := by
  refine forall₂_filterMap_of_forall fun x hx => ?_
  obtain ⟨w, hw⟩ := exists_vlanOutline? h hx
  exact ⟨w, hw, hx, hw⟩

theorem all_detached_iff (h : s.findings = []) (hx : x ∈ s.vlans) :
    (host.interfaces.all fun i => s.interfaceVlan? i != some x) = true ↔
      host.interfacesOn s x.2.name = [] := by
  simp only [List.all_eq_true, bne_iff_ne, List.eq_nil_iff_forall_not_mem, mem_interfacesOn h hx,
    not_and, ne_eq]

/-- The interfaces of the gateways are those of the vlans that are left open, one
    for one. -/
theorem forall₂_gatewayOutlines (h : s.findings = []) (hh : host ∈ s.hosts) :
    List.Forall₂ (fun x j => ∃ w, s.vlanOutline? s.effectiveDelegation x.1 x.2 = some w ∧
        j = w.gatewayInterface)
      (s.openVlans host) (gatewayInterfaces s.outlines (host.planDeclared s s.outlines)) := by
  rw [gatewayInterfaces_eq (nodup_name_outlines h), List.forall₂_map_right_iff]
  have hroutable := List.rel_filter (p := (·.2.routable)) (q := (·.routable))
    (fun x w hw => Bool.eq_iff_iff.1 (routable_of_vlanOutline? hw.2).symm) (forall₂_outlines h)
  refine (List.rel_filter ?_ hroutable).imp ?_
  · rintro x w ⟨hx, hw⟩
    dsimp only
    rw [all_detached_iff h hx, interfacesOn_eq_nil_iff h hh hx, name_of_vlanOutline? hw]
    simp
  · rintro x w ⟨-, hw⟩
    exact ⟨w, hw, rfl⟩

theorem forall₂_gatewayInterfaces (h : s.findings = []) (hh : host ∈ s.hosts) :
    List.Forall₂ (fun x j => j.uplink = none ∧ j.switch = some x.1.name ∧ j.vlan = some x.2.name)
      (s.openVlans host) (gatewayInterfaces s.outlines (host.planDeclared s s.outlines)) := by
  refine (forall₂_gatewayOutlines h hh).imp ?_
  rintro x j ⟨w, hw, rfl⟩
  obtain ⟨n, -, rfl⟩ := vlanOutline?_eq_some.1 hw
  exact ⟨rfl, rfl, rfl⟩

/-- **No interface is lost or made up.**  The plan of a valid site has its hosts
    in order.  Each has its declared interfaces, one for one and under their
    names, and then nothing but, on the router, one interface for each routable
    vlan to which none of these is attached, in the order of the vlans. -/
theorem planned_interfaces {p : AddressPlan} (h : s.findings = []) (hp : s.addressPlan = .ok p) :
    List.Forall₂ (fun host planned => ∃ declared gateways,
      s.IsPlannedHost host planned declared gateways) s.hosts p.hosts := by
  rw [hosts_of_addressPlan hp, planHosts, List.forall₂_map_right_iff, List.forall₂_same]
  intro host hh
  refine ⟨_, _, rfl, rfl, names_planDeclared h hh, isPlanned_planDeclared h hh, ?_⟩
  rw [isRouter_eq_hasRole h hh]
  split
  · exact forall₂_gatewayInterfaces h hh
  · exact .nil

/-- A router with an uplink and an interface on one of two routable vlans. -/
def annex : Site where
  name := "home"
  domain := "example.net"
  switches := [{
    name := "sw"
    vlans := [
      { name := "lan", ipv4Subnet := "10.0.0.0/24" },
      { name := "things", id := some 20, ipv4Subnet := "10.0.20.0/24" },
      { name := "wires", id := some 30, routable := false, ipv4Subnet := "10.0.30.0/24" }] }]
  hosts := [
    { hostname := "gw", roles := [.router], interfaces := [
        { uplink := some "wan0" },
        { name := some "inside", switch := some "sw", ipv4 := .fixed "10.0.0.1" }] },
    { hostname := "desk", interfaces := [
        { switch := some "sw" },
        { switch := some "sw", vlan := some (.name "wires") }] }]

/-- The router gets one interface more, on the routable vlan that it left open. -/
theorem annex_interfaces : annex.findings = [] ∧ ∃ p, annex.addressPlan = .ok p ∧
    p.hosts.map (fun g => g.interfaces.map fun j => (j.name, j.vlan)) = [
      [("eth0", none), ("inside", some "lan"), ("sw.20", some "things")],
      [("eth0", some "lan"), ("eth1", some "wires")]] ∧
    List.Forall₂ (fun host planned => ∃ declared gateways,
      annex.IsPlannedHost host planned declared gateways) annex.hosts p.hosts := by
  have hf : annex.findings = [] := by with_unfolding_all decide
  have hp : annex.addressPlan = .ok annex.plannedAddresses :=
    addressPlan_eq_ok (by decide) (by with_unfolding_all decide)
  exact ⟨hf, _, hp, by decide, planned_interfaces hf hp⟩

end Site

end NetworkSite
