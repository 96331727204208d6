/-
  The names of planned interfaces.

  A host has the names that it declares, with `eth0`, `eth1`, ... for interfaces
  without one, and the check keeps these apart.  The router has one more for each
  vlan that it leaves open, made from the name of the switch and the tag of the
  vlan; these come after the check, so that nothing keeps them from being names
  that are there already (`Site.distinct_interface_names`).
-/
import NetworkSite.Proofs.Emission
import NetworkSite.Proofs.PlannedInterfaces

namespace NetworkSite

open Finding

/-- A text with a number behind its last dot is the only one of its kind. -/
theorem Text.append_decimal_inj {front front' : List Char} {m n : Nat}
    (h : front ++ '.' :: decimal m = front' ++ '.' :: decimal n) : front = front' ∧ m = n := by
  -- From the end, both texts are cut at the first dot: numbers have none.
  have hcut (front : List Char) (n : Nat) :
      cut (· == '.') (front ++ '.' :: decimal n).reverse =
        some ((decimal n).reverse, front.reverse) := by
    refine cut_eq_some_iff.2 ⟨'.', rfl, fun c hc hdot => ?_, by simp⟩
    rw [beq_iff_eq.1 hdot, List.mem_reverse] at hc
    exact absurd (isDigit_of_mem_decimal hc) (by decide)
  have hpair := hcut front m
  rw [h, hcut front' n, Option.some.injEq, Prod.mk.injEq, List.reverse_inj, List.reverse_inj] at hpair
  exact ⟨hpair.2.symm, (decimal_injective hpair.1).symm⟩

namespace Site

variable {s : Site} {host : Host} {x y : Switch × Vlan} {w : PlannedVlan} {d : Delegation}

/-- The name of the interface that holds the gateway addresses of a vlan. -/
def gatewayName (x : Switch × Vlan) : String :=
  match x.2.id with
  | some id => s!"{x.1.name}.{id}"
  | none => x.1.name

/-- The names of the gateways' interfaces are those of no other interface of the
    host: of none that it declares, and of no gateway on another vlan.  Two gateways
    can only have one name where a switch is named like another one with a tag. -/
structure GatewaysApart (s : Site) (host : Host) : Prop where
  declared : ∀ x ∈ s.openVlans host, gatewayName x ∉ host.interfaceNames
  switches : ∀ x ∈ s.openVlans host, ∀ y ∈ s.openVlans host, x.2.id = none → y.2.id ≠ none →
    x.1.name ≠ gatewayName y

/-! ## Declared names -/

theorem nodup_interfaceNames (h : s.findings = []) (hh : host ∈ s.hosts) :
    host.interfaceNames.Nodup := by
  have hf := (findings_eq_nil.1 h).2.2.2.2.2.1
  simp only [interfaceFindings, Host.interfaceFindings, List.flatMap_eq_nil_iff] at hf
  rw [← host.map_fst_namedInterfaces, List.Nodup, List.pairwise_map]
  refine pairwise_of_withEarlier fun y hy before hb he => ?_
  have hown := hf host hh y hy
  simp only [List.append_eq_nil_iff, forbid_eq_nil, List.any_eq_false, beq_iff_eq] at hown
  exact hown.1.1 before hb he

/-! ## Names of gateways -/

theorem name_gatewayInterface (hw : s.vlanOutline? d x.1 x.2 = some w) :
    w.gatewayInterface.name = gatewayName x := by
  obtain ⟨n, -, rfl⟩ := vlanOutline?_eq_some.1 hw
  rfl

theorem names_gatewayInterfaces (h : s.findings = []) (hh : host ∈ s.hosts) :
    (gatewayInterfaces s.outlines (host.planDeclared s s.outlines)).map (·.name) =
      (s.openVlans host).map gatewayName := by
  rw [eq_comm, ← List.forall₂_eq_eq_eq, List.forall₂_map_left_iff, List.forall₂_map_right_iff]
  refine (forall₂_gatewayOutlines h hh).imp ?_
  rintro x j ⟨w, hw, rfl⟩
  exact (name_gatewayInterface hw).symm

theorem mem_vlans_of_mem_openVlans (hx : x ∈ s.openVlans host) : x ∈ s.vlans :=
  List.mem_of_mem_filter (List.mem_of_mem_filter hx)

theorem nodup_vlans (h : s.findings = []) : s.vlans.Nodup :=
  ((nodup_names h).of_map _).of_map _

theorem gatewayName_of_id_eq_none (h : x.2.id = none) : gatewayName x = x.1.name := by
  rw [gatewayName, h]

/-- The tag tells the vlans of a switch apart, and the switch those of one tag. -/
theorem eq_of_gatewayName_eq (h : s.findings = []) (hx : x ∈ s.vlans) (hy : y ∈ s.vlans)
    (ht : x.2.id = none ↔ y.2.id = none) (hn : gatewayName x = gatewayName y) : x = y := by
  unfold gatewayName at hn
  cases hxid : x.2.id with
  | none =>
    have hyid := ht.1 hxid
    rw [hxid, hyid] at hn
    exact eq_of_id_eq h hx hy hn (hxid.trans hyid.symm)
  | some m =>
    obtain ⟨n, hyid⟩ := Option.ne_none_iff_exists'.1 fun hy => nomatch hxid.symm.trans (ht.2 hy)
    rw [hxid, hyid] at hn
    have hlist : x.1.name.toList ++ '.' :: Text.decimal m = y.1.name.toList ++ '.' :: Text.decimal n := by
      simpa [toString, Text.decimal] using congrArg String.toList hn
    obtain ⟨hswitch, hid⟩ := Text.append_decimal_inj hlist
    exact eq_of_id_eq h hx hy (String.toList_inj.1 hswitch) (by rw [hxid, hyid, hid])

/-- The interfaces of the gateways have different names, unless that of a switch is
    that of another switch with a tag. -/
theorem nodup_gatewayNames_iff (h : s.findings = []) :
    ((s.openVlans host).map gatewayName).Nodup ↔
      ∀ x ∈ s.openVlans host, ∀ y ∈ s.openVlans host, x.2.id = none → y.2.id ≠ none →
        x.1.name ≠ gatewayName y := by
  have hnodup : (s.openVlans host).Nodup := ((nodup_vlans h).filter _).filter _
  rw [List.nodup_map_iff_inj_on hnodup]
  constructor
  · intro hinj x hx y hy hxid hyid hn
    have hname : gatewayName x = gatewayName y := (gatewayName_of_id_eq_none hxid).trans hn
    exact hyid (hinj x hx y hy hname ▸ hxid)
  · intro hapart x hx y hy hn
    have hmixed {x y} (hx : x ∈ s.openVlans host) (hy : y ∈ s.openVlans host)
        (hn : gatewayName x = gatewayName y) (hxid : x.2.id = none) : y.2.id = none := by
      by_contra hyid
      exact hapart x hx y hy hxid hyid ((gatewayName_of_id_eq_none hxid).symm.trans hn)
    exact eq_of_gatewayName_eq h (mem_vlans_of_mem_openVlans hx) (mem_vlans_of_mem_openVlans hy)
      ⟨hmixed hx hy hn, hmixed hy hx hn.symm⟩ hn

/-! ## All names -/

/-- The names of a planned host are the declared ones and, on the router, those
    of the gateways on the vlans that it leaves open. -/
theorem names_planHost (h : s.findings = []) (hh : host ∈ s.hosts) :
    (s.planHost s.outlines host).interfaces.map (·.name) = host.interfaceNames ++
      if host.hasRole .router then (s.openVlans host).map gatewayName else [] := by
  rw [planHost, List.map_append, names_planDeclared h hh, isRouter_eq_hasRole h hh]
  split
  · rw [names_gatewayInterfaces h hh]
  · rfl

theorem nodup_names_planHost_iff (h : s.findings = []) (hh : host ∈ s.hosts) :
    ((s.planHost s.outlines host).interfaces.map (·.name)).Nodup ↔
      (host.hasRole .router = true → s.GatewaysApart host) := by
  rw [names_planHost h hh]
  split
  next hr =>
    rw [List.nodup_append, and_iff_right (nodup_interfaceNames h hh), nodup_gatewayNames_iff h]
    constructor
    · rintro ⟨hswitches, hdeclared⟩ -
      exact ⟨fun x hx hm => hdeclared _ hm _ (List.mem_map_of_mem hx) rfl, hswitches⟩
    · intro hapart
      refine ⟨(hapart hr).switches, fun name hm other ho he => ?_⟩
      obtain ⟨x, hx, rfl⟩ := List.mem_map.1 ho
      exact (hapart hr).declared x hx (he ▸ hm)
  next hr =>
    rw [List.append_nil]
    exact iff_of_true (nodup_interfaceNames h hh) fun hrole => absurd hrole hr

variable {templates : List Template} {plan : BuildPlan}

/-- **Which interfaces have names of their own.**  The hosts of a compiled site
    have the interfaces that they declare, under different names, and the router
    one more for each vlan that it leaves open.  The names of a host are all
    different exactly if it is not the router or those of its gateways are apart
    from the others and from each other. -/
theorem distinct_interface_names (h : s.compile templates = .ok plan) :
    List.Forall₂ (fun host planned => planned.hostname = host.hostname ∧
        host.interfaceNames.Nodup ∧
        planned.interfaces.map (·.name) = host.interfaceNames ++
          (if host.hasRole .router then (s.openVlans host).map gatewayName else []) ∧
        ((planned.interfaces.map (·.name)).Nodup ↔
          (host.hasRole .router = true → s.GatewaysApart host)))
      s.hosts plan.addresses.hosts := by
  obtain ⟨hf, hp⟩ := addresses_of_compile h
  rw [hosts_of_addressPlan hp, planHosts, List.forall₂_map_right_iff, List.forall₂_same]
  intro host hh
  exact ⟨rfl, nodup_interfaceNames hf hh, names_planHost hf hh, nodup_names_planHost_iff hf hh⟩

theorem annex_compiles : ∃ plan, annex.compile [] = .ok plan :=
  exists_compile_nil (by with_unfolding_all decide) (by decide) (by with_unfolding_all decide)
    (by decide) (by with_unfolding_all decide) (by decide)

/-- All interfaces of the annex have names of their own, so the gateways of its
    router are apart. -/
theorem annex_interface_names : ∃ plan, annex.compile [] = .ok plan ∧
    plan.addresses.hosts.map (fun g => g.interfaces.map (·.name)) = [
      ["eth0", "inside", "sw.20"], ["eth0", "eth1"]] ∧
    ∃ router ∈ annex.hosts, router.hasRole .router = true ∧ annex.GatewaysApart router := by
  obtain ⟨plan, hplan⟩ := annex_compiles
  have hnames := distinct_interface_names hplan
  rw [addresses_eq_of_compile hplan] at hnames
  obtain ⟨⟨-, -, -, hapart⟩, -⟩ := List.forall₂_cons.1 hnames
  refine ⟨plan, hplan, ?_, _, List.mem_cons_self, by decide, hapart.1 (by decide) (by decide)⟩
  rw [addresses_eq_of_compile hplan]
  decide

/-- A router whose own interface is named like a switch, and a switch that is
    named like another one with a tag. -/
def tangled : Site where
  name := "home"
  domain := "example.net"
  switches := [
    { name := "sw"
      vlans := [
        { name := "lan", ipv4Subnet := "10.0.0.0/24" },
        { name := "things", id := some 20, ipv4Subnet := "10.0.20.0/24" }] },
    { name := "sw.20"
      vlans := [{ name := "lab", ipv4Subnet := "10.0.30.0/24" }] }]
  hosts := [
    { hostname := "gw", roles := [.router], interfaces := [{ name := some "sw", uplink := some "wan0" }] }]

theorem tangled_compiles : ∃ plan, tangled.compile [] = .ok plan :=
  exists_compile_nil (by with_unfolding_all decide) (by decide) (by with_unfolding_all decide)
    (by decide) (by with_unfolding_all decide) (by decide)

/-- **Two interfaces of a router may have one name**: one that it declares and the
    gateway of a vlan, and the gateways of two vlans. -/
theorem tangled_interface_names : ∃ plan, tangled.compile [] = .ok plan ∧
    ∃ g ∈ plan.addresses.hosts,
      g.interfaces.map (·.name) = ["sw", "sw", "sw.20", "sw.20"] ∧
      ¬(g.interfaces.map (·.name)).Nodup := by
  obtain ⟨plan, hplan⟩ := tangled_compiles
  refine ⟨plan, hplan, ?_⟩
  rw [addresses_eq_of_compile hplan]
  decide

end Site

end NetworkSite
