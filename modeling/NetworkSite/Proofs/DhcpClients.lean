/-
  Interfaces that ask for leases.

  The check lets an interface ask for an IPv4 lease only on a vlan that leases
  IPv4 addresses, and says nothing of IPv6.  So every interface that asks for an
  IPv4 address has a server; one that writes that it asks for an IPv6 address has
  one exactly if its vlan leases IPv6 addresses (`Site.clients_served`,
  `Site.waiting_unserved`).
-/
import NetworkSite.Proofs.DhcpSettings
import NetworkSite.Proofs.PublishedAddresses

namespace NetworkSite

open Finding

namespace Interface

variable {i : Interface} {v networks : Vlan} {place : Place} {host : Host}

theorem getD_fixed_ne_dhcp {f : Family} {a? : Option (Address f)} :
    ((a?.map .fixed).getD .disabled : InterfaceAddress f) ≠ .dhcp := by
  cases a? <;> exact nofun

theorem ipv4On_eq_dhcp : i.ipv4On = .dhcp ↔ i.ipv4 = .dhcp ∨ i.ipv4 = .slaac := by
  unfold ipv4On
  split
  next ht => simp [ht, getD_fixed_ne_dhcp]
  next ht => simp [ht]
  next ht => simp [ht]

/-- An interface asks for an IPv6 lease if it writes so, or if it writes nothing
    and the vlan leases addresses. -/
theorem ipv6On_eq_dhcp {mode : Ipv6Mode} : i.ipv6On v mode = .dhcp ↔
    i.ipv6Disabled = false ∧ mode.isEnabled = true ∧
      (i.ipv6 = some .dhcp ∨ i.ipv6 = none ∧ v.dhcp6Managed = true) := by
  unfold ipv6On
  split
  next hd =>
    refine iff_of_false nofun ?_
    rintro ⟨hi, hm, -⟩
    simp [hi, hm] at hd
  next hd =>
    obtain ⟨hi, hm⟩ : i.ipv6Disabled = false ∧ mode.isEnabled = true := by simpa using hd
    split
    next ht => simp [ht, getD_fixed_ne_dhcp]
    next ht => simp [ht, hi, hm]
    next ht => simp [ht]
    next ht => split <;> simp_all

/-- The check lets an interface ask for an IPv4 lease where there is one. -/
theorem allowDhcp_of_vlan4Findings (hf : i.vlan4Findings place host v networks = [])
    (hd : i.ipv4On = .dhcp) : v.allowDhcp = true := by
  unfold vlan4Findings at hf
  rcases ipv4On_eq_dhcp.1 hd with h | h
  · rw [h] at hf
    dsimp only at hf
    split at hf
    next => cases hf
    next => exact require_eq_nil.1 hf
  · rw [h] at hf
    cases hf

end Interface

namespace PlannedVlan

variable {w : PlannedVlan}

theorem gatewayInterface_ne_dhcp :
    w.gatewayInterface.ipv4 ≠ .dhcp ∧ w.gatewayInterface.ipv6 ≠ .dhcp := by
  refine ⟨Interface.getD_fixed_ne_dhcp, ?_⟩
  dsimp only [gatewayInterface]
  split
  next => exact nofun
  next => split <;> exact nofun

end PlannedVlan

namespace Site

variable {s : Site} {x : Switch × Vlan} {w : PlannedVlan} {p : AddressPlan} {host : Host}
  {i : PlannedInterface}

/-! ## Settings of a vlan -/

theorem mem_vlansWithPlan (h : s.findings = []) (hp : p.vlans = s.planVlans) {y : Vlan × PlannedVlan} :
    y ∈ s.vlansWithPlan p ↔ ∃ x ∈ s.vlans, ∃ w,
      s.vlanOutline? s.effectiveDelegation x.1 x.2 = some w ∧
        y = (x.2, s.completeVlan s.outlines s.claims w) := by
  constructor
  · intro hy
    obtain ⟨x, hx, he⟩ := List.mem_filterMap.1 hy
    obtain ⟨w, hw⟩ := exists_vlanOutline? (d := s.effectiveDelegation) h hx
    obtain ⟨w', hw', rfl⟩ := Option.map_eq_some_iff.1 he
    rw [vlan?_planVlans h hp hx hw] at hw'
    cases hw'
    exact ⟨x, hx, w, hw, rfl⟩
  · rintro ⟨x, hx, w, hw, rfl⟩
    exact List.mem_filterMap.2
      ⟨x, hx, Option.map_eq_some_iff.2 ⟨_, vlan?_planVlans h hp hx hw, rfl⟩⟩

theorem vlan_of_dhcpSubnet6? {v : Vlan} {d : DhcpSubnet .v6} (h : s.dhcpSubnet6? p v w = some d) :
    d.vlan = w.name := by
  obtain ⟨n, -, h⟩ := Option.bind_eq_some_iff.1 h
  obtain ⟨-, h⟩ := Option.ite_none_left_eq_some.1 h
  rw [← Option.some.inj h]

theorem exists_mem_subnets4 (h : s.findings = []) (hc : s.claimErrors = [])
    (hpool : s.poolErrors = []) (hp : p.vlans = s.planVlans) (hx : x ∈ s.vlans)
    (hd : x.2.allowDhcp = true) : ∃ d ∈ (s.dhcpSettings p).subnets4, d.vlan = x.2.name := by
  obtain ⟨w, hw⟩ := exists_vlanOutline? (d := s.effectiveDelegation) h hx
  obtain ⟨d, hsome, hserves⟩ := exists_dhcpSubnet4? (p := p) h hc hpool hx hw hd
  have hy := (mem_vlansWithPlan h hp).2 ⟨x, hx, w, hw, rfl⟩
  exact ⟨d, List.mem_filterMap.2 ⟨_, hy, hsome⟩, hserves.vlan⟩

/-- A vlan whose IPv6 subnet is known is among the settings exactly if it leases
    IPv6 addresses. -/
theorem exists_mem_subnets6_iff (h : s.findings = []) (hc : s.claimErrors = [])
    (hpool : s.poolErrors = []) (hp : p.vlans = s.planVlans) (hx : x ∈ s.vlans)
    {n : Network .v6} (hn : p.subnet6? x.2.name = some n) :
    (∃ d ∈ (s.dhcpSettings p).subnets6, d.vlan = x.2.name) ↔ x.2.dhcp6Managed = true := by
  constructor
  · rintro ⟨d, hd, hname⟩
    obtain ⟨_, hmem, hsome⟩ := List.mem_filterMap.1 hd
    obtain ⟨y, hy, w, hw, rfl⟩ := (mem_vlansWithPlan h hp).1 hmem
    have hvlan : d.vlan = y.2.name := (vlan_of_dhcpSubnet6? hsome).trans (name_completeVlan hw)
    obtain rfl := eq_of_name_eq h hy hx (hvlan.symm.trans hname)
    cases hm : y.2.dhcp6Managed with
    | false => exact absurd hsome (by simp [dhcpSubnet6?_eq_none h hy hw (.inl hm)])
    | true => rfl
  · intro hd
    obtain ⟨w, hw⟩ := exists_vlanOutline? (d := s.effectiveDelegation) h hx
    rw [subnet6?_eq h hp hx hw] at hn
    obtain ⟨d, hsome, hserves⟩ := exists_dhcpSubnet6? (p := p) h hc hpool hx hw hd hn
    have hy := (mem_vlansWithPlan h hp).2 ⟨x, hx, w, hw, rfl⟩
    exact ⟨d, List.mem_filterMap.2 ⟨_, hy, hsome⟩, hserves.vlan⟩

/-! ## Clients -/

/-- A planned interface that asks for a lease is a declared one, and passes the
    check of its vlan. -/
theorem exists_declared_of_interface (h : s.findings = []) (hh : host ∈ s.hosts)
    (hi : i ∈ (s.planHost s.outlines host).interfaces) (hu : i.uplink = none) :
    ∃ x ∈ s.vlans, i.vlan = some x.2.name ∧ (i.ipv4 = .dhcp ∨ i.ipv6 = .dhcp →
      ∃ j ∈ host.interfacesOn s x.2.name, i.ipv4 = j.ipv4On ∧ (∃ mode, i.ipv6 = j.ipv6On x.2 mode) ∧
        ∃ place, j.vlan4Findings place host x.2 (s.namesake x.2) = []) := by
  obtain ⟨x, hx, w, ho, hv, -⟩ := exists_vlan_of_interface h hh hi hu
  rw [name_of_vlanOutline? ho] at hv
  refine ⟨x, hx, hv, fun hd => ?_⟩
  rcases (mem_interfaces_iff h hh hx ho).1 ⟨hi, hv⟩ with ⟨name, j, hj, hn, rfl⟩ | ⟨-, -, -, rfl⟩
  · have hy := ((mem_interfacesOn h hx).1 hj).2
    have hup := isUplink_eq_false h hh ((mem_interfacesOn h hx).1 hj).1 hy
    exact ⟨j, hj, rfl, ⟨_, rfl⟩, _,
      (Interface.findings_of_shapeFindings (shapeFindings_of_mem h hh hn) hup hy).1⟩
  · obtain ⟨h4, h6⟩ := PlannedVlan.gatewayInterface_ne_dhcp (w := w)
    exact absurd hd (not_or.2 ⟨h4, h6⟩)

/-- **Clients of build plans have servers**, with one exception.  An interface
    that is no uplink is on a vlan; if it asks for an IPv4 address, there are
    settings for its vlan.  If it asks for an IPv6 address where the subnet is
    known, there are settings exactly if the vlan leases IPv6 addresses; that it
    does not can only be if a declared interface of the host writes that it asks
    for an address. -/
theorem clients_served {templates : List Template} {plan : BuildPlan}
    (h : s.compile templates = .ok plan) {g : PlannedHost} (hg : g ∈ plan.addresses.hosts)
    (hi : i ∈ g.interfaces) (hu : i.uplink = none) :
    ∃ x ∈ s.vlans, i.vlan = some x.2.name ∧
      (i.ipv4 = .dhcp →
        ∃ d ∈ (s.dhcpSettings plan.addresses).subnets4, d.vlan = x.2.name) ∧
      ∀ n, i.ipv6 = .dhcp → plan.addresses.subnet6? x.2.name = some n →
        ((∃ d ∈ (s.dhcpSettings plan.addresses).subnets6, d.vlan = x.2.name) ↔
          x.2.dhcp6Managed = true) ∧
        (x.2.dhcp6Managed = true ∨ ∃ host ∈ s.hosts, host.hostname = g.hostname ∧
          ∃ j ∈ host.interfacesOn s x.2.name, j.ipv6 = some .dhcp) := by
  obtain ⟨hf, hp⟩ := addresses_of_compile h
  obtain ⟨-, herrors, -⟩ := addressPlan_eq_ok_iff.1 hp
  obtain ⟨-, hc, hpool⟩ := addressingErrors_eq_nil.1 herrors
  have hvlans := vlans_of_addressPlan hp
  rw [hosts_of_addressPlan hp] at hg
  obtain ⟨host, hh, rfl⟩ := List.mem_map.1 hg
  obtain ⟨x, hx, hv, hdeclared⟩ := exists_declared_of_interface hf hh hi hu
  refine ⟨x, hx, hv, fun hd => ?_, fun n hd hn => ⟨?_, ?_⟩⟩
  · obtain ⟨j, -, h4, -, place, hj⟩ := hdeclared (.inl hd)
    exact exists_mem_subnets4 hf hc hpool hvlans hx
      (Interface.allowDhcp_of_vlan4Findings hj (h4.symm.trans hd))
  · exact exists_mem_subnets6_iff hf hc hpool hvlans hx hn
  · obtain ⟨j, hj, -, ⟨mode, h6⟩, -⟩ := hdeclared (.inr hd)
    obtain ⟨-, -, hwrites | ⟨-, hmanaged⟩⟩ := Interface.ipv6On_eq_dhcp.1 (h6.symm.trans hd)
    · exact .inr ⟨host, hh, rfl, j, hj, hwrites⟩
    · exact .inl hmanaged

/-- A site with two clients that ask for addresses of both families: the vlan of
    the first one leases both, that of the second one only IPv4 addresses. -/
def waiting : Site where
  name := "home"
  domain := "example.net"
  switches := [{
    name := "sw"
    vlans := [
      { name := "lan", ipv4Subnet := "10.0.0.0/24", ipv6Subnet := some "fd00:1::/64"
        dhcp6Managed := true },
      { name := "lab", id := some 20, ipv4Subnet := "10.0.1.0/24"
        ipv6Subnet := some "fd00:2::/64" }] }]
  hosts := [
    { hostname := "gw", roles := [.router], interfaces := [{ uplink := some "wan0" }] },
    { hostname := "nas", interfaces := [{ switch := some "sw" }] },
    { hostname := "box"
      interfaces := [{ switch := some "sw", vlan := some (.name "lab"), ipv6 := some .dhcp }] }]

theorem waiting_compiles : ∃ plan, waiting.compile [] = .ok plan :=
  exists_compile_nil (by with_unfolding_all decide) (by decide) (by with_unfolding_all decide)
    (by decide) (by with_unfolding_all decide) (by decide)

/-- The first client has servers for both families. -/
theorem waiting_served : ∃ plan g i, waiting.compile [] = .ok plan ∧ g ∈ plan.addresses.hosts ∧
    i ∈ g.interfaces ∧ i.uplink = none ∧ i.ipv4 = .dhcp ∧ i.ipv6 = .dhcp ∧
    (∃ d ∈ (waiting.dhcpSettings plan.addresses).subnets4, i.vlan = some d.vlan) ∧
    ∃ d ∈ (waiting.dhcpSettings plan.addresses).subnets6, i.vlan = some d.vlan := by
  obtain ⟨plan, hplan⟩ := waiting_compiles
  obtain ⟨-, hp⟩ := addresses_of_compile hplan
  obtain ⟨g, hg, i, hi, hu, h4, h6, hlan⟩ : ∃ g ∈ waiting.planHosts, ∃ i ∈ g.interfaces,
      i.uplink = none ∧ i.ipv4 = .dhcp ∧ i.ipv6 = .dhcp ∧ i.vlan = some "lan" := by
    decide
  rw [← hosts_of_addressPlan hp] at hg
  obtain ⟨x, hx, hv, hserved4, hserved6⟩ := clients_served hplan hg hi hu
  have hname : x.2.name = "lan" := Option.some.inj (hv.symm.trans hlan)
  obtain ⟨n, hn⟩ : ∃ n, plan.addresses.subnet6? x.2.name = some n := by
    rw [← Option.isSome_iff_exists, hname, AddressPlan.subnet6?, AddressPlan.vlan?,
      vlans_of_addressPlan hp]
    decide
  have hmanaged : x.2.dhcp6Managed = true := by
    have hall : ∀ y ∈ waiting.vlans, y.2.name = "lan" → y.2.dhcp6Managed = true := by
      decide
    exact hall x hx hname
  obtain ⟨d4, hd4, hn4⟩ := hserved4 h4
  obtain ⟨d6, hd6, hn6⟩ := (hserved6 n h6 hn).1.2 hmanaged
  exact ⟨plan, g, i, hplan, hg, hi, hu, h4, h6, ⟨d4, hd4, hn4 ▸ hv⟩, d6, hd6, hn6 ▸ hv⟩

/-- **A client may wait for a server that is not there**: the second one asks for
    an IPv6 address, and no settings are for its vlan. -/
theorem waiting_unserved : ∃ plan g i n, waiting.compile [] = .ok plan ∧
    g ∈ plan.addresses.hosts ∧ i ∈ g.interfaces ∧ i.uplink = none ∧ i.vlan = some "lab" ∧
    i.ipv6 = .dhcp ∧ plan.addresses.subnet6? "lab" = some n ∧
    ∀ d ∈ (waiting.dhcpSettings plan.addresses).subnets6, d.vlan ≠ "lab" := by
  obtain ⟨plan, hplan⟩ := waiting_compiles
  obtain ⟨-, hp⟩ := addresses_of_compile hplan
  obtain ⟨-, -, hplanned⟩ := addressPlan_eq_ok_iff.1 hp
  obtain ⟨g, hg, i, hi, hu, hv, h6⟩ : ∃ g ∈ waiting.planHosts, ∃ i ∈ g.interfaces,
      i.uplink = none ∧ i.vlan = some "lab" ∧ i.ipv6 = .dhcp := by
    decide
  rw [← hosts_of_addressPlan hp] at hg
  obtain ⟨n, hn⟩ : ∃ n, plan.addresses.subnet6? "lab" = some n := by
    rw [← Option.isSome_iff_exists, AddressPlan.subnet6?, AddressPlan.vlan?,
      vlans_of_addressPlan hp]
    decide
  refine ⟨plan, g, i, n, hplan, hg, hi, hu, hv, h6, hn, ?_⟩
  rw [hplanned]
  with_unfolding_all decide

end Site

end NetworkSite
