/-
  The name servers that leases come with.

  A vlan has the name servers on it; a routable vlan without any has those on all
  routable ones (`Site.mem_dnsServersFor`).  Only then are the addresses of one
  family taken.  So the name servers that come with leases can be reached, and
  there are some as soon as the vlan, or all routable vlans where it has none of
  either family, have one with an address of this family
  (`Site.leased_nameservers`).  But a name server with an IPv4 address alone
  keeps the IPv6 addresses of all others away (`Site.halved_nameservers`).
-/
import NetworkSite.Proofs.DhcpClients
import NetworkSite.Proofs.HostRules

namespace NetworkSite

/-- The subnets of one family. -/
def DhcpSettings.subnets (d : DhcpSettings) : (f : Family) → List (DhcpSubnet f)
  | .v4 => d.subnets4
  | .v6 => d.subnets6

theorem PlannedHost.mem_fixedAddressesOn {g : PlannedHost} {vlan : String} {a : IpAddress} :
    a ∈ g.fixedAddressesOn vlan ↔ ∃ i ∈ g.interfaces,
      i.vlan.any (Text.sameIgnoringCase · vlan) = true ∧ a ∈ i.fixedAddresses := by
  simp only [fixedAddressesOn, interfacesOn, List.mem_append, List.mem_filterMap, List.mem_filter,
    Option.map_eq_some_iff, PlannedInterface.mem_fixedAddresses, and_or_left, exists_or, and_assoc]

namespace Site

variable {s : Site} {p : AddressPlan} {x : Switch × Vlan} {host : Host} {w : PlannedVlan}
  {a : IpAddress}

/-- A name server of the site has the fixed address on the vlan. -/
def HasNameServer (s : Site) (p : AddressPlan) (vlan : String) (a : IpAddress) : Prop :=
  ∃ host ∈ s.hosts, host.hasRole .dns = true ∧
    ∃ g ∈ p.hosts, g.hostname = host.hostname ∧ g.Holds vlan a

/-! ## Name servers of a vlan -/

/-- Names that are the same up to their case are the same. -/
theorem mem_fixedAddressesOn_iff (h : s.findings = []) (hh : host ∈ s.hosts) (hx : x ∈ s.vlans) :
    a ∈ (s.planHost s.outlines host).fixedAddressesOn x.2.name ↔
      (s.planHost s.outlines host).Holds x.2.name a := by
  rw [PlannedHost.mem_fixedAddressesOn]
  refine exists_congr fun i => and_congr_right fun hi => and_congr_left fun _ => ?_
  constructor
  · intro hany
    obtain ⟨name, hname, hsame⟩ := (Option.any_eq_true _ _).1 hany
    obtain ⟨y, hy, rfl, -⟩ := exists_outline_of_interface h hh hi hname
    rw [hname, eq_of_sameIgnoringCase h hy hx hsame]
  · intro hv
    rw [hv]
    exact Text.sameIgnoringCase_refl _

/-- The name servers on a vlan. -/
theorem mem_dnsServersOn (h : s.findings = []) (hp : s.addressPlan = .ok p) (hw : w ∈ p.vlans) :
    a ∈ s.dnsServersOn p w ↔ s.HasNameServer p w.name a := by
  have hhosts := hosts_of_addressPlan hp
  rw [vlans_of_addressPlan hp] at hw
  obtain ⟨x, hx, w, ho, rfl⟩ := exists_of_mem_planVlans h hw
  rw [name_completeVlan ho]
  simp only [dnsServersOn, hostsWithRole, name_completeVlan ho, List.mem_flatMap,
    List.mem_filterMap, List.mem_filter]
  constructor
  · rintro ⟨g, ⟨host, ⟨hh, hr⟩, hg⟩, ha⟩
    rw [host?_planHosts h hhosts hh] at hg
    obtain rfl := Option.some.inj hg
    refine ⟨host, hh, hr, _, ?_, rfl, (mem_fixedAddressesOn_iff h hh hx).1 ha⟩
    rw [hhosts]
    exact List.mem_map_of_mem hh
  · rintro ⟨host, hh, hr, g, hg, hname, ha⟩
    rw [hhosts] at hg
    obtain ⟨other, ho, rfl⟩ := List.mem_map.1 hg
    obtain rfl := eq_of_key_eq (nodup_hostnames h) ho hh hname
    exact ⟨_, ⟨other, ⟨hh, hr⟩, host?_planHosts h hhosts hh⟩,
      (mem_fixedAddressesOn_iff h hh hx).2 ha⟩

/-- **The name servers for a vlan** are those on it or, for a routable vlan
    without any, those on all routable vlans. -/
theorem mem_dnsServersFor (h : s.findings = []) (hp : s.addressPlan = .ok p) (hw : w ∈ p.vlans) :
    a ∈ s.dnsServersFor p w ↔ s.HasNameServer p w.name a ∨
      w.routable = true ∧ (∀ b, ¬s.HasNameServer p w.name b) ∧
        ∃ w' ∈ p.vlans, w'.routable = true ∧ s.HasNameServer p w'.name a := by
  have hon := fun b => mem_dnsServersOn (a := b) h hp hw
  have hrouted : a ∈ (p.vlans.filter (·.routable)).flatMap (s.dnsServersOn p) ↔
      ∃ w' ∈ p.vlans, w'.routable = true ∧ s.HasNameServer p w'.name a := by
    simp only [List.mem_flatMap, List.mem_filter, and_assoc]
    exact exists_congr fun w' => and_congr_right fun hw' => and_congr_right fun _ =>
      mem_dnsServersOn h hp hw'
  unfold dnsServersFor
  split
  next hnil =>
    have hnone : ∀ b, ¬s.HasNameServer p w.name b := fun b hb => by
      have hmem := (hon b).2 hb
      rw [hnil] at hmem
      cases hmem
    rw [or_iff_right (hnone a), and_iff_right hnone, ← hrouted]
    cases w.routable with
    | false => simp
    | true => simp
  next servers hne =>
    rw [hon a, or_iff_left]
    rintro ⟨-, hnone, -⟩
    obtain ⟨b, hb⟩ := List.exists_mem_of_ne_nil _ hne
    exact hnone b ((hon b).1 hb)

/-! ## Settings -/

/-- The settings of a vlan have its name servers with addresses of the family. -/
theorem exists_vlan_of_mem_subnets (h : s.findings = []) (hp : s.addressPlan = .ok p) {f : Family}
    {d : DhcpSubnet f} (hd : d ∈ (s.dhcpSettings p).subnets f) :
    ∃ w ∈ p.vlans, d.vlan = w.name ∧ ∀ a, a ∈ d.dnsServers ↔ .of a ∈ s.dnsServersFor p w := by
  have hvlans := vlans_of_addressPlan hp
  have hmem : ∀ y ∈ s.vlansWithPlan p, y.2 ∈ p.vlans := by
    intro y hy
    obtain ⟨x, hx, w, hw, rfl⟩ := (mem_vlansWithPlan h hvlans).1 hy
    rw [hvlans]
    exact completeVlan_mem_planVlans h hx hw
  have hservers : ∀ (w : PlannedVlan) (a : Address f),
      a ∈ (s.dnsServersFor p w).filterMap (·.inFamily? f) ↔ .of a ∈ s.dnsServersFor p w := by
    intro w a
    simp only [List.mem_filterMap, IpAddress.inFamily?_eq_some, exists_eq_right]
  cases f with
  | v4 =>
    obtain ⟨⟨v, w⟩, hy, hd⟩ := List.mem_filterMap.1 hd
    obtain ⟨-, hd⟩ := Option.ite_none_left_eq_some.1 hd
    obtain rfl := Option.some.inj hd
    exact ⟨w, hmem _ hy, rfl, hservers w⟩
  | v6 =>
    obtain ⟨⟨v, w⟩, hy, hd⟩ := List.mem_filterMap.1 hd
    obtain ⟨n, -, hd⟩ := Option.bind_eq_some_iff.1 hd
    obtain ⟨-, hd⟩ := Option.ite_none_left_eq_some.1 hd
    obtain rfl := Option.some.inj hd
    exact ⟨w, hmem _ hy, rfl, hservers w⟩

/-- The addresses of name servers on a vlan lie in it. -/
theorem HasNameServer.covers (h : s.findings = []) (hp : s.addressPlan = .ok p) (hw : w ∈ p.vlans)
    (ha : s.HasNameServer p w.name a) : w.Covers a := by
  obtain ⟨host, -, -, g, hg, -, i, hi, hv, ha⟩ := ha
  rw [hosts_of_addressPlan hp] at hg
  rw [vlans_of_addressPlan hp] at hw
  obtain ⟨other, hother, rfl⟩ := List.mem_map.1 hg
  obtain ⟨x, hx, w, ho, rfl⟩ := exists_of_mem_planVlans h hw
  rw [name_completeVlan ho] at hv
  obtain ⟨y, hy, hname, w', ho', hall⟩ := exists_outline_of_interface h hother hi hv
  obtain rfl := eq_of_name_eq h hy hx hname
  obtain rfl := Option.some.inj (ho.symm.trans ho')
  exact covers_completeVlan.2 (hall a ha).2.1

/-- **Leases come with name servers that can be reached.**  Each of them is a
    fixed address that a name server has on the vlan or, if the vlan is routable,
    on some routable vlan.  There are some exactly if a name server on the vlan
    has an address of the family, or if the vlan is routable, has no name server
    at all, and some routable vlan has one with an address of the family. -/
theorem leased_nameservers {templates : List Template} {plan : BuildPlan}
    (h : s.compile templates = .ok plan) {f : Family} {d : DhcpSubnet f}
    (hd : d ∈ (s.dhcpSettings plan.addresses).subnets f) :
    ∃ w ∈ plan.addresses.vlans, d.vlan = w.name ∧
      (∀ a ∈ d.dnsServers, ∃ w' ∈ plan.addresses.vlans,
        (w' = w ∨ w.routable = true ∧ w'.routable = true) ∧
          s.HasNameServer plan.addresses w'.name (.of a) ∧ w'.Covers (.of a)) ∧
      (d.dnsServers ≠ [] ↔
        (∃ a : Address f, s.HasNameServer plan.addresses w.name (.of a)) ∨
          w.routable = true ∧ (∀ b, ¬s.HasNameServer plan.addresses w.name b) ∧
            ∃ w' ∈ plan.addresses.vlans, w'.routable = true ∧
              ∃ a : Address f, s.HasNameServer plan.addresses w'.name (.of a)) := by
  obtain ⟨hf, hp⟩ := addresses_of_compile h
  obtain ⟨w, hw, hname, hservers⟩ := exists_vlan_of_mem_subnets hf hp hd
  have hmem := fun a => (hservers a).trans (mem_dnsServersFor hf hp hw)
  refine ⟨w, hw, hname, fun a ha => ?_, ?_⟩
  · rcases (hmem a).1 ha with hon | ⟨hr, -, w', hw', hr', hon⟩
    · exact ⟨w, hw, .inl rfl, hon, hon.covers hf hp hw⟩
    · exact ⟨w', hw', .inr ⟨hr, hr'⟩, hon, hon.covers hf hp hw'⟩
  · constructor
    · intro hne
      obtain ⟨a, ha⟩ := List.exists_mem_of_ne_nil _ hne
      rcases (hmem a).1 ha with hon | ⟨hr, hnone, w', hw', hr', hon⟩
      · exact .inl ⟨a, hon⟩
      · exact .inr ⟨hr, hnone, w', hw', hr', a, hon⟩
    · rintro (⟨a, hon⟩ | ⟨hr, hnone, w', hw', hr', a, hon⟩)
      · exact List.ne_nil_of_mem ((hmem a).2 (.inl hon))
      · exact List.ne_nil_of_mem ((hmem a).2 (.inr ⟨hr, hnone, w', hw', hr', hon⟩))

/-- A site with two name servers, one of which has an IPv4 address alone, and a
    third vlan without any. -/
def halved : Site where
  name := "home"
  domain := "example.net"
  switches := [{
    name := "sw"
    vlans := [
      { name := "lan", ipv4Subnet := "10.0.1.0/24", ipv6Subnet := some "fd00:1::/64"
        dhcp6Managed := true },
      { name := "srv", id := some 20, ipv4Subnet := "10.0.2.0/24"
        ipv6Subnet := some "fd00:2::/64", allowDhcp := false },
      { name := "iot", id := some 30, ipv4Subnet := "10.0.3.0/24"
        ipv6Subnet := some "fd00:3::/64", dhcp6Managed := true }] }]
  hosts := [
    { hostname := "gw", roles := [.router], interfaces := [{ uplink := some "wan0" }] },
    { hostname := "dns1"
      roles := [.dns]
      interfaces := [{ switch := some "sw", ipv4 := .fixed "10.0.1.2", ipv6Disabled := true }] },
    { hostname := "dns2"
      roles := [.dns]
      interfaces := [
        { switch := some "sw", vlan := some (.name "srv"), ipv4 := .fixed "10.0.2.2"
          ipv6 := some (.fixed "fd00:2::2") }] }]

theorem halved_compiles : ∃ plan, halved.compile [] = .ok plan :=
  exists_compile_nil (by with_unfolding_all decide) (by decide) (by with_unfolding_all decide)
    (by decide) (by with_unfolding_all decide) (by decide)

/-- The name server with both addresses. -/
theorem halved_hasNameServer {plan : BuildPlan} (h : halved.compile [] = .ok plan) :
    halved.HasNameServer plan.addresses "srv"
      (.of (.ofNat 0xfd000002000000000000000000000002 : Address .v6)) := by
  obtain ⟨host, hh, hr, g, hg, hname, i, hi, hv, ha⟩ : ∃ host ∈ halved.hosts,
      host.hasRole .dns = true ∧ ∃ g ∈ halved.planHosts, g.hostname = host.hostname ∧
        ∃ i ∈ g.interfaces, i.vlan = some "srv" ∧
          .of (.ofNat 0xfd000002000000000000000000000002 : Address .v6) ∈ i.fixedAddresses := by
    decide
  rw [← hosts_of_addressPlan (addresses_of_compile h).2] at hg
  exact ⟨host, hh, hr, g, hg, hname, i, hi, hv, ha⟩

theorem halved_not_hasNameServer {plan : BuildPlan} (h : halved.compile [] = .ok plan)
    (b : IpAddress) : ¬halved.HasNameServer plan.addresses "iot" b := by
  rintro ⟨host, hh, hr, g, hg, hname, i, hi, hv, -⟩
  rw [hosts_of_addressPlan (addresses_of_compile h).2] at hg
  have hnone : ∀ host ∈ halved.hosts, host.hasRole .dns = true → ∀ g ∈ halved.planHosts,
      g.hostname = host.hostname → ∀ i ∈ g.interfaces, i.vlan ≠ some "iot" := by
    decide
  exact hnone host hh hr g hg hname i hi hv

/-- The vlan without name servers has this one. -/
theorem halved_leased : ∃ plan d, halved.compile [] = .ok plan ∧
    d ∈ (halved.dhcpSettings plan.addresses).subnets .v6 ∧ d.vlan = "iot" ∧
    ∃ a ∈ d.dnsServers, ∃ w ∈ plan.addresses.vlans, w.routable = true ∧
      halved.HasNameServer plan.addresses w.name (.of a) ∧ w.Covers (.of a) := by
  obtain ⟨plan, hplan⟩ := halved_compiles
  have haddresses := addresses_eq_of_compile hplan
  obtain ⟨d, hd, hiot⟩ : ∃ d ∈ (halved.dhcpSettings halved.plannedAddresses).subnets .v6,
      d.vlan = "iot" := by
    with_unfolding_all decide
  obtain ⟨srv, hsrv, hname⟩ : ∃ w ∈ halved.plannedAddresses.vlans, w.name = "srv" := by decide
  have hroutable : ∀ w ∈ plan.addresses.vlans, w.routable = true := by
    rw [haddresses]
    decide
  rw [← haddresses] at hd hsrv
  obtain ⟨w, hw, hvlan, hsound, hiff⟩ := leased_nameservers hplan hd
  have hnone := halved_not_hasNameServer hplan
  have hother := halved_hasNameServer hplan
  rw [← hiot, hvlan] at hnone
  rw [← hname] at hother
  have hne : d.dnsServers ≠ [] :=
    hiff.2 (.inr ⟨hroutable w hw, hnone, srv, hsrv, hroutable srv hsrv, _, hother⟩)
  obtain ⟨a, ha⟩ := List.exists_mem_of_ne_nil _ hne
  obtain ⟨w', hw', -, hon, hcovers⟩ := hsound a ha
  exact ⟨plan, d, hplan, hd, hiot, a, ha, w', hw', hroutable w' hw', hon, hcovers⟩

/-- **A name server may keep all others away**: the IPv6 leases of a routable
    vlan come with no name server, though one on a routable vlan has an IPv6
    address. -/
theorem halved_nameservers : ∃ plan, halved.compile [] = .ok plan ∧
    ∃ d ∈ (halved.dhcpSettings plan.addresses).subnets .v6, ∃ w ∈ plan.addresses.vlans,
      d.vlan = w.name ∧ w.routable = true ∧ d.dnsServers = [] ∧
      ∃ w' ∈ plan.addresses.vlans, w'.routable = true ∧
        ∃ a : Address .v6, halved.HasNameServer plan.addresses w'.name (.of a) := by
  obtain ⟨plan, hplan⟩ := halved_compiles
  have haddresses := addresses_eq_of_compile hplan
  obtain ⟨d, hd, w, hw, hvlan, hr, hnil⟩ :
      ∃ d ∈ (halved.dhcpSettings halved.plannedAddresses).subnets .v6,
        ∃ w ∈ halved.plannedAddresses.vlans,
          d.vlan = w.name ∧ w.routable = true ∧ d.dnsServers = [] := by
    with_unfolding_all decide
  obtain ⟨w', hw', hr', hname⟩ :
      ∃ w' ∈ halved.plannedAddresses.vlans, w'.routable = true ∧ w'.name = "srv" := by
    decide
  rw [← haddresses] at hd hw hw'
  exact ⟨plan, hplan, d, hd, w, hw, hvlan, hr, hnil, w', hw', hr', _,
    hname ▸ halved_hasNameServer hplan⟩

end Site

end NetworkSite
