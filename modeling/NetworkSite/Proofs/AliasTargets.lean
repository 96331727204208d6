/-
  What aliases lead to.

  An alias leads to the name of an entry, and that has an address record if an
  entry of this name has an address.  Two kinds of entries may have none: that of a
  reservation that names no address, and that of a router on a subnet without
  a gateway (`Entry.Unaddressed`).  Nothing keeps these from having aliases, so an
  alias may lead to a name without address (`Site.alias_targets`,
  `Site.loose_aliases`).
-/
import NetworkSite.Proofs.AliasRecords
import NetworkSite.Proofs.DhcpSettings

namespace NetworkSite

/-! ## Gateways -/

namespace Network

variable {f : Family} {n : Network f}

theorem gateway?_eq_none : n.gateway? = none ↔ f = .v4 ∧ n.size ≤ 2 ∨ n.size ≤ 1 := by
  have hnth : n.nth? 1 = none ↔ n.size ≤ 1 := by
    unfold nth?
    split
    next h => simp [h]
    next h => simpa using h
  unfold gateway?
  split
  next h => simp [h]
  next h => rw [hnth, or_iff_right h]

theorem gateway?_v4_eq_none {n : Network .v4} : n.gateway? = none ↔ 31 ≤ n.length := by
  have hsize : n.size ≤ 2 ↔ 32 - n.length ≤ 1 := Nat.pow_le_pow_iff_right (m := 1) (by decide)
  have hle : n.length ≤ 32 := n.length_le
  rw [gateway?_eq_none, and_iff_right rfl]
  omega

theorem gateway?_v6_ne_none {n : Network .v6} (h : n.length ≤ 64) : n.gateway? ≠ none := by
  have hsize : 2 ^ 64 ≤ n.size := Nat.pow_le_pow_right (by decide) (by
    change 64 ≤ 128 - n.length
    omega)
  rw [ne_eq, gateway?_eq_none, not_or]
  constructor
  · rintro ⟨⟨⟩, -⟩
  · omega

end Network

/-! ## Entries without addresses -/

/-- How an entry of a vlan can have no address: it is that of a reservation that
    names none, or that of a router where the IPv4 subnet has no room for
    a gateway and no IPv6 subnet is known. -/
inductive Entry.Unaddressed (v : Vlan) (w : PlannedVlan) (e : Entry) : Prop
  | reservation {r : Reservation} (hr : r ∈ v.reservations) (he : e = r.entry) (h4 : r.ipv4 = none)
      (h6 : r.ipv6 = none) : Unaddressed v w e
  | gateway (hk : e.kind = .gateway) (h4 : 31 ≤ w.subnet4.length) (h6 : w.ipv6.subnet? = none) :
      Unaddressed v w e

theorem Entry.addresses_eq_nil {e : Entry} : e.addresses = [] ↔ e.ipv4 = none ∧ e.ipv6 = none := by
  simp [addresses]

namespace Site

variable {s : Site} {p : AddressPlan} {x : Switch × Vlan} {w : PlannedVlan} {e : Entry}

theorem ipv4_ne_none_of_staticHost (h : s.findings = []) (hx : x ∈ s.vlans) {host : StaticHost}
    (hh : host ∈ x.2.staticHosts) : host.entry.ipv4 ≠ none := by
  obtain ⟨before, hb⟩ := exists_mem_withEarlier hh
  have hsteps := staticHostSteps_subset hx hb
  simp only [staticHostSteps, List.append_subset] at hsteps
  obtain ⟨a, ha⟩ := exists_ofText?_of_entry4Steps h hsteps.1.2
  rw [StaticHost.entry, ha]
  exact Option.some_ne_none a

/-- The entry of a reservation has the addresses that the reservation names. -/
theorem addresses_reservation_eq_nil (h : s.findings = []) (hx : x ∈ s.vlans) {r : Reservation}
    (hr : r ∈ x.2.reservations) : r.entry.addresses = [] ↔ r.ipv4 = none ∧ r.ipv6 = none := by
  obtain ⟨lease, hlease, hfor⟩ := exists_dhcpReservation h hx hr x.2.name
  obtain ⟨mac, -, rfl⟩ := Option.map_eq_some_iff.1 hlease
  have hnone {f : Family} {text? : Option String} {a? : Option (Address f)}
      (hrel : Option.Rel (fun text a => Address.ofText? text = some a) text? a?) :
      a? = none ↔ text? = none := by
    cases hrel <;> simp
  rw [Entry.addresses_eq_nil]
  exact and_congr (hnone hfor.ipv4) (hnone hfor.ipv6)

/-- The gateway addresses of a routable vlan. -/
theorem gateways_eq_none_iff (h : s.findings = []) (hx : x ∈ s.vlans)
    (hw : s.vlanOutline? s.effectiveDelegation x.1 x.2 = some w) (hr : x.2.routable = true) :
    w.gateway4 = none ∧ w.gateway6 = none ↔ 31 ≤ w.subnet4.length ∧ w.ipv6.subnet? = none := by
  have h4 : w.gateway4 = none ↔ w.subnet4.gateway? = none := by
    simp only [Option.eq_none_iff_forall_ne_some, ne_eq, gateway4_eq_some hw, hr, true_and]
  have h6 : w.gateway6 = none ↔ w.ipv6.subnet? = none := by
    simp only [Option.eq_none_iff_forall_ne_some, ne_eq, gateway6_eq_some hw, hr, true_and,
      not_exists, not_and]
    refine ⟨fun hnone n hn => ?_, fun hnone a n hn => absurd hn (hnone n)⟩
    have hlength : n.length ≤ 64 := by
      rw [ipv6_of_vlanOutline? hw] at hn
      exact length_le_of_subnet?_ipv6Mode h hx hn
    obtain ⟨a, ha⟩ := Option.ne_none_iff_exists'.1 (Network.gateway?_v6_ne_none hlength)
    exact hnone a n hn ha
  rw [h4, h6, Network.gateway?_v4_eq_none]

/-- **Which entries have no address.** -/
theorem addresses_eq_nil_iff (h : s.findings = []) (hx : x ∈ s.vlans)
    (hw : s.vlanOutline? s.effectiveDelegation x.1 x.2 = some w)
    (he : e ∈ (s.completeVlan s.outlines s.claims w).entries) :
    e.addresses = [] ↔ e.Unaddressed x.2 (s.completeVlan s.outlines s.claims w) := by
  constructor
  · intro hnil
    rcases (mem_entries_completeVlan hw).1 he with
      ⟨hr, router, -, rfl⟩ | he | ⟨host, -, i, -, -, he⟩
    · obtain ⟨h4, h6⟩ := (gateways_eq_none_iff h hx hw hr).1 (Entry.addresses_eq_nil.1 hnil)
      exact .gateway rfl h4 h6
    · rcases List.mem_append.1 he with he | he
      · obtain ⟨host, hh, rfl⟩ := List.mem_map.1 he
        exact absurd (Entry.addresses_eq_nil.1 hnil).1 (ipv4_ne_none_of_staticHost h hx hh)
      · obtain ⟨r, hr, rfl⟩ := List.mem_map.1 he
        obtain ⟨h4, h6⟩ := (addresses_reservation_eq_nil h hx hr).1 hnil
        exact .reservation hr rfl h4 h6
    · rw [(PlannedVlan.addresses_of_interfaceEntry? he).2.2] at hnil
      exact absurd hnil (PlannedVlan.fixedAddresses_ne_nil_of_interfaceEntry? he)
  · rintro (⟨hr, rfl, h4, h6⟩ | ⟨hk, h4, h6⟩)
    · exact (addresses_reservation_eq_nil h hx hr).2 ⟨h4, h6⟩
    · obtain ⟨hr, router, -, rfl⟩ := exists_router_of_kind_gateway hw he hk
      exact Entry.addresses_eq_nil.2 ((gateways_eq_none_iff h hx hw hr).2 ⟨h4, h6⟩)

/-! ## Records -/

variable {t : DnsRecord}

/-- The records of a vlan: those of addresses, of aliases and of roles. -/
theorem mem_vlanRecords : t ∈ s.vlanRecords w ↔
    (∃ e ∈ w.entries, ∃ a ∈ e.addresses, t ∈ addressRecords (s.fullName e.hostname w.domain) a) ∨
    (∃ before e, (before, e) ∈ withEarlier w.entries ∧
      ∃ a ∈ ownAliases before e, t = s.aliasRecord w a e.hostname) ∨
    ∃ r, r ≠ .generic ∧ s.roleRecord? w r = some t := by
  rw [vlanRecords, List.mem_append, List.mem_flatMap, List.mem_filterMap, ← or_assoc]
  refine or_congr ?_ ?_
  · constructor
    · rintro ⟨⟨before, e⟩, he, hm⟩
      rcases List.mem_append.1 hm with hm | hm
      · obtain ⟨a, ha, hm⟩ := List.mem_flatMap.1 hm
        obtain ⟨back, hentries⟩ := mem_withEarlier.1 he
        exact .inl ⟨e, by simp [hentries], a, ha, hm⟩
      · obtain ⟨a, ha, rfl⟩ := List.mem_map.1 hm
        exact .inr ⟨before, e, he, a, ha, rfl⟩
    · rintro (⟨e, he, a, ha, hm⟩ | ⟨before, e, he, a, ha, rfl⟩)
      · obtain ⟨before, he⟩ := exists_mem_withEarlier he
        exact ⟨_, he, List.mem_append_left _ (List.mem_flatMap.2 ⟨a, ha, hm⟩)⟩
      · exact ⟨_, he, List.mem_append_right _ (List.mem_map.2 ⟨a, ha, rfl⟩)⟩
  · refine exists_congr fun r => and_congr_left fun _ => ?_
    rw [List.mem_filter, bne_iff_ne, and_iff_right]
    cases r <;> simp [Role.all]

/-- The aliases of a plan are those of entries and of roles on its vlans. -/
theorem mem_and_cname_iff : t ∈ s.dnsRecords p ∧ t.type = .cname ↔ ∃ w ∈ p.vlans,
    (∃ before e, (before, e) ∈ withEarlier w.entries ∧
      ∃ a ∈ ownAliases before e, t = s.aliasRecord w a e.hostname) ∨
    ∃ r, r ≠ .generic ∧ s.roleRecord? w r = some t := by
  simp only [dnsRecords, List.mem_flatMap, mem_vlanRecords]
  constructor
  · rintro ⟨⟨w, hw, ⟨e, -, a, -, hm⟩ | halias⟩, hc⟩
    · rcases List.mem_pair.1 hm with rfl | rfl
      · cases a <;> cases hc
      · cases hc
    · exact ⟨w, hw, halias⟩
  · rintro ⟨w, hw, halias⟩
    refine ⟨⟨w, hw, .inr halias⟩, ?_⟩
    rcases halias with ⟨before, e, -, a, -, rfl⟩ | ⟨r, -, hr⟩
    · rfl
    · exact type_of_mem_roleRecord hr

/-- An alias leads to the name of an entry on its vlan. -/
theorem exists_target (ht : t ∈ s.dnsRecords p) (hc : t.type = .cname) :
    ∃ w ∈ p.vlans, ∃ e ∈ w.entries, t.value = s.fullName e.hostname w.domain := by
  obtain ⟨w, hw, ⟨before, e, he, a, -, rfl⟩ | ⟨r, -, hr⟩⟩ := mem_and_cname_iff.1 ⟨ht, hc⟩
  · obtain ⟨back, hentries⟩ := mem_withEarlier.1 he
    exact ⟨w, hw, e, by simp [hentries], rfl⟩
  · obtain ⟨holder, hholder, -, rfl⟩ := roleRecord?_eq_some.1 hr
    have hon := List.find?_some hholder
    obtain ⟨e, he, hon⟩ := List.any_eq_true.1 hon
    simp only [Bool.and_eq_true, beq_iff_eq] at hon
    exact ⟨w, hw, e, he, by rw [hon.1]; rfl⟩

/-- A name has an address record if an entry with this name has an address. -/
theorem exists_isAddress_iff {name : String} :
    (∃ t ∈ s.dnsRecords p, t.isAddress = true ∧ t.name = name) ↔
      ∃ w ∈ p.vlans, ∃ e ∈ w.entries, e.addresses ≠ [] ∧ s.fullName e.hostname w.domain = name := by
  constructor
  · rintro ⟨t, ht, hk, rfl⟩
    obtain ⟨⟨name, a⟩, hx, rfl⟩ := mem_and_isAddress_iff.1 ⟨ht, hk⟩
    obtain ⟨w, hw, e, he, ha, rfl⟩ := mem_published.1 hx
    exact ⟨w, hw, e, he, List.ne_nil_of_mem ha, rfl⟩
  · rintro ⟨w, hw, e, he, hne, rfl⟩
    obtain ⟨a, ha⟩ := List.exists_mem_of_ne_nil _ hne
    obtain ⟨hm, hk⟩ := mem_and_isAddress_iff.2 ⟨_, mem_published.2 ⟨w, hw, e, he, ha, rfl⟩, rfl⟩
    exact ⟨_, hm, hk, rfl⟩

/-! ## Targets -/

/-- No entry that has the name has an address, on whatever vlan it is. -/
def LacksAddress (s : Site) (p : AddressPlan) (name : String) : Prop :=
  ∀ x ∈ s.vlans, ∀ w ∈ p.vlans, w.name = x.2.name → ∀ e ∈ w.entries,
    s.fullName e.hostname w.domain = name → e.Unaddressed x.2 w

theorem exists_outline_of_name_eq (h : s.findings = []) (hx : x ∈ s.vlans) (hw : w ∈ s.planVlans)
    (hn : w.name = x.2.name) : ∃ w', s.vlanOutline? s.effectiveDelegation x.1 x.2 = some w' ∧
      w = s.completeVlan s.outlines s.claims w' := by
  obtain ⟨y, hy, w, ho, rfl⟩ := exists_of_mem_planVlans h hw
  rw [name_completeVlan ho] at hn
  obtain rfl := eq_of_name_eq h hy hx hn
  exact ⟨w, ho, rfl⟩

theorem lacksAddress_iff (h : s.findings = []) (hp : p.vlans = s.planVlans) {name : String} :
    s.LacksAddress p name ↔ ∀ w ∈ p.vlans, ∀ e ∈ w.entries,
      s.fullName e.hostname w.domain = name → e.addresses = [] := by
  unfold LacksAddress
  rw [hp]
  constructor
  · intro hlacks w hw e he hn
    obtain ⟨x, hx, w, ho, rfl⟩ := exists_of_mem_planVlans h hw
    exact (addresses_eq_nil_iff h hx ho he).2 (hlacks x hx _ hw (name_completeVlan ho) e he hn)
  · intro hnil x hx w hw hname e he hn
    have hnil := hnil w hw e he hn
    obtain ⟨w, ho, rfl⟩ := exists_outline_of_name_eq h hx hw hname
    exact (addresses_eq_nil_iff h hx ho he).1 hnil

variable {templates : List Template} {plan : BuildPlan}

/-- **Where aliases lead.**  The target of an alias is the name of an entry of
    a vlan, and it has an address record unless all entries of this name are
    reservations without addresses and routers on subnets without a gateway. -/
theorem alias_targets (h : s.compile templates = .ok plan)
    (ht : t ∈ s.dnsRecords plan.addresses) (hc : t.type = .cname) :
    (∃ w ∈ plan.addresses.vlans, ∃ e ∈ w.entries, t.value = s.fullName e.hostname w.domain) ∧
    ((∃ r ∈ s.dnsRecords plan.addresses, r.isAddress = true ∧ r.name = t.value) ↔
      ¬s.LacksAddress plan.addresses t.value) := by
  obtain ⟨hf, hp⟩ := addresses_of_compile h
  refine ⟨exists_target ht hc, ?_⟩
  rw [exists_isAddress_iff, lacksAddress_iff hf (vlans_of_addressPlan hp)]
  simp only [not_forall, exists_prop, ne_eq]
  refine exists_congr fun w => and_congr_right fun _ => exists_congr fun e => ?_
  exact and_congr_right fun _ => and_comm

/-- The alias of a static host leads to its address. -/
theorem zoned_alias_target : ∃ plan t, zoned.compile [] = .ok plan ∧
    t ∈ zoned.dnsRecords plan.addresses ∧ t.type = .cname ∧ t.name = "files.example.net" ∧
    (∃ r ∈ zoned.dnsRecords plan.addresses, r.isAddress = true ∧ r.name = t.value) ∧
    ¬zoned.LacksAddress plan.addresses t.value := by
  obtain ⟨plan, hplan⟩ := zoned_compiles
  obtain ⟨t, ht, hc, hn, haddress⟩ : ∃ t ∈ zoned.dnsRecords plan.addresses, t.type = .cname ∧
      t.name = "files.example.net" ∧
      ∃ r ∈ zoned.dnsRecords plan.addresses, r.isAddress = true ∧ r.name = t.value := by
    rw [addresses_eq_of_compile hplan]
    decide
  exact ⟨plan, t, hplan, ht, hc, hn, haddress, (alias_targets hplan ht hc).2.1 haddress⟩

/-- A site with a reservation that names no address, and with a link between two
    routers, which has no room for a gateway. -/
def loose : Site where
  name := "home"
  domain := "example.net"
  switches := [{
    name := "sw"
    vlans := [
      { name := "lan", ipv4Subnet := "10.0.0.0/24"
        reservations := [
          { hostname := "tv", mac := "aa:bb:cc:dd:ee:01", aliases := ["telly"] }] },
      { name := "link", id := some 20, ipv4Subnet := "10.0.1.0/31", domain := "link.example.net"
        allowDhcp := false }] }]
  hosts := [
    { hostname := "gw", roles := [.router], interfaces := [{ uplink := some "wan0" }] }]

theorem loose_compiles : ∃ plan, loose.compile [] = .ok plan :=
  exists_compile_nil (by with_unfolding_all decide) (by decide) (by with_unfolding_all decide)
    (by decide) (by with_unfolding_all decide) (by decide)

/-- **Aliases may lead to no address**: that of the reservation, and that of the
    router on the link. -/
theorem loose_aliases : ∃ plan, loose.compile [] = .ok plan ∧
    ∀ t ∈ ([
        { name := "telly.example.net", type := .cname, value := "tv.example.net" },
        { name := "router.link.example.net", type := .cname, value := "gw.link.example.net" }] :
          List DnsRecord),
      t ∈ loose.dnsRecords plan.addresses ∧ ∀ r ∈ loose.dnsRecords plan.addresses,
        r.isAddress = true → Text.sameIgnoringCase r.name t.value = false := by
  obtain ⟨plan, hplan⟩ := loose_compiles
  refine ⟨plan, hplan, ?_⟩
  rw [addresses_eq_of_compile hplan]
  decide

end Site

end NetworkSite
