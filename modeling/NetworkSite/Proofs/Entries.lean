/-
  Which entries of a plan share an address.

  Entries lie in the subnets of their vlans, so that entries of two vlans have
  nothing in common.  Within a vlan an address has one claimant, but that is
  only a name: the interfaces of one host may have the same address, and an
  entry that the vlan declares may have the name and the address of a host.
  Nothing else is shared (`Site.shared_address`).
-/
import NetworkSite.Proofs.Coverage

namespace NetworkSite

/-- Two entries may be of one name: not both are declared, and not both are the
    gateway's. -/
def Entry.MayAgree (e e' : Entry) : Prop :=
  ¬(e.IsDeclared ∧ e'.IsDeclared) ∧ ¬(e.kind = .gateway ∧ e'.kind = .gateway)

namespace Entry.MayAgree

variable {e e' : Entry}

theorem symm (h : e.MayAgree e') : e'.MayAgree e :=
  ⟨fun hd => h.1 hd.symm, fun hg => h.2 hg.symm⟩

theorem of_interface (h : e.kind = .interface) : e.MayAgree e' := by
  constructor
  · rintro ⟨hd | hd, -⟩ <;> rw [h] at hd <;> cases hd
  · rintro ⟨hg, -⟩
    rw [h] at hg
    cases hg

theorem of_gateway (h : e.kind = .gateway) (h' : e'.kind ≠ .gateway) : e.MayAgree e' := by
  constructor
  · rintro ⟨hd | hd, -⟩ <;> rw [h] at hd <;> cases hd
  · exact fun hg => h' hg.2

end Entry.MayAgree

namespace Site

variable {s : Site} {x : Switch × Vlan} {w : PlannedVlan} {a : IpAddress} {e e' : Entry}

/-! ## Names -/

theorem kind_of_mem_hostEntries {outlines : List PlannedVlan} {hosts : List Host}
    (he : e ∈ hosts.flatMap (s.hostEntries outlines w)) : e.kind = .interface := by
  obtain ⟨host, -, he⟩ := List.mem_flatMap.1 he
  obtain ⟨i, -, he⟩ := List.mem_filterMap.1 he
  exact (PlannedVlan.addresses_of_interfaceEntry? he).2.1

/-- Entries of one vlan with one name are of a host, except that one of them may
    be declared. -/
theorem pairwise_mayAgree (h : s.findings = []) (hx : x ∈ s.vlans)
    (hw : s.vlanOutline? s.effectiveDelegation x.1 x.2 = some w) :
    (s.completeVlan s.outlines s.claims w).entries.Pairwise fun e e' =>
      e.hostname = e'.hostname → e.MayAgree e' := by
  obtain ⟨n, -, rfl⟩ := vlanOutline?_eq_some.1 hw
  rw [completeVlan, outlineOn, List.append_assoc]
  -- The gateway's entry comes first, then the declared ones, then those of hosts.
  refine List.pairwise_append.2 ⟨?_, List.pairwise_append.2 ⟨?_, ?_, ?_⟩, ?_⟩
  · split
    · cases s.router? with
      | none => exact List.Pairwise.nil
      | some router => exact List.pairwise_singleton _ _
    · exact List.Pairwise.nil
  · exact (pairwise_hostnames h hx).imp fun hne he => absurd (by rw [he]) hne
  · exact List.pairwise_of_forall_mem_list fun e he e' _ _ =>
      .of_interface (kind_of_mem_hostEntries he)
  · exact fun e _ e' he' _ => (Entry.MayAgree.of_interface (kind_of_mem_hostEntries he')).symm
  · intro e he e' he' _
    have hg : e.kind = .gateway := by
      split at he
      · obtain ⟨router, -, rfl⟩ := List.mem_map.1 he
        rfl
      · cases he
    refine .of_gateway hg fun hg' => ?_
    rcases List.mem_append.1 he' with he' | he'
    · rcases isDeclared_of_mem he' with hd | hd <;> rw [hg'] at hd <;> cases hd
    · rw [kind_of_mem_hostEntries he'] at hg'
      cases hg'

theorem exists_host_of_not_isDeclared {switch : Switch} {v : Vlan}
    (hw : s.vlanOutline? s.effectiveDelegation switch v = some w)
    (he : e ∈ (s.completeVlan s.outlines s.claims w).entries) (hd : ¬e.IsDeclared) :
    ∃ host ∈ s.hosts, host.hostname = e.hostname := by
  rcases (mem_entries_completeVlan hw).1 he with
    ⟨-, router, hr, rfl⟩ | he | ⟨host, hh, i, -, -, he⟩
  · exact ⟨router, mem_hosts_of_router? hr, rfl⟩
  · exact absurd (isDeclared_of_mem he) hd
  · exact ⟨host, hh, (PlannedVlan.addresses_of_interfaceEntry? he).1.symm⟩

/-- **Entries share an address only within a host.**  Two entries with a common
    address stand on one vlan under one name, which is that of a host; not both
    are declared, and not both are the gateway's. -/
theorem shared_address (h : s.findings = []) {p : AddressPlan} (hp : s.addressPlan = .ok p)
    (i j k l : Nat) (v w : PlannedVlan) (hv : p.vlans[i]? = some v) (hw : p.vlans[j]? = some w)
    (e e' : Entry) (he : v.entries[k]? = some e) (he' : w.entries[l]? = some e')
    (hne : (i, k) ≠ (j, l)) (a : IpAddress) (ha : a ∈ e.addresses) (ha' : a ∈ e'.addresses) :
    i = j ∧ e.hostname = e'.hostname ∧ (∃ host ∈ s.hosts, host.hostname = e.hostname) ∧
      ¬(e.IsDeclared ∧ e'.IsDeclared) ∧ ¬(e.kind = .gateway ∧ e'.kind = .gateway) := by
  obtain ⟨-, hr, rfl⟩ := addressPlan_eq_ok_iff.1 hp
  obtain ⟨-, hc, -⟩ := addressingErrors_eq_nil.1 hr
  obtain ⟨x, hx, v, hox, rfl⟩ := exists_of_getElem?_planVlans h hv
  obtain ⟨y, hy, w, hoy, rfl⟩ := exists_of_getElem?_planVlans h hw
  have hmx := List.mem_of_getElem? hx
  have hmy := List.mem_of_getElem? hy
  have hme := List.mem_of_getElem? he
  have hme' := List.mem_of_getElem? he'
  -- Entries of two vlans lie in separate subnets.
  obtain rfl : i = j := Classical.byContradiction fun hij => by
    have hs := rel_of_pairwise PlannedVlan.Separate.symm (pairwise_separate_planVlans h) hij hv hw
    have hcx := covers_of_mem_entries h hmx hox hme ha
    have hcy := covers_of_mem_entries h hmy hoy hme' ha'
    exact hs.not_covers hcx hcy
  obtain rfl : x = y := Option.some.inj (hx.symm.trans hy)
  obtain rfl : v = w := Option.some.inj (hox.symm.trans hoy)
  -- On one vlan they have one claimant, and with it one name.
  have hn : e.hostname = e'.hostname :=
    claims_unique hc (claims_of_mem_entries hmx hox hme ha) (claims_of_mem_entries hmx hox hme' ha')
  have hkl : k ≠ l := fun hkl => hne (by rw [hkl])
  have hagree : e.MayAgree e' := by
    refine rel_of_pairwise (r := fun e e' => e.hostname = e'.hostname → e.MayAgree e')
      (fun hab hn => (hab hn.symm).symm) (pairwise_mayAgree h hmx hox) hkl he he' hn
  refine ⟨rfl, hn, ?_, hagree.1, hagree.2⟩
  by_cases hd : e.IsDeclared
  · obtain ⟨host, hh, he⟩ := exists_host_of_not_isDeclared hox hme' fun hd' => hagree.1 ⟨hd, hd'⟩
    exact ⟨host, hh, he.trans hn.symm⟩
  · exact exists_host_of_not_isDeclared hox hme hd

/-- A site whose entries share addresses in every way in which they can.  The
    router has its IPv6 gateway address on an interface and its IPv4 one as a
    static host as well; the other host has one address on two interfaces and
    as a static host. -/
def crowded : Site where
  name := "home"
  domain := "example.net"
  switches := [{
    name := "sw"
    vlans := [
      { name := "lan", ipv4Subnet := "10.0.0.0/24", ipv6Subnet := some "fd00:1::/64"
        allowDhcp := false
        staticHosts := [
          { hostname := "gw", ipv4 := "10.0.0.1" },
          { hostname := "nas", ipv4 := "10.0.0.5" }] }] }]
  hosts := [
    { hostname := "gw"
      roles := [.router]
      interfaces := [
        { uplink := some "wan0" },
        { switch := some "sw", ipv4 := .fixed "10.0.0.6", ipv6 := some (.fixed "fd00:1::1") }] },
    { hostname := "nas"
      interfaces := [
        { switch := some "sw", ipv4 := .fixed "10.0.0.5" },
        { switch := some "sw", ipv4 := .fixed "10.0.0.5" }] }]

/-- The entries of its only vlan: the gateway's, the static hosts, and those of
    interfaces. -/
def crowdedEntries : List Entry := [
  { hostname := "gw", kind := .gateway, ipv4 := some (.ofNat 0x0a000001)
    ipv6 := some (.ofNat 0xfd000001000000000000000000000001), aliases := ["router"] },
  { hostname := "gw", kind := .staticHost, ipv4 := some (.ofNat 0x0a000001), ipv6 := none },
  { hostname := "nas", kind := .staticHost, ipv4 := some (.ofNat 0x0a000005), ipv6 := none },
  { hostname := "gw", kind := .interface, ipv4 := some (.ofNat 0x0a000006)
    ipv6 := some (.ofNat 0xfd000001000000000000000000000001) },
  { hostname := "nas", kind := .interface, ipv4 := some (.ofNat 0x0a000005), ipv6 := none },
  { hostname := "nas", kind := .interface, ipv4 := some (.ofNat 0x0a000005), ipv6 := none }]

theorem crowded_addressPlan : crowded.addressPlan = .ok {
    vlans := crowded.planVlans, hosts := crowded.planHosts, request := crowded.prefixRequest? } :=
  addressPlan_eq_ok_iff.2 ⟨by decide, by decide, rfl⟩

theorem exists_crowdedEntries :
    ∃ w, crowded.planVlans[0]? = some w ∧ w.entries = crowdedEntries := by
  have h : crowded.planVlans[0]?.map (·.entries) = some crowdedEntries := by decide
  exact Option.map_eq_some_iff.1 h

/-- The interfaces of the second host have one entry each, and both the name of
    that host. -/
theorem crowded_shared_address : crowded.findings = [] ∧ ∃ w e e',
    crowded.planVlans[0]? = some w ∧ w.entries[4]? = some e ∧ w.entries[5]? = some e' ∧
      e.hostname = e'.hostname ∧ ∃ host ∈ crowded.hosts, host.hostname = e.hostname := by
  have hf : crowded.findings = [] := by with_unfolding_all decide
  obtain ⟨w, hw, he⟩ := exists_crowdedEntries
  have h₄ : w.entries[4]? = some crowdedEntries[4] := by rw [he]; rfl
  have h₅ : w.entries[5]? = some crowdedEntries[5] := by rw [he]; rfl
  obtain ⟨-, hn, hhost, -⟩ := shared_address hf crowded_addressPlan 0 0 4 5 w w hw hw _ _ h₄ h₅
    (by decide) (.v4 (.ofNat 0x0a000005)) (by decide) (by decide)
  exact ⟨hf, w, _, _, hw, h₄, h₅, hn, hhost⟩

/-- **Entries of a valid site may share addresses**: those of the two
    interfaces, those of an interface and a static host, and those of the
    gateway and either of these. -/
theorem crowded_conflict : crowded.findings = [] ∧ ∃ p w, crowded.addressPlan = .ok p ∧
    p.vlans[0]? = some w ∧ ∀ k l a, (k, l, a) ∈ [
        (4, 5, IpAddress.v4 (.ofNat 0x0a000005)), (2, 4, .v4 (.ofNat 0x0a000005)),
        (0, 1, .v4 (.ofNat 0x0a000001)), (0, 3, .v6 (.ofNat 0xfd000001000000000000000000000001))] →
      ∃ e e', w.entries[k]? = some e ∧ w.entries[l]? = some e' ∧ a ∈ e.addresses ∧
        a ∈ e'.addresses := by
  obtain ⟨w, hw, he⟩ := exists_crowdedEntries
  refine ⟨by with_unfolding_all decide, _, w, crowded_addressPlan, hw, fun k l a hm => ?_⟩
  rw [he]
  simp only [List.mem_cons, Prod.mk.injEq, List.not_mem_nil, or_false] at hm
  rcases hm with ⟨rfl, rfl, rfl⟩ | ⟨rfl, rfl, rfl⟩ | ⟨rfl, rfl, rfl⟩ | ⟨rfl, rfl, rfl⟩
  all_goals exact ⟨_, _, rfl, rfl, by decide, by decide⟩

end Site

end NetworkSite
