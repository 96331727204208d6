/-
  What a valid site promises of its vlans and hosts.

  The names of vlans differ, up to their case, so that a vlan is the only one
  of its name (`Site.namesake_eq`), and those of one switch differ by their tags
  (`Site.eq_of_id_eq`).  Each has an IPv4 subnet, an IPv6 subnet that it writes
  is readable, and the declared subnets of two vlans have no common address.
  The names of hosts differ, so that a name finds its host (`Site.findHost?_eq`).
-/
import NetworkSite.Check
import NetworkSite.Data.Keyed
import NetworkSite.Proofs.Networks

namespace NetworkSite

open Finding

/-! ## Subnets of one vlan -/

namespace Vlan

variable {v : Vlan} {earlier : List Vlan}

theorem subnet6?_eq_some {n : Network .v6} :
    v.subnet6? = some n ↔
      ∃ text, v.explicitIpv6? = some text ∧ Network.ofText? text = some n ∧ n.length ≤ 64 := by
  simp only [subnet6?, Option.bind_eq_some_iff, Option.filter_eq_some_iff, decide_eq_true_eq]

theorem overlapFindings_eq_nil {f : Family} {subnet : Network f}
    {subnet? : Vlan → Option (Network f)} :
    v.overlapFindings subnet (earlier.filterMap fun w => (subnet? w).map (w, ·)) = [] ↔
      ∀ w ∈ earlier, ∀ m, subnet? w = some m → subnet.overlaps m = false := by
  simp only [overlapFindings, List.flatMap_eq_nil_iff, forbid_eq_nil]
  constructor
  · intro h w hw m hm
    exact h (w, m) (List.mem_filterMap.2 ⟨w, hw, by rw [hm]; rfl⟩)
  · intro h x hx
    obtain ⟨w, hw, hx⟩ := List.mem_filterMap.1 hx
    obtain ⟨m, hm, rfl⟩ := Option.map_eq_some_iff.1 hx
    exact h w hw m hm

theorem leases_and_isNone_eq_false {α : Type} {leases : Bool} {range? : Option α} :
    (leases && range?.isNone) = false ↔ (leases = true → range?.isSome = true) := by
  cases leases <;> cases range? <;> simp

/-- The check of the IPv4 subnet says nothing of a vlan whose subnet is
    readable, overlaps none in front and has room for its pool. -/
theorem subnet4Findings_eq_nil :
    v.subnet4Findings earlier = [] ↔
      ∃ n, v.subnet4? = some n ∧ (∀ w ∈ earlier, ∀ m, w.subnet4? = some m → n.overlaps m = false) ∧
        (v.allowDhcp = true → (v.range4? n).isSome = true) := by
  unfold subnet4Findings
  constructor
  · intro h
    split at h
    next => cases h
    next n hn =>
      rw [List.append_eq_nil_iff, overlapFindings_eq_nil, forbid_eq_nil,
        leases_and_isNone_eq_false] at h
      exact ⟨n, Network.ofText?_eq_some.2 hn, h⟩
  · rintro ⟨n, hn, h⟩
    rw [Network.ofText?_eq_some.1 hn]
    dsimp only
    rwa [List.append_eq_nil_iff, overlapFindings_eq_nil, forbid_eq_nil,
      leases_and_isNone_eq_false]

/-- The check of the IPv6 subnet says nothing of a vlan that writes none, or one
    that is readable, overlaps none in front and has room for its pool. -/
theorem subnet6Findings_eq_nil :
    v.subnet6Findings earlier = [] ↔
      v.explicitIpv6? = none ∨
      ∃ n, v.subnet6? = some n ∧ (∀ w ∈ earlier, ∀ m, w.subnet6? = some m → n.overlaps m = false) ∧
        (v.dhcp6Managed = true → (v.range6? n).isSome = true) := by
  unfold subnet6Findings
  constructor
  · intro h
    split at h
    next he => exact .inl he
    next text ht =>
      right
      split at h
      next => cases h
      next n hn =>
        split at h
        next => cases h
        next hl =>
          rw [List.append_eq_nil_iff, overlapFindings_eq_nil, forbid_eq_nil,
            leases_and_isNone_eq_false] at h
          have hn := Network.ofText?_eq_some.2 hn
          exact ⟨n, subnet6?_eq_some.2 ⟨text, ht, hn, Nat.le_of_not_lt hl⟩, h⟩
  · rintro (he | ⟨n, hn, h⟩)
    · rw [he]
    · obtain ⟨text, ht, hn, hl⟩ := subnet6?_eq_some.1 hn
      rw [ht]
      dsimp only
      rw [Network.ofText?_eq_some.1 hn]
      dsimp only
      rwa [if_neg (Nat.not_lt.2 hl), List.append_eq_nil_iff, overlapFindings_eq_nil,
        forbid_eq_nil, leases_and_isNone_eq_false]

theorem range4?_isSome {n : Network .v4} (h : (v.range4? n).isSome = true) :
    0 < v.dhcp4First.toNat ∧ v.dhcp4First.toNat ≤ v.dhcp4Last.toNat ∧
      v.dhcp4Last.toNat < n.size - 1 := by
  unfold range4? at h
  split at h
  next hb => exact ⟨UInt32.lt_iff_toNat_lt.1 hb.1, UInt32.le_iff_toNat_le.1 hb.2.1, hb.2.2⟩
  next => cases h

theorem range6?_isSome {n : Network .v6} (h : (v.range6? n).isSome = true) :
    0 < v.dhcp6First.toNat ∧ v.dhcp6First.toNat ≤ v.dhcp6Last.toNat := by
  unfold range6? at h
  split at h
  next hb => exact ⟨UInt64.lt_iff_toNat_lt.1 hb.1, UInt64.le_iff_toNat_le.1 hb.2⟩
  next => cases h

end Vlan

/-! ## All vlans of a valid site -/

namespace Site

variable {s : Site} {x y : Switch × Vlan}

theorem findings_eq_nil :
    s.findings = [] ↔ s.ownFindings = [] ∧ s.switchFindings = [] ∧ s.subnetFindings = [] ∧
      s.hostFindings = [] ∧ s.hostingFindings = [] ∧ s.interfaceFindings = [] ∧
      s.addressFindings = [] ∧ s.policyFindings = [] := by
  simp only [findings, List.append_eq_nil_iff, and_assoc]

theorem map_snd_vlans (s : Site) : s.vlans.map (·.2) = s.switches.flatMap (·.vlans) := by
  simp [vlans, List.map_flatMap, Function.comp_def]

theorem switchFindings_of_mem (h : s.findings = []) {y : List Switch × Switch}
    (hy : y ∈ withEarlier s.switches) :
    y.2.ownFindings y.1 = [] ∧ y.2.vlanFindings s y.1 = [] ∧ y.2.untaggedFindings = [] := by
  have hs := (findings_eq_nil.1 h).2.1
  simp only [switchFindings, List.append_eq_nil_iff, List.flatMap_eq_nil_iff] at hs
  simpa only [and_assoc] using hs.1.2 y hy

theorem vlanFindings_of_mem (h : s.findings = []) {y : List Switch × Switch}
    (hy : y ∈ withEarlier s.switches) {z : List Vlan × Vlan} (hz : z ∈ withEarlier y.2.vlans) :
    z.2.idFindings y.2 z.1 = [] ∧ z.2.nameFindings (y.1.flatMap (·.vlans) ++ z.1) = [] ∧
      z.2.domainFindings s = [] ∧ z.2.accessFindings s = [] := by
  have hv := (switchFindings_of_mem h hy).2.1
  simp only [Switch.vlanFindings, List.flatMap_eq_nil_iff, List.append_eq_nil_iff] at hv
  simpa only [and_assoc] using hv z hz

/-- Names of vlans differ, up to their case. -/
theorem pairwise_names (h : s.findings = []) :
    (s.vlans.map (·.2)).Pairwise fun v w => Text.lower v.name ≠ Text.lower w.name := by
  have hn : ∀ x ∈ withEarlier s.switches, ∀ y ∈ withEarlier x.2.vlans,
      ∀ w ∈ x.1.flatMap (·.vlans) ++ y.1, Text.lower w.name ≠ Text.lower y.2.name := by
    intro x hx y hy w hw
    have hf := (vlanFindings_of_mem h hx hy).2.1
    simp only [Vlan.nameFindings, List.append_eq_nil_iff, forbid_eq_nil, List.any_eq_false,
      beq_iff_eq] at hf
    exact hf.1 w hw
  rw [map_snd_vlans, List.pairwise_flatMap]
  constructor
  · intro switch hm
    obtain ⟨before, hb⟩ := exists_mem_withEarlier hm
    exact pairwise_of_withEarlier fun y hy w hw => hn _ hb y hy w (List.mem_append_right _ hw)
  · refine pairwise_of_withEarlier fun x hx switch hm w hw v hv => ?_
    obtain ⟨earlier, he⟩ := exists_mem_withEarlier hv
    exact hn x hx _ he w (List.mem_append_left _ (List.mem_flatMap.2 ⟨switch, hm, hw⟩))

theorem mem_vlans {switch : Switch} {v : Vlan} :
    (switch, v) ∈ s.vlans ↔ switch ∈ s.switches ∧ v ∈ switch.vlans := by
  simp only [vlans, List.mem_flatMap, List.mem_map, Prod.mk.injEq]
  constructor
  · rintro ⟨switch', hs, v', hv, rfl, rfl⟩
    exact ⟨hs, hv⟩
  · rintro ⟨hs, hv⟩
    exact ⟨switch, hs, v, hv, rfl, rfl⟩

theorem isReservedName_eq_false (h : s.findings = []) (hx : x ∈ s.vlans) :
    Vlan.isReservedName x.2.name = false := by
  obtain ⟨hs, hv⟩ := mem_vlans.1 hx
  obtain ⟨before, hb⟩ := exists_mem_withEarlier hs
  obtain ⟨earlier, he⟩ := exists_mem_withEarlier hv
  have hf := (vlanFindings_of_mem h hb he).2.1
  simp only [Vlan.nameFindings, List.append_eq_nil_iff, forbid_eq_nil] at hf
  exact hf.2

theorem isSome_lookupVlan?_of_mem_accessVlans (h : s.findings = []) (hx : x ∈ s.vlans)
    {ref : VlanRef} (hr : ref ∈ x.2.accessVlans) (hall : ref.isAll = false) :
    (s.lookupVlan? none ref).isSome = true := by
  obtain ⟨hs, hv⟩ := mem_vlans.1 hx
  obtain ⟨before, hb⟩ := exists_mem_withEarlier hs
  obtain ⟨earlier, he⟩ := exists_mem_withEarlier hv
  have hf := (vlanFindings_of_mem h hb he).2.2.2
  simp only [Vlan.accessFindings, List.flatMap_eq_nil_iff, require_eq_nil] at hf
  simpa [hall] using hf ref hr

theorem nodup_names (h : s.findings = []) : ((s.vlans.map (·.2)).map (·.name)).Nodup := by
  rw [List.Nodup, List.pairwise_map]
  exact (pairwise_names h).imp fun hn he => hn (by rw [he])

theorem eq_of_lower_eq (h : s.findings = []) (hx : x ∈ s.vlans) (hy : y ∈ s.vlans)
    (hn : Text.lower x.2.name = Text.lower y.2.name) : x = y := by
  have hnodup : (s.vlans.map fun x => Text.lower x.2.name).Nodup := by
    have hnames := List.pairwise_map.1 (pairwise_names h)
    exact List.pairwise_map.2 hnames
  exact eq_of_key_eq hnodup hx hy hn

theorem eq_of_name_eq (h : s.findings = []) (hx : x ∈ s.vlans) (hy : y ∈ s.vlans)
    (hn : x.2.name = y.2.name) : x = y :=
  eq_of_lower_eq h hx hy (congrArg Text.lower hn)

theorem eq_of_sameIgnoringCase (h : s.findings = []) (hx : x ∈ s.vlans) (hy : y ∈ s.vlans)
    (hn : Text.sameIgnoringCase x.2.name y.2.name = true) : x = y :=
  eq_of_lower_eq h hx hy (Text.lower_eq_of_sameIgnoringCase hn)

theorem filter_name_eq (h : s.findings = []) (hx : x ∈ s.vlans) :
    (s.vlans.map (·.2)).filter (·.name == x.2.name) = [x.2] :=
  filter_key_eq (nodup_names h) (List.mem_map_of_mem hx)

theorem namesake_eq (h : s.findings = []) (hx : x ∈ s.vlans) : s.namesake x.2 = x.2 := by
  rw [namesake, filter_name_eq h hx]
  rfl

theorem domainFindings_eq_nil (h : s.findings = []) (hx : x ∈ s.vlans) :
    x.2.domainFindings s = [] := by
  obtain ⟨hs, hv⟩ := mem_vlans.1 hx
  obtain ⟨before, hb⟩ := exists_mem_withEarlier hs
  obtain ⟨earlier, he⟩ := exists_mem_withEarlier hv
  exact (vlanFindings_of_mem h hb he).2.2.1

/-! ### Switches and tags -/

theorem nodup_switchNames (h : s.findings = []) : (s.switches.map (·.name)).Nodup := by
  rw [List.Nodup, List.pairwise_map]
  refine pairwise_of_withEarlier fun y hy before hb he => ?_
  have hown := (switchFindings_of_mem h hy).1
  simp only [Switch.ownFindings, List.append_eq_nil_iff, forbid_eq_nil, List.any_eq_false,
    beq_iff_eq] at hown
  exact hown.1.1 before hb he

/-- The vlans of a switch have different tags, and one of them at most has
    none. -/
theorem nodup_ids (h : s.findings = []) {switch : Switch} (hs : switch ∈ s.switches) :
    (switch.vlans.map (·.id)).Nodup := by
  obtain ⟨before, hb⟩ := exists_mem_withEarlier hs
  rw [List.Nodup, List.pairwise_map]
  refine pairwise_of_withEarlier fun (earlier, v) hv w hw he => ?_
  cases hid : v.id with
  | some id =>
    have hf := (vlanFindings_of_mem h hb hv).1
    simp only [Vlan.idFindings, hid, List.append_eq_nil_iff, forbid_eq_nil, List.any_eq_false,
      beq_iff_eq] at hf
    exact hf.2 w hw (he.trans hid)
  | none =>
    have hf := (switchFindings_of_mem h hb).2.2
    obtain ⟨back, hvlans⟩ := mem_withEarlier.1 hv
    have hfront : 0 < earlier.countP (·.id.isNone) :=
      List.countP_pos_iff.2 ⟨w, hw, by rw [he, hid]; rfl⟩
    have hrest : 0 < (v :: back).countP (·.id.isNone) :=
      List.countP_pos_iff.2 ⟨v, List.mem_cons_self, by rw [hid]; rfl⟩
    simp only [Switch.untaggedFindings, forbid_eq_nil, decide_eq_false_iff_not, hvlans,
      List.countP_append] at hf
    omega

theorem eq_of_id_eq (h : s.findings = []) (hx : x ∈ s.vlans) (hy : y ∈ s.vlans)
    (hs : x.1.name = y.1.name) (hi : x.2.id = y.2.id) : x = y := by
  obtain ⟨hxs, hxv⟩ := mem_vlans.1 hx
  obtain ⟨hys, hyv⟩ := mem_vlans.1 hy
  have hswitch : x.1 = y.1 := eq_of_key_eq (nodup_switchNames h) hxs hys hs
  rw [← hswitch] at hyv
  exact Prod.ext hswitch (eq_of_key_eq (nodup_ids h hxs) hxv hyv hi)

/-! ### Subnets -/

theorem subnetFindings_of_mem (h : s.findings = []) {y : List Vlan × Vlan}
    (hy : y ∈ withEarlier (s.vlans.map (·.2))) :
    y.2.subnet4Findings y.1 = [] ∧ y.2.subnet6Findings y.1 = [] ∧ y.2.lengthFindings = [] := by
  have hs := (findings_eq_nil.1 h).2.2.1
  simp only [subnetFindings, List.flatMap_eq_nil_iff] at hs
  simpa only [List.append_eq_nil_iff, and_assoc] using hs y hy

theorem exists_subnet4 (h : s.findings = []) (hx : x ∈ s.vlans) :
    ∃ n, x.2.subnet4? = some n ∧ (x.2.allowDhcp = true → 0 < x.2.dhcp4First.toNat ∧
      x.2.dhcp4First.toNat ≤ x.2.dhcp4Last.toNat ∧ x.2.dhcp4Last.toNat < n.size - 1) := by
  obtain ⟨earlier, he⟩ := exists_mem_withEarlier (List.mem_map_of_mem (f := (·.2)) hx)
  obtain ⟨n, hn, -, hr⟩ := Vlan.subnet4Findings_eq_nil.1 (subnetFindings_of_mem h he).1
  exact ⟨n, hn, fun hd => Vlan.range4?_isSome (hr hd)⟩

theorem exists_subnet6 (h : s.findings = []) (hx : x ∈ s.vlans)
    (ht : x.2.explicitIpv6?.isSome = true) :
    ∃ n, x.2.subnet6? = some n ∧ (x.2.dhcp6Managed = true → 0 < x.2.dhcp6First.toNat ∧
      x.2.dhcp6First.toNat ≤ x.2.dhcp6Last.toNat) := by
  obtain ⟨earlier, he⟩ := exists_mem_withEarlier (List.mem_map_of_mem (f := (·.2)) hx)
  rcases Vlan.subnet6Findings_eq_nil.1 (subnetFindings_of_mem h he).2.1 with hn | ⟨n, hn, -, hr⟩
  · rw [hn] at ht
    cases ht
  · exact ⟨n, hn, fun hd => Vlan.range6?_isSome (hr hd)⟩

theorem pairwise_subnet4 (h : s.findings = []) :
    (s.vlans.map (·.2)).Pairwise fun v w =>
      ∀ m n, v.subnet4? = some m → w.subnet4? = some n → m.overlaps n = false := by
  refine pairwise_of_withEarlier fun y hy v hv m n hm hn => ?_
  obtain ⟨n', hn', ho, -⟩ := Vlan.subnet4Findings_eq_nil.1 (subnetFindings_of_mem h hy).1
  obtain rfl : n' = n := Option.some.inj (hn'.symm.trans hn)
  rw [Network.overlaps_comm]
  exact ho v hv m hm

theorem pairwise_subnet6 (h : s.findings = []) :
    (s.vlans.map (·.2)).Pairwise fun v w =>
      ∀ m n, v.subnet6? = some m → w.subnet6? = some n → m.overlaps n = false := by
  refine pairwise_of_withEarlier fun y hy v hv m n hm hn => ?_
  rcases Vlan.subnet6Findings_eq_nil.1 (subnetFindings_of_mem h hy).2.1 with he | ⟨n', hn', ho, -⟩
  · obtain ⟨text, ht, -⟩ := Vlan.subnet6?_eq_some.1 hn
    rw [he] at ht
    cases ht
  · obtain rfl : n' = n := Option.some.inj (hn'.symm.trans hn)
    rw [Network.overlaps_comm]
    exact ho v hv m hm

/-! ### Hosts -/

theorem mem_hosts_of_router? {router : Host} (h : s.router? = some router) : router ∈ s.hosts :=
  (List.mem_filter.1 (List.mem_of_mem_head? h)).1

theorem nodup_hostnames (h : s.findings = []) : (s.hosts.map (·.hostname)).Nodup := by
  have hf := (findings_eq_nil.1 h).2.2.2.1
  simp only [hostFindings, List.append_eq_nil_iff, List.flatMap_eq_nil_iff] at hf
  rw [List.Nodup, List.pairwise_map]
  refine pairwise_of_withEarlier fun y hy before hb he => ?_
  have hown := hf.1 y hy
  simp only [Host.ownFindings, List.append_eq_nil_iff, forbid_eq_nil, List.any_eq_false,
    beq_iff_eq] at hown
  exact hown.1.1.2 before hb he

theorem findHost?_eq (h : s.findings = []) {host : Host} (hh : host ∈ s.hosts) :
    s.findHost? host.hostname = some host :=
  find?_key_eq (nodup_hostnames h) hh

end Site

end NetworkSite
