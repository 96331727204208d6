/-
  Two passes over the addresses of a site.

  The check claims the gateways of declared subnets first and then every other
  address; the plan claims vlan by vlan and host by host, and also the gateways
  of delegated subnets, which the check never sees.  Both are about the same
  owners: what is claimed on a vlan has been placed by the check, or it is the
  vlan's gateway (`Site.exists_vlan_of_claims`), and a gateway that the check
  has not claimed lies where it has placed nothing else.  So no address of a
  valid site has two claimants (`Site.claims_agree`), and the claims of the plan
  are granted in whatever order they come (`Site.claimErrors_eq_nil`).
-/
import NetworkSite.Proofs.Coverage

namespace NetworkSite

namespace Site

variable {s : Site} {x y : Switch × Vlan} {v w : PlannedVlan} {a : IpAddress} {o o' : String}

/-! ## Subnets -/

/-- An address lies in the subnets of one vlan only. -/
theorem eq_of_covers (h : s.findings = []) (hx : x ∈ s.vlans) (hy : y ∈ s.vlans)
    (hv : s.vlanOutline? s.effectiveDelegation x.1 x.2 = some v)
    (hw : s.vlanOutline? s.effectiveDelegation y.1 y.2 = some w) (hva : v.Covers a)
    (hwa : w.Covers a) : x = y := by
  obtain ⟨i, hi⟩ := List.getElem?_of_mem hx
  obtain ⟨j, hj⟩ := List.getElem?_of_mem hy
  by_cases hij : i = j
  · rw [hij] at hi
    exact Option.some.inj (hi.symm.trans hj)
  · obtain ⟨v', hv', hi⟩ := getElem?_planVlans h hi
    obtain ⟨w', hw', hj⟩ := getElem?_planVlans h hj
    obtain rfl : v = v' := Option.some.inj (hv.symm.trans hv')
    obtain rfl : w = w' := Option.some.inj (hw.symm.trans hw')
    have hsep := rel_of_pairwise PlannedVlan.Separate.symm (pairwise_separate_planVlans h) hij hi hj
    exact absurd (covers_completeVlan.2 hwa) (hsep.not_covers (covers_completeVlan.2 hva))

/-- The gateways of a vlan that lie in its declared subnets are among those that
    the check claims. -/
theorem mem_gateways_of_holds (h : s.findings = []) (hx : x ∈ s.vlans)
    (hw : s.vlanOutline? s.effectiveDelegation x.1 x.2 = some w) (ha : a ∈ w.gateways)
    (hin : x.2.holds a = true) : a ∈ s.gateways := by
  simp only [PlannedVlan.gateways, List.mem_append, Option.mem_toList, Option.map_eq_some_iff] at ha
  rcases ha with ⟨b, hb, rfl⟩ | ⟨b, hb, rfl⟩
  · obtain ⟨hr, hg⟩ := (gateway4_eq_some hw).1 hb
    refine List.mem_flatMap.2 ⟨x, List.mem_filter.2 ⟨hx, hr⟩, List.mem_append_left _ ?_⟩
    simp [namesake_eq h hx, subnet4_of_vlanOutline? hw, hg]
  · -- A declared subnet goes before a delegated one, and this vlan declares one.
    obtain ⟨hr, n, hn, hg⟩ := (gateway6_eq_some hw).1 hb
    obtain ⟨m, hm, -⟩ := Vlan.holds_v6.1 hin
    rw [ipv6_of_vlanOutline? hw, (ipv6Mode_eq_fixed h hx).2 hm] at hn
    cases hn
    refine List.mem_flatMap.2 ⟨x, List.mem_filter.2 ⟨hx, hr⟩, List.mem_append_right _ ?_⟩
    simp [namesake_eq h hx, hm, hg]

/-! ## Owners -/

/-- The registry at the end of the check. -/
def checkedClaims (s : Site) : Registry :=
  (s.gatewayRegistry.run s.addressSteps).2

theorem owner?_checkedClaims_of_mem_gateways (ha : a ∈ s.gateways) :
    s.checkedClaims.owner? a = some s.gatewayOwner :=
  Registry.owner?_run_of_owner? (Registry.owner?_foldl_tryClaim nofun (.inr ha))

theorem Placed.owner?_checkedClaims {v : Vlan} (h : s.findings = []) (hp : s.Placed v a o) :
    s.checkedClaims.owner? a = some o := by
  obtain ⟨refused, hc⟩ := hp.claimed
  exact Registry.owner?_run_of_mem (findings_eq_nil.1 h).2.2.2.2.2.2.1 hc

theorem exists_vlan_of_claims (h : s.findings = []) (hc : s.Claims a o) :
    ∃ x ∈ s.vlans, ∃ w, s.vlanOutline? s.effectiveDelegation x.1 x.2 = some w ∧ w.Covers a ∧
      (s.Placed x.2 a o ∨ a ∈ w.gateways ∧ o = s.gatewayOwner) := by
  rcases hc with ⟨hx, hw, ha⟩ | ⟨hx, hw, he, ha⟩ | ⟨hh, hi, hv, ha⟩
  · exact ⟨_, hx, _, hw, covers_of_mem_gateways hw ha, .inr ⟨ha, rfl⟩⟩
  · have hp := placed_of_mem_entries h hx he ha
    exact ⟨_, hx, _, hw, covers_of_holds h hx hw hp.holds, .inl hp⟩
  · obtain ⟨name, j, x, w, -, -, hx, -, rfl⟩ := Host.exists_of_planDeclared hi hv
    have hx := mem_vlans_of_interfaceVlan? hx
    have hp := placed_of_planDeclared h hh hi hx rfl ha
    obtain ⟨w, hw⟩ := exists_vlanOutline? (d := s.effectiveDelegation) h hx
    exact ⟨x, hx, w, hw, covers_of_holds h hx hw hp.holds, .inl hp⟩

theorem Placed.eq_gatewayOwner (h : s.findings = []) (hx : x ∈ s.vlans)
    (hw : s.vlanOutline? s.effectiveDelegation x.1 x.2 = some w) (hp : s.Placed x.2 a o)
    (ha : a ∈ w.gateways) : o = s.gatewayOwner := by
  have hg := owner?_checkedClaims_of_mem_gateways (mem_gateways_of_holds h hx hw ha hp.holds)
  exact Option.some.inj ((hp.owner?_checkedClaims h).symm.trans hg)

/-- **No address of a valid site has two claimants.** -/
theorem claims_agree (h : s.findings = []) (hc : s.Claims a o) (hc' : s.Claims a o') : o = o' := by
  obtain ⟨x, hx, v, hv, hva, ho⟩ := exists_vlan_of_claims h hc
  obtain ⟨y, hy, w, hw, hwa, ho'⟩ := exists_vlan_of_claims h hc'
  obtain rfl : x = y := eq_of_covers h hx hy hv hw hva hwa
  obtain rfl : v = w := Option.some.inj (hv.symm.trans hw)
  rcases ho with hp | ⟨hg, rfl⟩
  · rcases ho' with hp' | ⟨hg', rfl⟩
    · exact Option.some.inj ((hp.owner?_checkedClaims h).symm.trans (hp'.owner?_checkedClaims h))
    · exact hp.eq_gatewayOwner h hx hv hg'
  · rcases ho' with hp' | ⟨-, rfl⟩
    · exact (hp'.eq_gatewayOwner h hx hv hg).symm
    · rfl

/-! ## The run of the plan -/

theorem subnetErrors_eq_nil (h : s.findings = []) (hx : x ∈ s.vlans) : x.2.subnetErrors = [] := by
  obtain ⟨n, hn, -⟩ := exists_subnet4 h hx
  unfold Vlan.subnetErrors
  rw [Network.ofText?_eq_some.1 hn]
  cases he : x.2.explicitIpv6? with
  | none => rfl
  | some text =>
    obtain ⟨m, hm, -⟩ := exists_subnet6 h hx (by rw [he]; rfl)
    obtain ⟨text', ht, hr, -⟩ := Vlan.subnet6?_eq_some.1 hm
    obtain rfl : text = text' := Option.some.inj (he.symm.trans ht)
    dsimp only
    rw [Network.ofText?_eq_some.1 hr]

theorem not_remark_planSteps (h : s.findings = []) (e : AddressingError) :
    .remark e ∉ s.planSteps := by
  intro hm
  rcases List.mem_append.1 hm with hm | hm
  · obtain ⟨x, hx, hm⟩ := List.mem_flatMap.1 hm
    rcases List.mem_append.1 hm with hm | hm
    · rw [subnetErrors_eq_nil h hx] at hm
      cases hm
    · split at hm
      · cases hm
      · simp [claimOn] at hm
  · obtain ⟨host, -, hm⟩ := List.mem_flatMap.1 hm
    obtain ⟨i, -, hm⟩ := List.mem_flatMap.1 hm
    split at hm
    · simp [claimOn] at hm
    · cases hm

/-- **The plan of a valid site is refused no claim and reads every subnet.** -/
theorem claimErrors_eq_nil (h : s.findings = []) : s.claimErrors = [] :=
  Registry.run_eq_nil s.Claims (fun _ _ _ => claims_agree h) nofun
    (not_remark_planSteps h) fun _ _ refused hm => mem_planSteps_iff.1 ⟨refused, hm⟩

end Site

end NetworkSite
