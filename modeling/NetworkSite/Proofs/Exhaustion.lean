/-
  Which errors a valid site can still get from its addresses.

  The check makes sure that subnets are readable and that no claim is refused,
  so that only the delegated prefix and empty pools can stand in the way of a
  plan.  An IPv4 pool of a valid site has every address at its offsets but the
  gateway's (`Site.contains_pool4`), since the check keeps fixed addresses out
  of it; it is empty if the gateway is all that it has.  The check and the plan
  therefore agree but for one slip (`Site.addressing_errors`): it accepts a
  vlan that leases the address of its gateway and no other.
-/
import NetworkSite.Proofs.Agreement
import NetworkSite.Proofs.Leases

namespace NetworkSite

/-- The vlan leases the address at the offset of its gateway and no other. -/
def Vlan.LeasesGatewayOnly (v : Vlan) : Prop :=
  v.allowDhcp = true ∧ v.routable = true ∧ v.dhcp4First = 1 ∧ v.dhcp4Last = 1

/-! ## Errors of the delegation -/

/-- The error is about the shares of a delegated prefix. -/
def AddressingError.IsDelegation : AddressingError → Prop
  | badSubnet .. | conflict .. | poolExhausted .. => False
  | delegationOverflow .. | badDelegationLength .. | noDelegation .. | sharedDelegationIndex .. |
    ipv6Overlap .. => True

namespace Site

variable {s : Site} {e : AddressingError}

theorem isDelegation_of_shareAt {r : PrefixRequest} {v : Vlan} {index : Option Nat}
    (h : shareAt r v index = .error e) : e.IsDelegation := by
  cases index with
  | none => cases h; trivial
  | some index =>
    simp only [shareAt, PrefixRequest.share] at h
    split at h <;> cases h <;> trivial

theorem isDelegation_of_mem_shareErrors {r : PrefixRequest} (h : e ∈ s.shareErrors r) :
    e.IsDelegation := by
  rcases List.mem_append.1 h with h | h
  · obtain ⟨⟨before, v⟩, -, h⟩ := List.mem_filterMap.1 h
    obtain ⟨index, -, h⟩ := Option.bind_eq_some_iff.1 h
    obtain ⟨other, -, h⟩ := Option.bind_eq_some_iff.1 h
    cases h
    trivial
  · obtain ⟨⟨v, share⟩, hm, h⟩ := List.mem_filterMap.1 h
    obtain ⟨⟨u, index⟩, -, hs⟩ := List.mem_map.1 hm
    cases hs
    dsimp only at h
    split at h
    next => cases h
    next e' he => cases h; exact isDelegation_of_shareAt he

theorem isDelegation_of_mem_delegationErrors (h : e ∈ s.delegationErrors) : e.IsDelegation := by
  unfold delegationErrors assignDelegated at h
  split at h
  next => cases h
  next errors he =>
    split at he
    next => cases he
    next =>
      split at he
      next =>
        cases he
        obtain ⟨v, -, rfl⟩ := List.mem_map.1 h
        trivial
      next r _ =>
        split at he
        next =>
          split at he
          next => cases he
          next =>
            cases he
            obtain ⟨⟨before, vlan, span⟩, -, h⟩ := List.mem_flatMap.1 h
            obtain ⟨y, -, rfl⟩ := List.mem_map.1 h
            trivial
        next => cases he; exact isDelegation_of_mem_shareErrors h

end Site

/-! ## IPv4 pools -/

namespace Vlan

variable {v : Vlan} {n : Network .v4}

theorem exists_leased4? (hd : v.allowDhcp = true) (hn : v.subnet4? = some n)
    (hb : 0 < v.dhcp4First.toNat ∧ v.dhcp4First.toNat ≤ v.dhcp4Last.toNat ∧
      v.dhcp4Last.toNat < n.size - 1) :
    ∃ r, v.leased4? = some r ∧ r.first.toNat = n.base + v.dhcp4First.toNat ∧
      r.last.toNat = n.base + v.dhcp4Last.toNat := by
  obtain ⟨hpos, hle, hlt⟩ := hb
  obtain ⟨first, hf⟩ := Network.exists_nth? (n := n) (o := v.dhcp4First.toNat) (by omega)
  obtain ⟨last, hl⟩ := Network.exists_nth? (n := n) (o := v.dhcp4Last.toNat) (by omega)
  have hrange : v.range4? n = some { first, last } := by
    rw [range4?, if_pos ⟨UInt32.lt_iff_toNat_lt.2 hpos, UInt32.le_iff_toNat_le.2 hle, hlt⟩, hf, hl]
  refine ⟨{ first, last }, ?_, (Network.nth?_eq_some.1 hf).2, (Network.nth?_eq_some.1 hl).2⟩
  rw [leased4?, if_pos hd, hn]
  exact hrange

end Vlan

namespace Site

variable {s : Site} {x : Switch × Vlan} {w : PlannedVlan} {a : Address .v4} {o : String}

/-- A placed address is at none of the offsets that the vlan leases. -/
theorem Placed.not_leased4 (h : s.findings = []) (hx : x ∈ s.vlans) (hp : s.Placed x.2 (.v4 a) o)
    (hd : x.2.allowDhcp = true) {n : Network .v4} (hn : x.2.subnet4? = some n) :
    ¬∃ k, x.2.dhcp4First.toNat ≤ k ∧ k ≤ x.2.dhcp4Last.toNat ∧ a.toNat = n.base + k := by
  rintro ⟨k, hlo, hhi, hk⟩
  obtain ⟨n', hn', hb⟩ := exists_subnet4 h hx
  obtain rfl : n = n' := Option.some.inj (hn.symm.trans hn')
  obtain ⟨r, hr, hfirst, hlast⟩ := Vlan.exists_leased4? hd hn (hb hd)
  have hfree := hp.free
  simp only [poolFindings, namesake_eq h hx, Vlan.leasedBounds?, hr, Option.map_some,
    Finding.forbid_eq_nil, Bool.and_eq_false_iff, decide_eq_false_iff_not] at hfree
  rcases hfree with hfree | hfree
  · exact hfree (show r.first.toNat ≤ a.toNat by omega)
  · exact hfree (show a.toNat ≤ r.last.toNat by omega)

/-- Nobody claims an address at these offsets, but for the gateway. -/
theorem gateway4_of_claims (h : s.findings = []) (hx : x ∈ s.vlans)
    (hw : s.vlanOutline? s.effectiveDelegation x.1 x.2 = some w) (hd : x.2.allowDhcp = true)
    (hin : w.subnet4.contains a = true)
    (hk : ∃ k, x.2.dhcp4First.toNat ≤ k ∧ k ≤ x.2.dhcp4Last.toNat ∧ a.toNat = w.subnet4.base + k)
    (hc : s.Claims (.v4 a) o) : w.gateway4 = some a := by
  obtain ⟨y, hy, w', hw', hcov, ho⟩ := exists_vlan_of_claims h hc
  obtain rfl : x = y := eq_of_covers (a := .v4 a) h hx hy hw hw' hin hcov
  obtain rfl : w = w' := Option.some.inj (hw.symm.trans hw')
  rcases ho with hp | ⟨hg, -⟩
  · exact absurd hk (hp.not_leased4 h hx hd (subnet4_of_vlanOutline? hw))
  · simpa [PlannedVlan.gateways] using hg

/-- **An IPv4 pool has every address at its offsets but the gateway's.** -/
theorem contains_pool4 (h : s.findings = []) (hx : x ∈ s.vlans)
    (hw : s.vlanOutline? s.effectiveDelegation x.1 x.2 = some w) {c : CarvedPool .v4}
    (hc : x.2.carve4? s.outlines s.claims = some c) :
    c.pool.contains a = true ↔
      (∃ k, x.2.dhcp4First.toNat ≤ k ∧ k ≤ x.2.dhcp4Last.toNat ∧ a.toNat = w.subnet4.base + k) ∧
        w.gateway4 ≠ some a := by
  obtain ⟨hd, hc⟩ := (carve4?_eq_some s.claims h hx hw).1 hc
  obtain ⟨n, hn, hb⟩ := exists_subnet4 h hx
  obtain rfl : n = w.subnet4 := Option.some.inj (hn.symm.trans (subnet4_of_vlanOutline? hw))
  obtain ⟨hpos, -, hlt⟩ := hb hd
  rw [Registry.contains_carvePool? hc, show IpAddress.of a = .v4 a from rfl,
    owner?_claims_eq_none (claimErrors_eq_nil h)]
  refine and_congr_right fun ⟨k, hlo, hhi, hk⟩ => ?_
  constructor
  · rintro ⟨hr, -⟩ hg
    exact hr (by simp [hg])
  · intro hg
    have hfirst : a ≠ w.subnet4.first := fun he => by
      rw [he, Network.toNat_first] at hk
      omega
    have hlast : a ≠ w.subnet4.last := fun he => by
      rw [he, Network.toNat_last] at hk
      omega
    have hin : w.subnet4.contains a = true := Network.contains_iff.2 ⟨by omega, by omega⟩
    refine ⟨by simp [hfirst, hlast, hg], fun ⟨o, ho⟩ => hg ?_⟩
    exact gateway4_of_claims h hx hw hd hin ⟨k, hlo, hhi, hk⟩ ho

/-- A pool that has been carved is empty if the gateway is all that it would
    have. -/
theorem pool4_isEmpty_iff (h : s.findings = []) (hx : x ∈ s.vlans) {c : CarvedPool .v4}
    (hc : x.2.carve4? s.outlines s.claims = some c) :
    c.pool.isEmpty = true ↔ x.2.LeasesGatewayOnly := by
  obtain ⟨w, hw⟩ := exists_vlanOutline? (d := s.effectiveDelegation) h hx
  obtain ⟨hd, hcarve⟩ := (carve4?_eq_some s.claims h hx hw).1 hc
  obtain ⟨n, hn, hb⟩ := exists_subnet4 h hx
  obtain rfl : n = w.subnet4 := Option.some.inj (hn.symm.trans (subnet4_of_vlanOutline? hw))
  obtain ⟨hpos, hle, hlt⟩ := hb hd
  rw [Registry.isEmpty_iff_of_carvePool? hcarve]
  simp only [← Bool.not_eq_true, contains_pool4 h hx hw hc, not_and, ne_eq,
    Classical.not_not]
  constructor
  · -- The last address can only be missing if it is the gateway.
    intro hall
    obtain ⟨a, ha⟩ := Network.exists_nth? (n := w.subnet4) (o := x.2.dhcp4Last.toNat) (by omega)
    obtain ⟨-, ha⟩ := Network.nth?_eq_some.1 ha
    obtain ⟨hr, hg⟩ := (gateway4_eq_some hw).1 (hall a ⟨_, hle, Nat.le_refl _, ha⟩)
    obtain ⟨-, hone⟩ := Network.nth?_eq_some.1 (Network.nth?_of_gateway? hg)
    have hlast : x.2.dhcp4Last.toNat = 1 := by omega
    have hfirst : x.2.dhcp4First.toNat = 1 := by omega
    exact ⟨hd, hr, UInt32.toNat_inj.1 hfirst, UInt32.toNat_inj.1 hlast⟩
  · rintro ⟨-, hr, hfirst, hlast⟩ a ⟨k, hlo, hhi, hk⟩
    have hfirst : x.2.dhcp4First.toNat = 1 := by rw [hfirst]; rfl
    have hlast : x.2.dhcp4Last.toNat = 1 := by rw [hlast]; rfl
    obtain rfl : k = 1 := by omega
    refine (gateway4_eq_some hw).2 ⟨hr, Network.gateway?_eq_some.2 ⟨fun hs => ?_, ?_⟩⟩
    · omega
    · exact Network.nth?_eq_some.2 ⟨by omega, hk⟩

/-! ## Errors of pools -/

theorem mem_carvedErrors {f : Family} {c : CarvedPool f} {vlan : String} {e : AddressingError} :
    e ∈ c.errors vlan ↔ c.pool.isEmpty = true ∧
      e = .poolExhausted vlan (.of c.bounds.first) (.of c.bounds.last) := by
  rw [CarvedPool.errors]
  split
  next he => simp [he]
  next he => simp [he]

theorem mem_poolErrors {e : AddressingError} :
    e ∈ s.poolErrors ↔ ∃ x ∈ s.vlans,
      (∃ c, x.2.carve4? s.outlines s.claims = some c ∧ c.pool.isEmpty = true ∧
        e = .poolExhausted x.2.name (.v4 c.bounds.first) (.v4 c.bounds.last)) ∨
      ∃ c, x.2.carve6? s.outlines s.claims = some c ∧ c.pool.isEmpty = true ∧
        e = .poolExhausted x.2.name (.v6 c.bounds.first) (.v6 c.bounds.last) := by
  simp only [poolErrors, Vlan.poolErrors, List.mem_flatMap, List.mem_append, Option.mem_toList,
    mem_carvedErrors, IpAddress.of]

/-- An IPv4 pool is exhausted exactly if all that the vlan leases is its
    gateway. -/
theorem poolExhausted4_iff (h : s.findings = []) {name : String} :
    (∃ first last, .poolExhausted name (.v4 first) (.v4 last) ∈ s.addressingErrors) ↔
      ∃ x ∈ s.vlans, x.2.name = name ∧ x.2.LeasesGatewayOnly := by
  constructor
  · rintro ⟨first, last, hm⟩
    simp only [addressingErrors, claimErrors_eq_nil h, List.append_nil, List.mem_append] at hm
    rcases hm with hm | hm
    · exact absurd (isDelegation_of_mem_delegationErrors hm) id
    · rcases mem_poolErrors.1 hm with ⟨x, hx, ⟨c, hc, hempty, he⟩ | ⟨c, -, -, he⟩⟩
      · cases he
        exact ⟨x, hx, rfl, (pool4_isEmpty_iff h hx hc).1 hempty⟩
      · cases he
  · rintro ⟨x, hx, rfl, hg⟩
    obtain ⟨c, hc⟩ := exists_carve4? h hx hg.1
    refine ⟨c.bounds.first, c.bounds.last, List.mem_append_right _ (mem_poolErrors.2 ⟨x, hx, ?_⟩)⟩
    exact .inl ⟨c, hc, (pool4_isEmpty_iff h hx hc).2 hg, rfl⟩

theorem addressPlan_eq_error_iff {errors : List AddressingError} :
    s.addressPlan = .error (.errors errors) ↔
      s.crossedLookup? = none ∧ s.addressingErrors = errors ∧ errors ≠ [] := by
  unfold addressPlan
  split
  next hc => simp [hc]
  next hc =>
    split
    next he => simp [hc, he, eq_comm]
    next hne =>
      simp only [hc, Except.error.injEq, AddressingFailure.errors.injEq, true_and]
      exact ⟨fun he => ⟨he, he ▸ hne⟩, fun he => he.1⟩

/-- **The check and the plan agree on subnets, claims and IPv4 pools.**  If a
    valid site cannot be given its addresses, then no error is about an
    unreadable subnet or a refused claim, and an IPv4 pool is exhausted exactly
    for the vlans that lease their gateway's address and no other.  If it can,
    there is no such vlan. -/
theorem addressing_errors (h : s.findings = []) :
    (∀ errors, s.addressPlan = .error (.errors errors) →
      (∀ vlan e, .badSubnet vlan e ∉ errors) ∧
      (∀ vlan a owner other, .conflict vlan a owner other ∉ errors) ∧
      ∀ name, (∃ first last, .poolExhausted name (.v4 first) (.v4 last) ∈ errors) ↔
        ∃ x ∈ s.vlans, x.2.name = name ∧ x.2.LeasesGatewayOnly) ∧
    ∀ p, s.addressPlan = .ok p → ∀ x ∈ s.vlans, ¬x.2.LeasesGatewayOnly := by
  have hother : ∀ e ∈ s.addressingErrors,
      e.IsDelegation ∨ ∃ vlan first last, e = .poolExhausted vlan first last := by
    intro e he
    simp only [addressingErrors, claimErrors_eq_nil h, List.append_nil, List.mem_append] at he
    rcases he with he | he
    · exact .inl (isDelegation_of_mem_delegationErrors he)
    · rcases mem_poolErrors.1 he with ⟨x, -, ⟨c, -, -, rfl⟩ | ⟨c, -, -, rfl⟩⟩
      · exact .inr ⟨_, _, _, rfl⟩
      · exact .inr ⟨_, _, _, rfl⟩
  constructor
  · intro errors hp
    obtain ⟨-, rfl, -⟩ := addressPlan_eq_error_iff.1 hp
    refine ⟨fun vlan e he => ?_, fun vlan a owner other he => ?_, fun name => poolExhausted4_iff h⟩
    · rcases hother _ he with hd | ⟨_, _, _, hd⟩ <;> cases hd
    · rcases hother _ he with hd | ⟨_, _, _, hd⟩ <;> cases hd
  · intro p hp x hx hg
    obtain ⟨-, he, -⟩ := addressPlan_eq_ok_iff.1 hp
    obtain ⟨first, last, hm⟩ := (poolExhausted4_iff h).2 ⟨x, hx, rfl, hg⟩
    rw [he] at hm
    cases hm

/-- A site with a vlan that leases its gateway's address and no other. -/
def cramped : Site where
  name := "home"
  domain := "example.net"
  switches := [{
    name := "sw"
    vlans := [
      { name := "lan", ipv4Subnet := "10.0.0.0/24", dhcp4First := 1, dhcp4Last := 1 },
      { name := "lab", id := some 20, ipv4Subnet := "10.0.1.0/24" }] }]

/-- The pool of the first vlan is exhausted, and nothing else is wrong. -/
theorem cramped_errors : cramped.findings = [] ∧ ∃ errors,
    cramped.addressPlan = .error (.errors errors) ∧
      (∃ first last, .poolExhausted "lan" (.v4 first) (.v4 last) ∈ errors) ∧
      ¬∃ first last, .poolExhausted "lab" (.v4 first) (.v4 last) ∈ errors := by
  have hf : cramped.findings = [] := by decide
  have hlan : ∃ x ∈ cramped.vlans, x.2.name = "lan" ∧ x.2.LeasesGatewayOnly :=
    ⟨_, List.mem_cons_self, rfl, rfl, rfl, rfl, rfl⟩
  obtain ⟨first, last, hm⟩ := (poolExhausted4_iff hf).2 hlan
  have hp : cramped.addressPlan = .error (.errors cramped.addressingErrors) :=
    addressPlan_eq_error_iff.2 ⟨by decide, rfl, List.ne_nil_of_mem hm⟩
  obtain ⟨-, -, hpool⟩ := (addressing_errors hf).1 _ hp
  refine ⟨hf, _, hp, (hpool "lan").2 hlan, ?_⟩
  rw [hpool "lab"]
  rintro ⟨x, hx, hn, -, -, hone, -⟩
  simp only [vlans, cramped, List.flatMap_cons, List.map_cons, List.map_nil, List.flatMap_nil,
    List.append_nil, List.mem_cons, List.not_mem_nil, or_false] at hx
  rcases hx with rfl | rfl
  · simp at hn
  · simp at hone

end Site

end NetworkSite
