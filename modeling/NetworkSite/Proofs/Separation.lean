/-
  Vlans of a plan have no addresses in common.

  Three comparisons add up to this (`PlannedVlan.Separate`): the check compares
  declared subnets with each other, the delegation compares shares in units of a
  `/64`, whether or not the prefix is known, and known shares with declared
  subnets.  No pair is left out, because a vlan that declares a subnet never has
  a share as well (`Site.get?_of_explicit`).
-/
import NetworkSite.Proofs.Emission
import NetworkSite.Proofs.Outlines

namespace NetworkSite

/-- Two vlans have no address in common, and their shares of the delegated
    prefix have no unit in common. -/
structure PlannedVlan.Separate (v w : PlannedVlan) : Prop where
  subnet4 : ∀ a, ¬(v.subnet4.contains a = true ∧ w.subnet4.contains a = true)
  subnet6 : ∀ m n, v.ipv6.subnet? = some m → w.ipv6.subnet? = some n →
    ∀ a, ¬(m.contains a = true ∧ n.contains a = true)
  units : ∀ k l, v.ipv6 = .delegated k → w.ipv6 = .delegated l → ∀ u,
    ¬((k.index * 2 ^ (64 - k.length) ≤ u ∧ u < (k.index + 1) * 2 ^ (64 - k.length)) ∧
      l.index * 2 ^ (64 - l.length) ≤ u ∧ u < (l.index + 1) * 2 ^ (64 - l.length))

theorem PlannedVlan.Separate.symm {v w : PlannedVlan} (h : v.Separate w) : w.Separate v where
  subnet4 a ha := h.subnet4 a ha.symm
  subnet6 m n hm hn a ha := h.subnet6 n m hn hm a ha.symm
  units k l hk hl u hu := h.units l k hl hk u hu.symm

theorem Network.not_contains_both {f : Family} {m n : Network f} (h : m.overlaps n = false)
    (a : Address f) : ¬(m.contains a = true ∧ n.contains a = true) := by
  rintro ⟨hm, hn⟩
  rw [Network.not_contains_of_not_overlaps h hm] at hn
  cases hn

namespace Ipv6Span

theorem not_unit_both {k l : DelegatedSubnet} (h : (delegated k).overlaps (delegated l) = false)
    (u : Nat) : ¬((k.index * 2 ^ (64 - k.length) ≤ u ∧ u < (k.index + 1) * 2 ^ (64 - k.length)) ∧
      l.index * 2 ^ (64 - l.length) ≤ u ∧ u < (l.index + 1) * 2 ^ (64 - l.length)) := by
  rintro ⟨⟨h₁, h₂⟩, h₃, h₄⟩
  rw [Nat.succ_mul] at h₂ h₄
  have hkl : start k < stop l := Nat.lt_of_le_of_lt h₁ h₄
  have hlk : start l < stop k := Nat.lt_of_le_of_lt h₃ h₂
  simp [overlaps, hkl, hlk] at h

theorem overlaps_comm (a b : Ipv6Span) : a.overlaps b = b.overlaps a := by
  cases a <;> cases b <;> simp [overlaps, Bool.and_comm]

end Ipv6Span

/-- The IPv6 subnet of a mode, as it is compared with others. -/
def Ipv6Mode.span? : Ipv6Mode → Option Ipv6Span
  | none => Option.none
  | fixed subnet => some (.explicit subnet)
  | delegated share => some (.delegated share)

namespace Site

variable {s : Site} {x : Switch × Vlan}

/-- A vlan that declares an IPv6 subnet has no share: nobody else has its name,
    and it takes no part itself. -/
theorem get?_of_explicit (h : s.findings = []) (hx : x ∈ s.vlans)
    (he : x.2.explicitIpv6?.isSome = true) : s.effectiveDelegation.get? x.2.name = none := by
  rw [Option.eq_none_iff_forall_ne_some]
  intro share hs
  obtain ⟨⟨v, hv, hn⟩, -⟩ := share_of_effectiveDelegation hs
  obtain ⟨hv, hu⟩ := List.mem_filter.1 hv
  obtain rfl := eq_of_key_eq (nodup_names h) hv (List.mem_map_of_mem hx) hn
  simp only [Vlan.usesDelegation, Bool.and_eq_true, Option.isNone_iff_eq_none] at hu
  rw [Vlan.explicitIpv6?, hu.1.2] at he
  split at he <;> cases he

/-- The subnet of a vlan is compared as the one that the plan shows. -/
theorem span_of_ipv6Mode (h : s.findings = []) (hx : x ∈ s.vlans) {a : Ipv6Span}
    (ha : (x.2.ipv6Mode (s.effectiveDelegation.get? x.2.name)).span? = some a) :
    (match s.effectiveDelegation.get? x.2.name with
      | some share => some (x.2.name, .delegated share)
      | none => (x.2.explicitIpv6?.bind Network.ofText?).map fun n => (x.2.name, .explicit n)) =
      some (x.2.name, a) := by
  cases he : x.2.explicitIpv6? with
  | none =>
    cases hs : s.effectiveDelegation.get? x.2.name with
    | none => simp [Vlan.ipv6Mode, he, hs, Ipv6Mode.span?] at ha
    | some share =>
      simp only [Vlan.ipv6Mode, he, hs, Ipv6Mode.span?, Option.some.injEq] at ha
      simp [ha]
  | some text =>
    rw [get?_of_explicit h hx (by rw [he]; rfl)] at ha ⊢
    simp only [Vlan.ipv6Mode, he] at ha
    cases hn : (Network.ofText? text : Option (Network .v6)) with
    | none => simp [hn, Ipv6Mode.span?] at ha
    | some n =>
      simp only [hn, Ipv6Mode.span?, Option.some.injEq] at ha
      simp [hn, ha]

theorem pairwise_spans (h : s.findings = []) :
    s.vlans.Pairwise fun x y => ∀ a b,
      (x.2.ipv6Mode (s.effectiveDelegation.get? x.2.name)).span? = some a →
      (y.2.ipv6Mode (s.effectiveDelegation.get? y.2.name)).span? = some b →
      a.overlaps b = false := by
  refine (List.pairwise_filterMap.1 (pairwise_ipv6Spans s)).imp_of_mem
    fun {x y} hx hy ho a b ha hb => ?_
  rw [Ipv6Span.overlaps_comm]
  exact ho _ (span_of_ipv6Mode h hx ha) _ (span_of_ipv6Mode h hy hb)

/-- Known IPv6 subnets of two vlans have no common address, where they have been
    compared as declared ones and as shares. -/
theorem not_contains_both_of_spans (h : s.findings = []) {x y : Switch × Vlan} (hx : x ∈ s.vlans)
    (hy : y ∈ s.vlans)
    (hd : ∀ m n, x.2.subnet6? = some m → y.2.subnet6? = some n → m.overlaps n = false)
    (hs : ∀ a b, (x.2.ipv6Mode (s.effectiveDelegation.get? x.2.name)).span? = some a →
      (y.2.ipv6Mode (s.effectiveDelegation.get? y.2.name)).span? = some b → a.overlaps b = false)
    {m n : Network .v6}
    (hm : (x.2.ipv6Mode (s.effectiveDelegation.get? x.2.name)).subnet? = some m)
    (hn : (y.2.ipv6Mode (s.effectiveDelegation.get? y.2.name)).subnet? = some n)
    (a : Address .v6) : ¬(m.contains a = true ∧ n.contains a = true) := by
  refine Network.not_contains_both ?_ a
  have hpart : ∀ {name share}, s.effectiveDelegation.get? name = some share →
      share.IsPartOf (s.prefixRequest?.bind (·.known)) := fun hs =>
    (share_of_effectiveDelegation hs).2
  cases hmx : x.2.ipv6Mode (s.effectiveDelegation.get? x.2.name) with
  | none => rw [hmx] at hm; cases hm
  | fixed m' =>
    rw [hmx] at hm hs
    cases hm
    cases hmy : y.2.ipv6Mode (s.effectiveDelegation.get? y.2.name) with
    | none => rw [hmy] at hn; cases hn
    | fixed n' =>
      rw [hmy] at hn
      cases hn
      exact hd m n ((ipv6Mode_eq_fixed h hx).1 hmx) ((ipv6Mode_eq_fixed h hy).1 hmy)
    | delegated l =>
      rw [hmy] at hn hs
      have ho := hs _ _ rfl rfl
      rw [Ipv6Span.overlaps, show l.subnet = some n from hn] at ho
      rw [Network.overlaps_comm]
      simpa using ho
  | delegated k =>
    rw [hmx] at hm hs
    cases hmy : y.2.ipv6Mode (s.effectiveDelegation.get? y.2.name) with
    | none => rw [hmy] at hn; cases hn
    | fixed n' =>
      rw [hmy] at hn hs
      cases hn
      have ho := hs _ _ rfl rfl
      rw [Ipv6Span.overlaps, show k.subnet = some m from hm] at ho
      simpa using ho
    | delegated l =>
      rw [hmy] at hn hs
      exact DelegatedSubnet.overlaps_eq_false (hpart (ipv6Mode_eq_delegated.1 hmx).2)
        (hpart (ipv6Mode_eq_delegated.1 hmy).2) hm hn (hs _ _ rfl rfl)

/-- The outlines of vlans are separate, whatever the earlier of the two is. -/
theorem pairwise_separate (h : s.findings = []) : s.vlans.Pairwise fun x y =>
    ∀ v w, s.vlanOutline? s.effectiveDelegation x.1 x.2 = some v →
      s.vlanOutline? s.effectiveDelegation y.1 y.2 = some w → v.Separate w := by
  have h4 := List.pairwise_map.1 (pairwise_subnet4 h)
  have h6 := List.pairwise_map.1 (pairwise_subnet6 h)
  refine (h4.and (h6.and (pairwise_spans h))).imp_of_mem ?_
  rintro x y hx hy ⟨ho4, ho6, hs⟩ v w hv hw
  refine ⟨?_, ?_, ?_⟩
  · exact Network.not_contains_both
      (ho4 _ _ (subnet4_of_vlanOutline? hv) (subnet4_of_vlanOutline? hw))
  · rw [ipv6_of_vlanOutline? hv, ipv6_of_vlanOutline? hw]
    exact fun m n hm hn => not_contains_both_of_spans h hx hy ho6 hs hm hn
  · rw [ipv6_of_vlanOutline? hv, ipv6_of_vlanOutline? hw]
    intro k l hk hl
    exact Ipv6Span.not_unit_both (hs _ _ (by rw [hk]; rfl) (by rw [hl]; rfl))

theorem pairwise_separate_planVlans (h : s.findings = []) :
    s.planVlans.Pairwise PlannedVlan.Separate := by
  rw [planVlans_eq h, List.pairwise_map, outlines, vlanOutlines, List.pairwise_filterMap]
  refine (pairwise_separate h).imp fun hs v hv w hw => ?_
  obtain ⟨h4, h6, hu⟩ := hs v w hv hw
  exact ⟨h4, h6, hu⟩

/-- **The vlans of a build plan are separate.** -/
theorem separate_of_compile {templates : List Template} {plan : BuildPlan}
    (h : s.compile templates = .ok plan) (i j : Nat) (hij : i ≠ j) (v w : PlannedVlan)
    (hv : plan.addresses.vlans[i]? = some v) (hw : plan.addresses.vlans[j]? = some w) :
    v.Separate w := by
  obtain ⟨hf, hp⟩ := addresses_of_compile h
  obtain ⟨-, -, hp⟩ := addressPlan_eq_ok_iff.1 hp
  rw [hp] at hv hw
  exact rel_of_pairwise PlannedVlan.Separate.symm (pairwise_separate_planVlans hf) hij hv hw

/-- The two delegated vlans of the sample site are separate. -/
theorem home_separate : ∃ plan v w, home.compile [] = .ok plan ∧
    plan.addresses.vlans[1]? = some v ∧ plan.addresses.vlans[2]? = some w ∧ v.Separate w := by
  obtain ⟨plan, hplan⟩ := home_compiles
  obtain ⟨hf, hp⟩ := addresses_of_compile hplan
  obtain ⟨-, -, hp⟩ := addressPlan_eq_ok_iff.1 hp
  obtain ⟨v, -, hv⟩ := getElem?_planVlans (i := 1) hf rfl
  obtain ⟨w, -, hw⟩ := getElem?_planVlans (i := 2) hf rfl
  have hvlans : plan.addresses.vlans = home.planVlans := by rw [hp]
  rw [← hvlans] at hv hw
  exact ⟨plan, _, _, hplan, hv, hw, separate_of_compile hplan 1 2 (by decide) _ _ hv hw⟩

end Site

end NetworkSite
