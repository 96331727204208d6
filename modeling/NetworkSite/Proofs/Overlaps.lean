/-
  The findings on overlapping subnets, one by one.

  A finding has a place: the number of a vlan, a family, and the number of a vlan
  in front.  The check goes through these places in order and has a finding at
  exactly those where the two vlans declare subnets of the family with a common
  address (`Site.overlaps_are_findings`).
-/
import NetworkSite.Proofs.FindingKinds

namespace NetworkSite

/-- A vlan declares a subnet: its text writes it, and an IPv6 subnet holds
    interface identifiers of 64 bits. -/
def Vlan.Declares : (f : Family) → Vlan → Network f → Prop
  | .v4, v, n => Network.ofText? v.ipv4Subnet = some n
  | .v6, v, n => ∃ text, v.explicitIpv6? = some text ∧ Network.ofText? text = some n ∧ n.length ≤ 64

/-- Two vlans, by their numbers, and the family in which they are compared. -/
structure OverlapPlace where
  vlan : Nat
  family : Family
  other : Nat

/-- The order in which the check compares subnets: vlan by vlan, IPv4 first, and
    the vlans in front from the first to the last. -/
def OverlapPlace.Before (p q : OverlapPlace) : Prop :=
  p.vlan < q.vlan ∨ p.vlan = q.vlan ∧
    (p.family = .v4 ∧ q.family = .v6 ∨ p.family = q.family ∧ p.other < q.other)

/-- At a place two vlans, one in front of the other, have subnets with a common
    address, and this is the finding on them. -/
def Site.OverlapAt (s : Site) (p : OverlapPlace) (e : Finding) : Prop :=
  ∃ v w m n, p.other < p.vlan ∧
    (s.vlans.map (·.2))[p.vlan]? = some v ∧ (s.vlans.map (·.2))[p.other]? = some w ∧
    Vlan.Declares p.family v m ∧ Vlan.Declares p.family w n ∧
    (∃ a, m.contains a = true ∧ n.contains a = true) ∧
    e = .subnetOverlap v.name m.text w.name n.text

theorem pairwise_zipIdx {α : Type} (items : List α) : items.zipIdx.Pairwise (·.2 < ·.2) := by
  rw [← List.pairwise_map, List.zipIdx_map_snd]
  exact List.pairwise_lt_range'

namespace Vlan

variable {f : Family} {v w : Vlan} {m n : Network f} {earlier : List Vlan} {e : Finding}

/-- The declared subnet of a family. -/
def declared? : (f : Family) → Vlan → Option (Network f)
  | .v4, v => v.subnet4?
  | .v6, v => v.subnet6?

theorem declared?_eq_some : declared? f v = some n ↔ Declares f v n := by
  cases f with
  | v4 => exact Iff.rfl
  | v6 => exact subnet6?_eq_some

/-- The finding on two vlans whose subnets of a family overlap. -/
def overlap? (f : Family) (v w : Vlan) : Option Finding :=
  (declared? f v).bind fun m => (declared? f w).bind fun n =>
    if m.overlaps n then some (.subnetOverlap v.name m.text w.name n.text) else none

theorem overlap?_eq_some : overlap? f v w = some e ↔ ∃ m n, Declares f v m ∧ Declares f w n ∧
    (∃ a, m.contains a = true ∧ n.contains a = true) ∧
    e = .subnetOverlap v.name m.text w.name n.text := by
  simp only [overlap?, Option.bind_eq_some_iff, Option.ite_none_right_eq_some, Option.some.injEq,
    declared?_eq_some, Network.overlaps_iff]
  constructor
  · rintro ⟨m, hm, n, hn, ha, rfl⟩
    exact ⟨m, n, hm, hn, ha, rfl⟩
  · rintro ⟨m, n, hm, hn, ha, rfl⟩
    exact ⟨m, hm, n, hn, ha, rfl⟩

/-- The check of a family has the findings on each vlan in front. -/
theorem overlapsWith_eq_filterMap :
    v.overlapsWith (declared? f) earlier = earlier.filterMap (overlap? f v) := by
  cases hm : declared? f v with
  | none =>
    rw [overlapsWith_of_none hm, eq_comm, List.filterMap_eq_nil_iff]
    intro w _
    rw [overlap?, hm, Option.bind_none]
  | some m =>
    rw [overlapsWith_of_some hm, overlapFindings]
    induction earlier with
    | nil => rfl
    | cons w earlier ih =>
      rw [List.filterMap_cons, List.filterMap_cons, overlap?, hm, Option.bind_some]
      cases hn : declared? f w with
      | none => exact ih
      | some n =>
        rw [Option.map_some, List.flatMap_cons, ih, Option.bind_some]
        dsimp only [Finding.forbid]
        split <;> rfl

/-- The findings of a family on vlan number `j`, with their places. -/
def overlapsFrom (earlier : List Vlan) (j : Nat) (v : Vlan) (f : Family) :
    List (OverlapPlace × Finding) :=
  earlier.zipIdx.filterMap fun (w, i) => (overlap? f v w).map (⟨j, f, i⟩, ·)

variable {j : Nat} {p : OverlapPlace}

theorem map_snd_overlapsFrom :
    (overlapsFrom earlier j v f).map (·.2) = v.overlapsWith (declared? f) earlier := by
  rw [overlapsWith_eq_filterMap, overlapsFrom, List.map_filterMap]
  nth_rewrite 2 [← List.zipIdx_map_fst 0 earlier]
  rw [List.filterMap_map]
  refine List.filterMap_congr fun (w, i) _ => ?_
  dsimp only [Function.comp_apply]
  cases overlap? f v w <;> rfl

theorem mem_overlapsFrom : (p, e) ∈ overlapsFrom earlier j v f ↔
    p.vlan = j ∧ p.family = f ∧ ∃ w, earlier[p.other]? = some w ∧ overlap? f v w = some e := by
  rw [overlapsFrom, List.mem_filterMap]
  constructor
  · rintro ⟨⟨w, i⟩, hw, hplace⟩
    obtain ⟨_, he, heq⟩ := Option.map_eq_some_iff.1 hplace
    obtain ⟨rfl, rfl⟩ := Prod.mk.inj heq
    exact ⟨rfl, rfl, w, List.mk_mem_zipIdx_iff_getElem?.1 hw, he⟩
  · rintro ⟨rfl, rfl, w, hw, he⟩
    exact ⟨(w, p.other), List.mk_mem_zipIdx_iff_getElem?.2 hw,
      Option.map_eq_some_iff.2 ⟨e, he, rfl⟩⟩

theorem pairwise_overlapsFrom : (overlapsFrom earlier j v f).Pairwise fun x y => x.1.Before y.1 := by
  rw [overlapsFrom, List.pairwise_filterMap]
  refine (pairwise_zipIdx earlier).imp fun {x y} hlt b hb b' hb' => ?_
  obtain ⟨e, -, rfl⟩ := Option.map_eq_some_iff.1 hb
  obtain ⟨e', -, rfl⟩ := Option.map_eq_some_iff.1 hb'
  exact .inr ⟨rfl, .inr ⟨rfl, hlt⟩⟩

end Vlan

namespace Site

variable {s : Site} {p : OverlapPlace} {e : Finding}

/-- The findings on overlaps with their places. -/
def overlapsAt (s : Site) : List (OverlapPlace × Finding) :=
  let vlans := s.vlans.map (·.2)
  vlans.zipIdx.flatMap fun (v, j) => [Family.v4, .v6].flatMap (v.overlapsFrom (vlans.take j) j)

theorem map_snd_overlapsAt (s : Site) :
    s.overlapsAt.map (·.2) = s.findings.filter (·.isOverlap) := by
  rw [filter_isOverlap_findings, withEarlier_eq_zipIdx, List.flatMap_map, overlapsAt, List.map_flatMap]
  refine List.flatMap_congr fun (v, j) _ => ?_
  rw [List.map_flatMap, List.flatMap_cons, List.flatMap_singleton, Vlan.map_snd_overlapsFrom,
    Vlan.map_snd_overlapsFrom]
  rfl

theorem mem_overlapsAt : (p, e) ∈ s.overlapsAt ↔ s.OverlapAt p e := by
  simp only [overlapsAt, List.mem_flatMap, Vlan.mem_overlapsFrom, Prod.exists,
    List.mk_mem_zipIdx_iff_getElem?, List.getElem?_take, Option.ite_none_right_eq_some]
  constructor
  · rintro ⟨v, _, hv, _, -, rfl, rfl, w, ⟨hlt, hw⟩, he⟩
    obtain ⟨m, n, hm, hn, ha, rfl⟩ := Vlan.overlap?_eq_some.1 he
    exact ⟨v, w, m, n, hlt, hv, hw, hm, hn, ha, rfl⟩
  · rintro ⟨v, w, m, n, hlt, hv, hw, hm, hn, ha, rfl⟩
    have hf : p.family ∈ [Family.v4, .v6] := by cases p.family <;> simp
    exact ⟨v, p.vlan, hv, p.family, hf, rfl, rfl, w, ⟨hlt, hw⟩,
      Vlan.overlap?_eq_some.2 ⟨m, n, hm, hn, ha, rfl⟩⟩

theorem pairwise_overlapsAt (s : Site) : (s.overlapsAt.map (·.1)).Pairwise OverlapPlace.Before := by
  rw [List.pairwise_map, overlapsAt, List.pairwise_flatMap]
  constructor
  · rintro ⟨v, j⟩ -
    rw [List.pairwise_flatMap]
    refine ⟨fun f _ => Vlan.pairwise_overlapsFrom, List.pairwise_pair.2 ?_⟩
    rintro ⟨p, e⟩ hp ⟨q, e'⟩ hq
    obtain ⟨hj, hf, -⟩ := Vlan.mem_overlapsFrom.1 hp
    obtain ⟨hj', hf', -⟩ := Vlan.mem_overlapsFrom.1 hq
    exact .inr ⟨hj.trans hj'.symm, .inl ⟨hf, hf'⟩⟩
  · refine (pairwise_zipIdx _).imp fun {x y} hlt a ha b hb => ?_
    obtain ⟨f, -, ha⟩ := List.mem_flatMap.1 ha
    obtain ⟨f', -, hb⟩ := List.mem_flatMap.1 hb
    rw [OverlapPlace.Before, (Vlan.mem_overlapsFrom.1 ha).1, (Vlan.mem_overlapsFrom.1 hb).1]
    exact .inl hlt

/-- **The findings on subnets are the overlaps.**  In order, there is exactly one
    for each two vlans and each family in which both declare a subnet and these
    have a common address; it names the later vlan first. -/
theorem overlaps_are_findings (s : Site) : ∃ located : List (OverlapPlace × Finding),
    located.map (·.2) = s.findings.filter (·.isOverlap) ∧
    (located.map (·.1)).Pairwise OverlapPlace.Before ∧
    ∀ p e, (p, e) ∈ located ↔ s.OverlapAt p e :=
  ⟨s.overlapsAt, s.map_snd_overlapsAt, s.pairwise_overlapsAt, fun _ _ => mem_overlapsAt⟩

/-- A site whose second switch has a vlan with larger subnets, one with a smaller
    subnet, and an IPv6 subnet that is too long to be compared. -/
def nestedSubnets : Site where
  name := "home"
  domain := "example.net"
  switches := [{
    name := "front"
    vlans := [
      { name := "lan", ipv4Subnet := "10.0.1.0/24", ipv6Subnet := some "2001:db8::/64" },
      { name := "lab", ipv4Subnet := "10.1.0.0/16" }] }, {
    name := "back"
    vlans := [
      { name := "all", ipv4Subnet := "10.0.0.0/16", ipv6Subnet := some "2001:db8::/48" },
      { name := "part", ipv4Subnet := "10.1.2.0/24", ipv6Subnet := some "2001:db8::/65" },
      { name := "other", ipv4Subnet := "10.2.0.0" }] }]

/-- Larger and smaller subnets are found alike, on either switch. -/
theorem nestedSubnets_overlaps :
    nestedSubnets.findings.filter (·.isOverlap) = [
      .subnetOverlap "all" "10.0.0.0/16" "lan" "10.0.1.0/24",
      .subnetOverlap "all" "2001:db8::/48" "lan" "2001:db8::/64",
      .subnetOverlap "part" "10.1.2.0/24" "lab" "10.1.0.0/16"] ∧
    ∃ p e, nestedSubnets.OverlapAt p e := by
  have hf : nestedSubnets.findings.filter (·.isOverlap) = [
      .subnetOverlap "all" "10.0.0.0/16" "lan" "10.0.1.0/24",
      .subnetOverlap "all" "2001:db8::/48" "lan" "2001:db8::/64",
      .subnetOverlap "part" "10.1.2.0/24" "lab" "10.1.0.0/16"] := by
    rw [filter_isOverlap_findings]
    with_unfolding_all decide
  obtain ⟨located, hmap, -, hat⟩ := overlaps_are_findings nestedSubnets
  rw [hf] at hmap
  obtain ⟨⟨p, e⟩, hmem, -⟩ := List.mem_map.1 (hmap ▸ List.mem_cons_self)
  exact ⟨hf, p, e, (hat p e).1 hmem⟩

end Site

end NetworkSite
