/-
  The lookups of claims that pools need.

  A lookup must be between bounds in the right order; a crossed one ends the
  whole run.  The check of a site orders the offsets of every pool that lies in
  a declared subnet.  It does not look at a subnet that comes out of the
  delegated prefix, and there a vlan may have its offsets the other way round:
  these vlans (`Site.LeasesKnownShare`) are the only ones with crossed lookups
  (`Site.lookups_of_valid`).
-/
import NetworkSite.Proofs.Leases

namespace NetworkSite

theorem IpAddress.not_le {a b : IpAddress} : ¬a ≤ b ↔ b < a :=
  Nat.not_le

namespace Site

variable {s : Site} {x : Switch × Vlan}

/-- The vlan leases addresses of a subnet that it has as its share of a known
    prefix. -/
def LeasesKnownShare (s : Site) (v : Vlan) : Prop :=
  v.dhcp6Managed = true ∧ v.explicitIpv6? = none ∧
    ∃ share n, s.effectiveDelegation.get? v.name = some share ∧ share.subnet = some n

/-! ## Bounds of one vlan -/

theorem ends4_le (h : s.findings = []) (hx : x ∈ s.vlans) {c : CarvedPool .v4}
    (hc : x.2.carve4? s.outlines s.claims = some c) : c.ends.1 ≤ c.ends.2 := by
  obtain ⟨w, hw⟩ := exists_vlanOutline? (d := s.effectiveDelegation) h hx
  rw [carve4?_eq s.claims h hx hw] at hc
  split at hc
  next hd =>
    obtain ⟨n, -, hb⟩ := exists_subnet4 h hx
    exact (Registry.ends_le_iff hc).2 (hb hd).2.1
  next => cases hc

/-- A vlan has an IPv6 pool if it leases addresses of a known subnet. -/
theorem exists_carve6?_iff (h : s.findings = []) (hx : x ∈ s.vlans) :
    (∃ c, x.2.carve6? s.outlines s.claims = some c) ↔ x.2.dhcp6Managed = true ∧
      ∃ n, (x.2.ipv6Mode (s.effectiveDelegation.get? x.2.name)).subnet? = some n := by
  obtain ⟨w, hw⟩ := exists_vlanOutline? (d := s.effectiveDelegation) h hx
  rw [carve6?_eq s.claims h hx hw, ← ipv6_of_vlanOutline? hw]
  constructor
  · rintro ⟨c, hc⟩
    obtain ⟨n, hn, hc⟩ := Option.bind_eq_some_iff.1 hc
    split at hc
    next hd => exact ⟨hd, n, hn⟩
    next => cases hc
  · rintro ⟨hd, n, hn⟩
    have hlen := length_le_of_subnet?_ipv6Mode h hx (by rw [← ipv6_of_vlanOutline? hw, hn])
    rw [hn, Option.bind_some, if_pos hd]
    exact Registry.exists_carvePool? (Network.offset_lt_size hlen _) (Network.offset_lt_size hlen _)

theorem ends6_le_iff (h : s.findings = []) (hx : x ∈ s.vlans) {c : CarvedPool .v6}
    (hc : x.2.carve6? s.outlines s.claims = some c) :
    c.ends.1 ≤ c.ends.2 ↔ x.2.dhcp6First ≤ x.2.dhcp6Last := by
  obtain ⟨w, hw⟩ := exists_vlanOutline? (d := s.effectiveDelegation) h hx
  rw [carve6?_eq s.claims h hx hw] at hc
  obtain ⟨n, -, hc⟩ := Option.bind_eq_some_iff.1 hc
  split at hc
  next => exact (Registry.ends_le_iff hc).trans UInt64.le_iff_toNat_le.symm
  next => cases hc

theorem ends6_le_of_explicit (h : s.findings = []) (hx : x ∈ s.vlans)
    (he : x.2.explicitIpv6?.isSome = true) {c : CarvedPool .v6}
    (hc : x.2.carve6? s.outlines s.claims = some c) : c.ends.1 ≤ c.ends.2 := by
  obtain ⟨n, -, hb⟩ := exists_subnet6 h hx he
  obtain ⟨hd, -⟩ := (exists_carve6?_iff h hx).1 ⟨c, hc⟩
  exact (ends6_le_iff h hx hc).2 (UInt64.le_iff_toNat_le.2 (hb hd).2)

theorem leasesKnownShare_iff (h : s.findings = []) (hx : x ∈ s.vlans)
    (he : x.2.explicitIpv6? = none) :
    s.LeasesKnownShare x.2 ↔ ∃ c, x.2.carve6? s.outlines s.claims = some c := by
  have hno : x.2.subnet6? = none := by rw [Vlan.subnet6?, he]; rfl
  simp only [exists_carve6?_iff h hx, subnet?_ipv6Mode h hx, hno, he, LeasesKnownShare,
    reduceCtorEq, false_or, true_and]
  exact and_congr_right fun _ => exists_comm

/-! ## All lookups -/

theorem mem_lookups {b : IpAddress × IpAddress} :
    b ∈ s.lookups ↔ ∃ x ∈ s.vlans, (∃ c, x.2.carve4? s.outlines s.claims = some c ∧ c.ends = b) ∨
      ∃ c, x.2.carve6? s.outlines s.claims = some c ∧ c.ends = b := by
  simp only [lookups, Vlan.lookups, List.mem_flatMap, List.mem_append, List.mem_map,
    Option.mem_toList]

/-- The bounds of all lookups are in order, unless a vlan with a known share has
    its offsets the other way round. -/
theorem ordered_iff (h : s.findings = []) :
    (∀ b ∈ s.lookups, b.1 ≤ b.2) ↔
      ∀ x ∈ s.vlans, s.LeasesKnownShare x.2 → x.2.dhcp6First ≤ x.2.dhcp6Last := by
  constructor
  · intro ho x hx hk
    obtain ⟨c, hc⟩ := (leasesKnownShare_iff h hx hk.2.1).1 hk
    exact (ends6_le_iff h hx hc).1 (ho c.ends (mem_lookups.2 ⟨x, hx, .inr ⟨c, hc, rfl⟩⟩))
  · intro hk b hb
    obtain ⟨x, hx, ⟨c, hc, rfl⟩ | ⟨c, hc, rfl⟩⟩ := mem_lookups.1 hb
    · exact ends4_le h hx hc
    · cases he : x.2.explicitIpv6? with
      | none => exact (ends6_le_iff h hx hc).2 (hk x hx ((leasesKnownShare_iff h hx he).2 ⟨c, hc⟩))
      | some text => exact ends6_le_of_explicit h hx (by rw [he]; rfl) hc

/-- A lookup is crossed if its bounds are, and there are claims. -/
theorem exists_crossedLookup?_iff :
    (∃ first last, s.crossedLookup? = some (first, last)) ↔
      (∃ a o, s.claims.owner? a = some o) ∧ ¬∀ b ∈ s.lookups, b.1 ≤ b.2 := by
  have hsome : (∃ first last, s.crossedLookup? = some (first, last)) ↔
      s.crossedLookup?.isSome = true := by
    rw [Option.isSome_iff_exists, Prod.exists]
  rw [hsome, crossedLookup?, List.find?_isSome]
  simp only [Registry.isCrossed_iff, Classical.not_forall, IpAddress.not_le]
  constructor
  · rintro ⟨b, hb, hc, hl⟩
    exact ⟨hc, b, hb, hl⟩
  · rintro ⟨hc, b, hb, hl⟩
    exact ⟨b, hb, hc, hl⟩

/-- **Crossed lookups of valid sites.**  The bounds of IPv4 pools and of IPv6
    pools in declared subnets are in order.  Bounds are crossed exactly for
    vlans with a known share and their offsets the other way round; and if
    anything is claimed at all, the run ends there. -/
theorem lookups_of_valid (h : s.findings = []) :
    (∀ x ∈ s.vlans, ∀ c, x.2.carve4? s.outlines s.claims = some c → c.ends.1 ≤ c.ends.2) ∧
    (∀ x ∈ s.vlans, x.2.explicitIpv6?.isSome = true →
      ∀ c, x.2.carve6? s.outlines s.claims = some c → c.ends.1 ≤ c.ends.2) ∧
    ((∀ b ∈ s.lookups, b.1 ≤ b.2) ↔
      ∀ x ∈ s.vlans, s.LeasesKnownShare x.2 → x.2.dhcp6First ≤ x.2.dhcp6Last) ∧
    ∀ templates, (∃ first last, s.compile templates = .error (.crossed first last)) ↔
      (∃ a o, s.claims.owner? a = some o) ∧
        ∃ x ∈ s.vlans, s.LeasesKnownShare x.2 ∧ x.2.dhcp6Last < x.2.dhcp6First := by
  refine ⟨fun x hx c hc => ends4_le h hx hc, fun x hx he c hc => ends6_le_of_explicit h hx he hc,
    ordered_iff h, fun templates => ?_⟩
  simp only [compile_eq_crossed_iff h, exists_crossedLookup?_iff, ordered_iff h, Classical.not_forall,
    UInt64.not_le, exists_prop]

/-- A site with a delegated vlan whose last offset comes before its first
    one. -/
def reversed : Site where
  name := "home"
  domain := "example.net"
  switches := [{
    name := "sw"
    vlans := [
      { name := "lan", ipv4Subnet := "10.0.0.0/24", allowDhcp := false, ipv6Delegated := true
        dhcp6Managed := true, dhcp6First := 9, dhcp6Last := 5 }] }]
  hosts := [{
    hostname := "gw"
    roles := [.router]
    interfaces := [
      { uplink := some "wan0", delegationLength := some 56
        delegatedPrefix := some "2001:db8::/56" }] }]

/-- Its compilation ends at the lookup, although nothing is wrong with it. -/
theorem reversed_crossed :
    reversed.findings = [] ∧ ∃ first last, reversed.compile [] = .error (.crossed first last) := by
  have hf : reversed.findings = [] := by with_unfolding_all decide
  have hclaimed : ∃ a o, reversed.claims.owner? a = some o :=
    ⟨.v4 (.ofNat 0x0a000001), "gw", by decide⟩
  have hshare : (reversed.effectiveDelegation.get? "lan").any (·.subnet.isSome) = true := by
    decide
  obtain ⟨share, hs, hn⟩ := (Option.any_eq_true _ _).1 hshare
  obtain ⟨n, hn⟩ := Option.isSome_iff_exists.1 hn
  exact ⟨hf, ((lookups_of_valid hf).2.2.2 []).2
    ⟨hclaimed, _, List.mem_singleton.2 rfl, ⟨rfl, rfl, share, n, hs, hn⟩, by decide⟩⟩

/-- The lookup of its pool is between bounds in the wrong order. -/
theorem reversed_lookup : reversed.findings = [] ∧ ∃ b ∈ reversed.lookups, b.2 < b.1 := by
  with_unfolding_all decide

end Site

end NetworkSite
