/-
  Pools carved by a registry: what one carving leaves, and what it asks.

  Between two offsets in a subnet a pool holds exactly the addresses that are
  neither reserved nor claimed (`Registry.contains_carvePool?`), which is what a
  vlan is to lease (`Pool.Leases`).  The lookup of the claims is between bounds
  in the right order exactly if the offsets are (`Registry.ends_le_iff`).
-/
import NetworkSite.Addressing.Resolution
import NetworkSite.Proofs.Claims
import NetworkSite.Proofs.Networks
import NetworkSite.Proofs.Pools

namespace NetworkSite

/-- The pool has an address, and has exactly those at the offsets from `first`
    to `last` in a network that are not taken. -/
def Pool.Leases {f : Family} (p : Pool f) (n : Network f) (first last : Nat)
    (taken : Address f → Prop) : Prop :=
  (∃ a, p.contains a = true) ∧
    ∀ a, p.contains a = true ↔ (∃ o, first ≤ o ∧ o ≤ last ∧ a.toNat = n.base + o) ∧ ¬taken a

namespace Pool.Leases

variable {f : Family} {p : Pool f} {n : Network f} {first last : Nat} {taken : Address f → Prop}

theorem not_contains_first (h : p.Leases n first last taken) (hpos : 0 < first) :
    p.contains n.first = false := by
  rw [← Bool.not_eq_true, h.2]
  rintro ⟨⟨o, ho, -, hb⟩, -⟩
  rw [Network.toNat_first] at hb
  omega

theorem not_contains_last (h : p.Leases n first last taken) (hlt : last < n.size - 1) :
    p.contains n.last = false := by
  rw [← Bool.not_eq_true, h.2]
  rintro ⟨⟨o, -, ho, hb⟩, -⟩
  rw [Network.toNat_last] at hb
  omega

end Pool.Leases

namespace Registry

variable {f : Family} {r : Registry} {n : Network f} {first last : Nat} {reserved : List (Address f)}
  {c : CarvedPool f} {a : Address f}

theorem exists_carvePool? (hf : first < n.size) (hl : last < n.size) :
    ∃ c, r.carvePool? n first last reserved = some c := by
  obtain ⟨a, ha⟩ := Network.exists_nth? hf
  obtain ⟨b, hb⟩ := Network.exists_nth? hl
  exact ⟨_, by rw [carvePool?, ha, hb]; rfl⟩

/-- The bounds of a pool are the addresses at its offsets, and it is what
    carving between them leaves. -/
theorem carvePool?_eq_some (h : r.carvePool? n first last reserved = some c) :
    c.bounds.first.toNat = n.base + first ∧ c.bounds.last.toNat = n.base + last ∧
      c.pool = Pool.carve c.bounds.first c.bounds.last (reserved.map IpAddress.of ++
        (r.between (.of c.bounds.first) (.of c.bounds.last)).map (·.1)) := by
  obtain ⟨a, ha, h⟩ := Option.bind_eq_some_iff.1 h
  obtain ⟨b, hb, h⟩ := Option.bind_eq_some_iff.1 h
  cases h
  exact ⟨(Network.nth?_eq_some.1 ha).2, (Network.nth?_eq_some.1 hb).2, rfl⟩

theorem exists_contains_of_carvePool? (h : r.carvePool? n first last reserved = some c)
    (hn : c.pool.isEmpty = false) : ∃ a, c.pool.contains a = true := by
  obtain ⟨-, -, hp⟩ := carvePool?_eq_some h
  rw [hp] at hn ⊢
  exact Pool.exists_contains_of_carve hn

theorem exists_contains_of_mem_ranges (h : r.carvePool? n first last reserved = some c)
    {range : AddressRange f} (hr : range ∈ c.pool.ranges) : ∃ a, range.contains a = true := by
  obtain ⟨-, -, hp⟩ := carvePool?_eq_some h
  rw [hp] at hr
  exact Pool.exists_contains_of_mem_ranges_carve hr

/-- A pool that has been carved is empty if no address is in it. -/
theorem isEmpty_iff_of_carvePool? (h : r.carvePool? n first last reserved = some c) :
    c.pool.isEmpty = true ↔ ∀ a, c.pool.contains a = false := by
  constructor
  · intro he a
    rw [Pool.isEmpty, List.isEmpty_iff] at he
    rw [Pool.contains, he]
    rfl
  · intro hall
    cases he : c.pool.isEmpty with
    | true => rfl
    | false =>
      obtain ⟨a, ha⟩ := exists_contains_of_carvePool? h he
      rw [hall a] at ha
      cases ha

/-- **A pool holds the addresses at its offsets that are neither reserved nor
    claimed.**  Claims are only looked up between its bounds, but no others lie
    there. -/
theorem contains_carvePool? (h : r.carvePool? n first last reserved = some c) :
    c.pool.contains a = true ↔
      (∃ o, first ≤ o ∧ o ≤ last ∧ a.toNat = n.base + o) ∧ a ∉ reserved ∧
        r.owner? (.of a) = none := by
  obtain ⟨hf, hl, hp⟩ := carvePool?_eq_some h
  have hr : IpAddress.of a ∈ reserved.map IpAddress.of ↔ a ∈ reserved := by
    rw [List.mem_map]
    exact ⟨fun ⟨b, hb, he⟩ => IpAddress.of_inj he ▸ hb, fun ha => ⟨a, ha, rfl⟩⟩
  have ho : (∃ o, first ≤ o ∧ o ≤ last ∧ a.toNat = n.base + o) ↔
      c.bounds.first.toNat ≤ a.toNat ∧ a.toNat ≤ c.bounds.last.toNat := by
    rw [hf, hl]
    constructor
    · rintro ⟨o, h₁, h₂, h₃⟩
      omega
    · rintro ⟨h₁, h₂⟩
      exact ⟨a.toNat - n.base, by omega, by omega, by omega⟩
  rw [hp, Pool.contains_carve, List.mem_append, hr, ho, not_or, Address.le_def, Address.le_def,
    and_assoc]
  refine and_congr_right fun h₁ => and_congr_right fun h₂ => and_congr_right fun _ => ?_
  rw [Option.eq_none_iff_forall_ne_some]
  simp only [List.mem_map, Prod.exists, exists_and_right, exists_eq_right, mem_between,
    IpAddress.of_le_of, h₁, h₂, and_true, not_exists, ne_eq]

/-- A pool that is not empty leases what is not taken, if those addresses are
    taken that are reserved or claimed. -/
theorem leases_of_carvePool? (h : r.carvePool? n first last reserved = some c)
    (hn : c.pool.isEmpty = false) {taken : Address f → Prop}
    (ht : ∀ a o, first ≤ o → o ≤ last → a.toNat = n.base + o →
      (a ∉ reserved ∧ r.owner? (.of a) = none ↔ ¬taken a)) : c.pool.Leases n first last taken := by
  refine ⟨exists_contains_of_carvePool? h hn, fun a => ?_⟩
  rw [contains_carvePool? h]
  exact and_congr_right fun ⟨o, h₁, h₂, h₃⟩ => ht a o h₁ h₂ h₃

theorem ends_le_iff (h : r.carvePool? n first last reserved = some c) :
    c.ends.1 ≤ c.ends.2 ↔ first ≤ last := by
  obtain ⟨hf, hl, -⟩ := carvePool?_eq_some h
  rw [CarvedPool.ends, IpAddress.of_le_of, hf, hl]
  exact Nat.add_le_add_iff_left

end Registry

end NetworkSite
