/-
  The ranges of pools.

  The ranges of a carved pool are not empty, and each goes before the next with
  at least one address missing in between (`Pool.isSpaced_carve`).  Such ranges
  are determined by the addresses in them (`Pool.IsSpaced.eq_of_contains`), and
  their sizes add up to the number of these (`Pool.IsSpaced.ncard_contains`).  So
  a carved pool tells exactly which addresses are free, and nothing of the list
  of excluded ones but that (`Pool.carve_exact`).
-/
import NetworkSite.Proofs.Pools
import Mathlib.Data.Set.Card
import Mathlib.Order.Interval.Finset.Nat

namespace NetworkSite

/-! ## Gaps go one before the other -/

section

variable {next last : Nat} {holes : List Nat}

theorem le_of_mem_gaps (hs : holes.Pairwise (· ≤ ·)) (hl : ∀ h ∈ holes, next ≤ h + 1)
    {g : Nat × Nat} (hg : g ∈ gaps next last holes) : next ≤ g.1 := by
  induction holes generalizing next with
  | nil =>
    unfold gaps at hg
    split at hg
    next => rw [List.mem_singleton.1 hg]
    next => cases hg
  | cons hole rest ih =>
    obtain ⟨hle, hs⟩ := List.pairwise_cons.1 hs
    have hnext := hl hole List.mem_cons_self
    have hrest : g ∈ gaps (hole + 1) last rest → next ≤ g.1 := fun hg =>
      Nat.le_trans hnext (ih hs (fun h hm => Nat.succ_le_succ (hle h hm)) hg)
    unfold gaps at hg
    split at hg
    next =>
      rcases List.mem_cons.1 hg with rfl | hg
      · exact Nat.le_refl _
      · exact hrest hg
    next => exact hrest hg

/-- Between two gaps there is the hole at which the first one ends. -/
theorem pairwise_gaps (hs : holes.Pairwise (· ≤ ·)) :
    (gaps next last holes).Pairwise fun g h => g.2 + 1 < h.1 := by
  induction holes generalizing next with
  | nil =>
    unfold gaps
    split
    next => exact List.pairwise_singleton _ _
    next => exact List.Pairwise.nil
  | cons hole rest ih =>
    obtain ⟨hle, hs⟩ := List.pairwise_cons.1 hs
    unfold gaps
    split
    next h =>
      refine List.pairwise_cons.2 ⟨fun g hg => ?_, ih hs⟩
      have := le_of_mem_gaps hs (fun h hm => Nat.succ_le_succ (hle h hm)) hg
      simp only
      omega
    next => exact ih hs

end

/-! ## Spaced ranges -/

variable {f : Family}

/-- The range ends before the other one starts, and at least one address lies
    between them. -/
def AddressRange.Precedes (r q : AddressRange f) : Prop :=
  r.last.toNat + 1 < q.first.toNat

namespace Pool

/-- The ranges have addresses, and each one goes before those behind it. -/
structure IsSpaced (p : Pool f) : Prop where
  nonempty : ∀ r ∈ p.ranges, r.first ≤ r.last
  precedes : p.ranges.Pairwise AddressRange.Precedes

variable {p q : Pool f} {r : AddressRange f} {ranges : List (AddressRange f)} {a : Address f}

theorem contains_nil : ¬contains ⟨[]⟩ a = true :=
  Bool.false_ne_true

theorem contains_cons : contains ⟨r :: ranges⟩ a = true ↔
    (r.first ≤ a ∧ a ≤ r.last) ∨ contains ⟨ranges⟩ a = true := by
  simp only [contains, List.any_cons, AddressRange.contains, Bool.or_eq_true, Bool.and_eq_true,
    decide_eq_true_eq]

theorem containsIp_iff {x : IpAddress} :
    p.containsIp x = true ↔ ∃ a : Address f, x = .of a ∧ p.contains a = true := by
  unfold containsIp
  split
  next a ha =>
    rw [IpAddress.inFamily?_eq_some] at ha
    subst ha
    exact ⟨fun h => ⟨a, rfl, h⟩, fun ⟨b, hb, h⟩ => IpAddress.of_inj hb ▸ h⟩
  next hnone =>
    refine iff_of_false Bool.false_ne_true ?_
    rintro ⟨a, ha, -⟩
    rw [IpAddress.inFamily?_eq_some.2 ha] at hnone
    cases hnone

namespace IsSpaced

theorem tail (h : IsSpaced ⟨r :: ranges⟩) : IsSpaced ⟨ranges⟩ where
  nonempty q hq := h.nonempty q (List.mem_cons_of_mem _ hq)
  precedes := (List.pairwise_cons.1 h.precedes).2

theorem contains_first (h : IsSpaced ⟨r :: ranges⟩) : contains ⟨r :: ranges⟩ r.first = true :=
  contains_cons.2 (.inl ⟨Nat.le_refl _, h.nonempty r List.mem_cons_self⟩)

theorem lt_of_contains (h : IsSpaced ⟨r :: ranges⟩) (ha : contains ⟨ranges⟩ a = true) :
    r.last.toNat + 1 < a.toNat := by
  obtain ⟨q, hq, hqa⟩ := List.any_eq_true.1 ha
  rw [AddressRange.contains, Bool.and_eq_true, decide_eq_true_eq] at hqa
  exact Nat.lt_of_lt_of_le ((List.pairwise_cons.1 h.precedes).1 q hq) hqa.1

theorem first_le (h : IsSpaced ⟨r :: ranges⟩) (ha : contains ⟨r :: ranges⟩ a = true) :
    r.first ≤ a := by
  rcases contains_cons.1 ha with ⟨hfirst, -⟩ | hrest
  · exact hfirst
  · have hlt := h.lt_of_contains hrest
    have hle : r.first.toNat ≤ r.last.toNat := h.nonempty r List.mem_cons_self
    rw [Address.le_def]
    omega

/-- The first range ends where an address is missing: no range of the pool's
    addresses that starts in it goes on behind it. -/
theorem last_le (h : IsSpaced ⟨r :: ranges⟩) {q : AddressRange f} (hq : q.first ≤ r.last)
    (hc : ∀ a, q.first ≤ a → a ≤ q.last → contains ⟨r :: ranges⟩ a = true) : q.last ≤ r.last := by
  rw [Address.le_def] at hq ⊢
  by_contra hlt
  have hstep : r.last.toNat + 1 < 2 ^ f.width := by
    have := q.last.toNat_lt
    omega
  have hnext : contains ⟨r :: ranges⟩ ⟨r.last.toNat + 1, hstep⟩ = true :=
    hc _ (Nat.le_succ_of_le hq) (Nat.lt_of_not_le hlt)
  rcases contains_cons.1 hnext with ⟨-, hle⟩ | hrest
  · exact Nat.not_succ_le_self _ hle
  · exact Nat.lt_irrefl _ (h.lt_of_contains hrest)

theorem contains_tail (h : IsSpaced ⟨r :: ranges⟩) :
    contains ⟨ranges⟩ a = true ↔ contains ⟨r :: ranges⟩ a = true ∧ r.last.toNat < a.toNat := by
  constructor
  · intro ha
    exact ⟨contains_cons.2 (.inr ha), Nat.lt_of_succ_lt (h.lt_of_contains ha)⟩
  · rintro ⟨ha, hlt⟩
    rcases contains_cons.1 ha with ⟨-, hle⟩ | ha
    · exact absurd hle (Nat.not_le_of_lt hlt)
    · exact ha

/-- **Spaced ranges are determined by their addresses.** -/
theorem eq_of_contains (hp : p.IsSpaced) (hq : q.IsSpaced)
    (h : ∀ a, p.contains a = true ↔ q.contains a = true) : p = q := by
  obtain ⟨ranges⟩ := p
  obtain ⟨others⟩ := q
  induction ranges generalizing others with
  | nil =>
    cases others with
    | nil => rfl
    | cons q others => exact absurd ((h q.first).2 hq.contains_first) contains_nil
  | cons r ranges ih =>
    cases others with
    | nil => exact absurd ((h r.first).1 hp.contains_first) contains_nil
    | cons q others =>
      have hfirst : r.first = q.first := Address.ext <| Nat.le_antisymm
        (hp.first_le ((h _).2 hq.contains_first)) (hq.first_le ((h _).1 hp.contains_first))
      have hle := hp.nonempty r List.mem_cons_self
      have hle' := hq.nonempty q List.mem_cons_self
      have hlast : r.last = q.last := Address.ext <| Nat.le_antisymm
        (hq.last_le (hfirst ▸ hle') fun a h₁ h₂ => (h a).1 (contains_cons.2 (.inl ⟨h₁, h₂⟩)))
        (hp.last_le (hfirst ▸ hle) fun a h₁ h₂ => (h a).2 (contains_cons.2 (.inl ⟨h₁, h₂⟩)))
      obtain ⟨first, last⟩ := r
      obtain ⟨first', last'⟩ := q
      cases hfirst
      cases hlast
      have hrest : (⟨ranges⟩ : Pool f) = ⟨others⟩ :=
        ih hp.tail others hq.tail fun a => by rw [hp.contains_tail, hq.contains_tail, h]
      cases hrest
      rfl

end IsSpaced

/-! ## Sizes -/

instance : Finite (Address f) :=
  Finite.of_injective (fun a => (⟨a.toNat, a.toNat_lt⟩ : Fin (2 ^ f.width))) fun _ _ h =>
    Address.ext (Fin.mk.inj h)

theorem ncard_between (first last : Address f) :
    {a | first ≤ a ∧ a ≤ last}.ncard = last.toNat + 1 - first.toNat := by
  have himage : Address.toNat '' {a | first ≤ a ∧ a ≤ last} =
      Finset.Icc first.toNat last.toNat := by
    ext n
    rw [Finset.coe_Icc, Set.mem_Icc]
    constructor
    · rintro ⟨a, ha, rfl⟩
      exact ha
    · intro hn
      exact ⟨⟨n, Nat.lt_of_le_of_lt hn.2 last.toNat_lt⟩, hn, rfl⟩
  rw [← Set.ncard_image_of_injective _ fun _ _ h => Address.ext h, himage, Set.ncard_coe_finset,
    Nat.card_Icc]

/-- **The size of spaced ranges is the number of their addresses.** -/
theorem IsSpaced.ncard_contains (h : p.IsSpaced) : {a | p.contains a = true}.ncard = p.size := by
  obtain ⟨ranges⟩ := p
  induction ranges with
  | nil => simp [contains, size]
  | cons r ranges ih =>
    have hunion : {a | contains ⟨r :: ranges⟩ a = true} =
        {a | r.first ≤ a ∧ a ≤ r.last} ∪ {a | contains ⟨ranges⟩ a = true} :=
      Set.ext fun a => contains_cons
    have hdisjoint : Disjoint {a | r.first ≤ a ∧ a ≤ r.last} {a | contains ⟨ranges⟩ a = true} := by
      refine Set.disjoint_left.2 fun a ha hrest => ?_
      have hle : a.toNat ≤ r.last.toNat := ha.2
      exact Nat.not_lt_of_le hle (Nat.lt_of_succ_lt (h.lt_of_contains hrest))
    have hle : r.first.toNat ≤ r.last.toNat := h.nonempty r List.mem_cons_self
    rw [hunion, Set.ncard_union_eq hdisjoint, ih h.tail, ncard_between]
    simp only [size, List.foldr_cons, AddressRange.size]
    omega

theorem ncard_containsIp (p : Pool f) :
    {x | p.containsIp x = true}.ncard = {a | p.contains a = true}.ncard := by
  have himage : {x | p.containsIp x = true} = IpAddress.of '' {a | p.contains a = true} := by
    ext x
    exact containsIp_iff.trans (exists_congr fun a => and_comm.trans (and_congr_right' eq_comm))
  rw [himage, Set.ncard_image_of_injective _ fun _ _ h => IpAddress.of_inj h]

/-! ## Carved pools -/

variable {first last : Address f} {excluded : List IpAddress}

theorem isSpaced_carve (first last : Address f) (excluded : List IpAddress) :
    (carve first last excluded).IsSpaced where
  nonempty r hr := by
    obtain ⟨g, hg, rfl⟩ := mem_ranges_carve.1 hr
    rw [Address.le_def, (toNat_ends hg).1, (toNat_ends hg).2]
    exact (bounds_of_mem_gaps (fun _ => le_of_mem_holes) hg).1
  precedes := by
    refine List.pairwise_map.2 (List.Pairwise.imp_of_mem ?_ (pairwise_gaps pairwise_holes))
    intro g h hg hh hlt
    rw [AddressRange.Precedes, (toNat_ends hg).2, (toNat_ends hh).1]
    exact hlt

theorem size_carve_le (first last : Address f) (excluded : List IpAddress) :
    (carve first last excluded).size ≤ last.toNat + 1 - first.toNat := by
  rw [← (isSpaced_carve first last excluded).ncard_contains, ← ncard_between]
  refine Set.ncard_le_ncard fun a ha => ?_
  obtain ⟨h₁, h₂, -⟩ := contains_carve.1 ha
  exact ⟨h₁, h₂⟩

/-- **What carving leaves.**  A carved pool holds the addresses between its bounds
    that are not excluded.  Its ranges are not empty and go one before the other
    with addresses missing in between, and its size is the number of addresses
    in it, which those between the bounds are no fewer than.  Of the excluded
    addresses only those between the bounds matter, whatever their order is and
    how often they are listed. -/
theorem carve_exact (first last : Address f) (excluded : List IpAddress) :
    (∀ x, (carve first last excluded).containsIp x = true ↔
      ∃ a : Address f, x = .of a ∧ first ≤ a ∧ a ≤ last ∧ x ∉ excluded) ∧
    (carve first last excluded).IsSpaced ∧
    {x | (carve first last excluded).containsIp x = true}.ncard =
      (carve first last excluded).size ∧
    (carve first last excluded).size ≤ last.toNat + 1 - first.toNat ∧
    ∀ others, (∀ a, first ≤ a → a ≤ last → (IpAddress.of a ∈ others ↔ .of a ∈ excluded)) →
      carve first last others = carve first last excluded := by
  have hspaced := isSpaced_carve first last
  refine ⟨fun x => ?_, hspaced excluded, ?_, size_carve_le first last excluded, fun others h => ?_⟩
  · rw [containsIp_iff]
    refine exists_congr fun a => and_congr_right ?_
    rintro rfl
    exact contains_carve
  · rw [ncard_containsIp, (hspaced excluded).ncard_contains]
  · refine (hspaced others).eq_of_contains (hspaced excluded) fun a => ?_
    rw [contains_carve, contains_carve]
    exact and_congr_right fun h₁ => and_congr_right fun h₂ => not_congr (h a h₁ h₂)

/-- Addresses between two bounds and elsewhere, of both families and in no order. -/
def scattered : List IpAddress :=
  [.v4 (.ofNat 0xC0A80114), .v4 (.ofNat 0xC0A80110), .v4 (.ofNat 0xC0A80115),
    .v4 (.ofNat 0x0A000001), .v6 (.ofNat 0xC0A80112), .v4 (.ofNat 0xC0A80114)]

/-- Three addresses are missing in two places; those elsewhere, the order and the
    repeat make no difference. -/
theorem carve_scattered :
    carve (.ofNat 0xC0A80110) (.ofNat 0xC0A8011E) scattered = (⟨[
      { first := .ofNat 0xC0A80111, last := .ofNat 0xC0A80113 },
      { first := .ofNat 0xC0A80116, last := .ofNat 0xC0A8011E }]⟩ : Pool .v4) ∧
    {x | (carve (.ofNat 0xC0A80110 : Address .v4) (.ofNat 0xC0A8011E) scattered).containsIp x
      = true}.ncard = 12 := by
  have hagree : ∀ a : Address .v4, .ofNat 0xC0A80110 ≤ a → (IpAddress.of a ∈
      [.v4 (.ofNat 0xC0A80110), .v4 (.ofNat 0xC0A80114), .v4 (.ofNat 0xC0A80115)] ↔
        .of a ∈ scattered) := by
    intro a hfirst
    have hother : a ≠ .ofNat 0x0A000001 := by
      rintro rfl
      exact absurd hfirst (by decide)
    simp only [scattered, IpAddress.of, List.mem_cons, List.not_mem_nil, or_false, reduceCtorEq,
      false_or, IpAddress.v4.injEq]
    tauto
  obtain ⟨-, -, hsize, -, hsame⟩ :=
    carve_exact (.ofNat 0xC0A80110 : Address .v4) (.ofNat 0xC0A8011E) scattered
  rw [hsize, ← hsame _ fun a hfirst _ => hagree a hfirst, carve, holes,
    List.mergeSort_of_pairwise (by decide)]
  decide

end Pool

end NetworkSite
