/-
  The parts of a network.

  The part with an index has that index in the bits between the two prefix
  lengths (`Network.bits_part`), so that parts of different indices have no common
  address, and where an index of 64 bits reaches them all, each address of the
  network lies in exactly one (`Network.existsUnique_part`).  The stretches of
  `/64`s by which shares of a prefix are compared say the same as the parts
  themselves (`Network.span_overlaps_iff`).  All of this is `Network.parts_by_index`.
-/
import NetworkSite.Proofs.Shares
import Mathlib.Tactic.Ring

namespace NetworkSite

namespace Network

variable {f : Family} {m n p q : Network f} {a : Address f} {index target i j : Nat}

/-- The number in the bits of the base from a position up to another one, counted
    from the front. -/
def bits (n : Network f) (first last : Nat) : Nat :=
  n.base / 2 ^ (f.width - last) % 2 ^ (last - first)

/-! ## Which parts there are -/

/-- The count of parts that fits into 128 bits is no bound for an index of 64. -/
theorem lt_min_iff {k : Nat} (hi : index < 2 ^ 64) :
    index < min (2 ^ k) (2 ^ Family.v6.width - 1) ↔ index < 2 ^ k := by
  rw [Nat.lt_min, and_iff_left_iff_imp]
  intro _
  exact Nat.lt_trans hi (by decide)

theorem exists_part (hl : n.length ≤ target) (hw : target ≤ f.width) (hi : index < 2 ^ 64)
    (hindex : index < 2 ^ (target - n.length)) : ∃ p, n.part index target = .ok p := by
  rw [part, dif_pos ⟨hl, hw⟩, dif_pos ((lt_min_iff hi).2 hindex)]
  exact ⟨_, rfl⟩

theorem part_eq_noDivision_iff :
    n.part index target = .error (.noDivision n.length target) ↔
      target < n.length ∨ f.width < target := by
  unfold part
  split
  next h =>
    split
    all_goals simp only [reduceCtorEq, Except.error.injEq, false_iff]; omega
  next h =>
    simp only [true_iff]
    omega

theorem part_eq_noPart_iff (hi : index < 2 ^ 64) :
    n.part index target =
        .error (.noPart index (2 ^ (target - n.length)) n.length target) ↔
      (n.length ≤ target ∧ target ≤ f.width) ∧ 2 ^ (target - n.length) ≤ index := by
  unfold part
  split
  next h =>
    split
    next hlt => simpa [h] using (lt_min_iff hi).1 hlt
    next hle =>
      rw [lt_min_iff hi, Nat.not_lt] at hle
      -- So few parts are counted exactly.
      have hcount : min (2 ^ (target - n.length)) (2 ^ Family.v6.width - 1) =
          2 ^ (target - n.length) :=
        Nat.min_eq_left (Nat.le_trans hle (Nat.le_of_lt (Nat.lt_trans hi (by decide))))
      rw [hcount]
      simp [h, hle]
  next h => simp [h]

theorem bounds_of_part (h : n.part index target = .ok p) :
    n.length ≤ target ∧ index < 2 ^ (target - n.length) := by
  unfold part at h
  split at h
  next hl =>
    split at h
    next hi => exact ⟨hl.1, Nat.lt_of_lt_of_le hi (Nat.min_le_left _ _)⟩
    next => cases h
  next => cases h

/-! ## What a part is -/

theorem size_eq_of_part (h : n.part index target = .ok p) :
    n.size = 2 ^ (target - n.length) * p.size := by
  obtain ⟨hl, -⟩ := bounds_of_part h
  have hlength := (part_eq_ok h).2
  have hw := p.length_le
  rw [size, size, hlength, ← Nat.pow_add]
  congr 1
  omega

theorem part_end_le (h : n.part index target = .ok p) : p.base + p.size ≤ n.base + n.size := by
  have hroom : (index + 1) * p.size ≤ n.size := by
    rw [size_eq_of_part h]
    exact Nat.mul_le_mul_right _ (bounds_of_part h).2
  rw [Nat.succ_mul] at hroom
  rw [(part_eq_ok h).1]
  omega

theorem contains_of_part (h : n.part index target = .ok p) (ha : p.contains a = true) :
    n.contains a = true := by
  rw [contains_iff] at ha ⊢
  have hend := part_end_le h
  have hbase := (part_eq_ok h).1
  have hle : n.base ≤ p.base := by rw [hbase]; exact Nat.le_add_right _ _
  omega

/-- **The index of a part stands in the bits between the prefix lengths.** -/
theorem bits_part (h : n.part index target = .ok p) : p.bits n.length target = index := by
  obtain ⟨hbase, hlength⟩ := part_eq_ok h
  have hsize : p.size = 2 ^ (f.width - target) := by rw [size, hlength]
  obtain ⟨k, hk⟩ : n.size ∣ n.base := n.aligned
  have hp : p.base = p.size * (2 ^ (target - n.length) * k + index) := by
    rw [hbase, hk, size_eq_of_part h]
    ring
  rw [bits, ← hsize, hp, Nat.mul_div_cancel_left _ p.size_pos, Nat.mul_add_mod,
    Nat.mod_eq_of_lt (bounds_of_part h).2]

theorem offset_div_of_part (h : n.part index target = .ok p) (ha : p.contains a = true) :
    (a.toNat - n.base) / 2 ^ (f.width - target) = index := by
  obtain ⟨hbase, hlength⟩ := part_eq_ok h
  have hsize : p.size = 2 ^ (f.width - target) := by rw [size, hlength]
  rw [contains_iff, hbase] at ha
  rw [← hsize]
  refine Nat.div_eq_of_lt_le (by omega) ?_
  rw [Nat.succ_mul]
  omega

theorem index_unique_of_contains (hp : n.part i target = .ok p) (hq : n.part j target = .ok q)
    (ha : p.contains a = true) (ha' : q.contains a = true) : i = j :=
  (offset_div_of_part hp ha).symm.trans (offset_div_of_part hq ha')

/-- **Each address of a network lies in exactly one part**, if an index of 64 bits
    reaches all of them. -/
theorem existsUnique_part (hl : n.length ≤ target) (hw : target ≤ f.width)
    (hfew : target - n.length ≤ 64) (ha : n.contains a = true) :
    ∃! i, i < 2 ^ 64 ∧ ∃ p, n.part i target = .ok p ∧ p.contains a = true := by
  rw [contains_iff] at ha
  have hcount : 2 ^ (target - n.length) ≤ 2 ^ 64 := Nat.pow_le_pow_right (by decide) hfew
  have hindex : (a.toNat - n.base) / 2 ^ (f.width - target) < 2 ^ (target - n.length) := by
    rw [Nat.div_lt_iff_lt_mul (Nat.two_pow_pos _), ← Nat.pow_add]
    have hexp : target - n.length + (f.width - target) = f.width - n.length := by omega
    have hsize : n.size = 2 ^ (f.width - n.length) := rfl
    rw [hexp, ← hsize]
    omega
  obtain ⟨p, hp⟩ := exists_part hl hw (Nat.lt_of_lt_of_le hindex hcount) hindex
  refine ⟨_, ⟨Nat.lt_of_lt_of_le hindex hcount, p, hp, ?_⟩, ?_⟩
  · obtain ⟨hbase, hlength⟩ := part_eq_ok hp
    have hsize : p.size = 2 ^ (f.width - target) := by rw [size, hlength]
    have hdiv := Nat.div_mul_le_self (a.toNat - n.base) p.size
    have hlt := Nat.lt_div_mul_add p.size_pos (a := a.toNat - n.base)
    rw [← hsize] at hbase
    rw [contains_iff, hbase]
    omega
  · rintro j ⟨-, q, hq, haq⟩
    exact (offset_div_of_part hq haq).symm

/-! ## Parts in units of a `/64` -/

/-- Networks overlap if each begins before the other one ends. -/
theorem overlaps_iff_lt :
    m.overlaps n = true ↔ m.base < n.base + n.size ∧ n.base < m.base + m.size := by
  rw [overlaps_iff]
  constructor
  · rintro ⟨a, hm, hn⟩
    rw [contains_iff] at hm hn
    omega
  · rintro ⟨hmn, hnm⟩
    have hm := m.size_pos
    have hn := n.size_pos
    rcases Nat.le_total m.base n.base with h | h
    · exact ⟨n.first, contains_iff.2 ⟨h, hnm⟩, contains_first⟩
    · exact ⟨m.first, contains_first, contains_iff.2 ⟨h, hmn⟩⟩

/-- **Shares meet in a unit exactly if their parts overlap.** -/
theorem span_overlaps_iff {n p q : Network .v6} {a b : DelegatedSubnet}
    (ha : a.length ≤ 64) (hb : b.length ≤ 64) (hp : n.part a.index a.length = .ok p)
    (hq : n.part b.index b.length = .ok q) :
    (Ipv6Span.delegated a).overlaps (.delegated b) = true ↔ p.overlaps q = true := by
  have hunits : ∀ {c : DelegatedSubnet} {r : Network .v6}, c.length ≤ 64 →
      n.part c.index c.length = .ok r →
      r.base = n.base + Ipv6Span.start c * 2 ^ (64 : Nat) ∧
        r.base + r.size = n.base + Ipv6Span.stop c * 2 ^ (64 : Nat) := by
    intro c r hc hr
    obtain ⟨hbase, hlength⟩ := part_eq_ok hr
    have hpart : ({ c with subnet := some r } : DelegatedSubnet).IsPartOf (some n) := by
      refine ⟨hc, ?_⟩
      rintro r' ⟨⟩
      exact ⟨n, rfl, hbase, hlength⟩
    obtain ⟨known, hknown, hstart, hstop⟩ := DelegatedSubnet.units_of_isPartOf hpart rfl
    cases hknown
    exact ⟨hstart, hstop⟩
  obtain ⟨hpstart, hpstop⟩ := hunits ha hp
  obtain ⟨hqstart, hqstop⟩ := hunits hb hq
  rw [overlaps_iff_lt, hpstop, hqstop, hpstart, hqstart]
  simp only [Ipv6Span.overlaps, Bool.and_eq_true, decide_eq_true_eq]
  omega

/-! ## Main result -/

/-- **The parts of a network.**  An index of 64 bits and a length name a part, or it
    is clear which of the two is out of bounds.  A part is a network of that length
    in the network, with the index in its bits; parts of different indices have no
    common address; each address lies in exactly one part, if 64 bits reach all of
    them; and shares of a prefix meet in a `/64` exactly if their parts overlap. -/
theorem parts_by_index (n : Network .v6) :
    (∀ index < 2 ^ 64, ∀ target,
      (n.part index target = .error (.noDivision n.length target) ↔
        target < n.length ∨ 128 < target) ∧
      (n.part index target = .error (.noPart index (2 ^ (target - n.length)) n.length target) ↔
        (n.length ≤ target ∧ target ≤ 128) ∧ 2 ^ (target - n.length) ≤ index) ∧
      ((n.length ≤ target ∧ target ≤ 128) ∧ index < 2 ^ (target - n.length) →
        ∃ p, n.part index target = .ok p ∧ p.length = target ∧ 2 ^ (128 - target) ∣ p.base ∧
          (∀ a, p.contains a = true → n.contains a = true) ∧ p.bits n.length target = index)) ∧
    (∀ target i j p q, n.part i target = .ok p → n.part j target = .ok q → i ≠ j →
      ∀ a, ¬(p.contains a = true ∧ q.contains a = true)) ∧
    (∀ target, n.length ≤ target → target ≤ 128 → target - n.length ≤ 64 →
      ∀ a, n.contains a = true →
        ∃! i, i < 2 ^ 64 ∧ ∃ p, n.part i target = .ok p ∧ p.contains a = true) ∧
    (∀ a b : DelegatedSubnet, n.length < a.length → a.length ≤ 64 → n.length < b.length →
      b.length ≤ 64 → ∀ p q, n.part a.index a.length = .ok p → n.part b.index b.length = .ok q →
        ((Ipv6Span.delegated a).overlaps (.delegated b) = true ↔ p.overlaps q = true)) := by
  refine ⟨fun index hi target => ⟨part_eq_noDivision_iff, part_eq_noPart_iff hi, ?_⟩, ?_, ?_, ?_⟩
  · rintro ⟨⟨hl, hw⟩, hindex⟩
    obtain ⟨p, hp⟩ := exists_part hl hw hi hindex
    have hlength := (part_eq_ok hp).2
    exact ⟨p, hp, hlength, hlength ▸ p.aligned, fun a => contains_of_part hp, bits_part hp⟩
  · rintro target i j p q hp hq hij a ⟨ha, ha'⟩
    exact hij (index_unique_of_contains hp hq ha ha')
  · exact fun target hl hw hfew a ha => existsUnique_part hl hw hfew ha
  · exact fun a b _ ha _ hb p q hp hq => span_overlaps_iff ha hb hp hq

/-- The sample network `2001:db8::/56`. -/
def sampleNetwork : Network .v6 where
  base := 0x20010db8 * 2 ^ (96 : Nat)
  length := 56
  length_le := by decide
  aligned := by decide
  base_lt := by decide

/-- Of the sample network there are 256 parts `/64`; the fourth `/60` has the index 3
    in its bits, and the `/64` of index 53 is in it. -/
theorem parts_of_sampleNetwork :
    sampleNetwork.part 256 64 = .error (.noPart 256 256 56 64) ∧
      ∃ p q, sampleNetwork.part 3 60 = .ok p ∧ sampleNetwork.part 53 64 = .ok q ∧
        p.bits 56 60 = 3 ∧ p.overlaps q = true := by
  obtain ⟨hnamed, -, -, hshares⟩ := parts_by_index sampleNetwork
  obtain ⟨p, hp, -, -, -, hbits⟩ := (hnamed 3 (by decide) 60).2.2 ⟨by decide, by decide⟩
  obtain ⟨q, hq, -⟩ := (hnamed 53 (by decide) 64).2.2 ⟨by decide, by decide⟩
  refine ⟨(hnamed 256 (by decide) 64).2.1.2 ⟨by decide, by decide⟩, p, q, hp, hq, hbits, ?_⟩
  exact (hshares ⟨3, 60, none⟩ ⟨53, 64, none⟩ (by decide) (by decide) (by decide) (by decide)
    p q hp hq).1 (by decide)

end Network

end NetworkSite
