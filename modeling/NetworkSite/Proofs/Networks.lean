/-
  Networks as intervals of addresses.

  A network holds `size` addresses from its base on (`Network.contains_iff`).
  The base is a multiple of the size, so that of two networks with a common
  address one holds the base of the other; `overlaps`, which only looks at the
  bases, therefore finds every common address (`Network.overlaps_iff`).  A network
  is built from its base and its length (`Network.build_eq_ok`).
-/
import NetworkSite.Net.Network

namespace NetworkSite

namespace Network

variable {f : Family} {m n : Network f} {a : Address f}

theorem ofText?_eq_some {s : String} : ofText? s = some n ↔ ofText s = .ok n := by
  rw [ofText?]
  cases ofText s <;> simp [Except.toOption]

/-- The addresses of a network are those of an interval. -/
theorem contains_iff : n.contains a = true ↔ n.base ≤ a.toNat ∧ a.toNat < n.base + n.size := by
  obtain ⟨k, hk⟩ := n.aligned
  have hk : n.base = k * n.size := by rw [hk, Nat.mul_comm]; rfl
  rw [contains, beq_iff_eq, hk]
  constructor
  · intro h
    rw [← h]
    exact ⟨Nat.div_mul_le_self _ _, Nat.lt_div_mul_add n.size_pos⟩
  · rintro ⟨h₁, h₂⟩
    rw [Nat.div_eq_of_lt_le h₁ (by rw [Nat.succ_mul]; exact h₂)]

@[simp]
theorem toNat_first : n.first.toNat = n.base := rfl

@[simp]
theorem toNat_last : n.last.toNat = n.base + (n.size - 1) := rfl

theorem contains_first : n.contains n.first = true :=
  contains_iff.2 ⟨Nat.le_refl _, Nat.lt_add_of_pos_right n.size_pos⟩

theorem nth?_eq_some {o : Nat} : n.nth? o = some a ↔ o < n.size ∧ a.toNat = n.base + o := by
  unfold nth?
  split
  next h =>
    rw [Option.some.injEq, Address.ext_iff]
    exact ⟨fun ha => ⟨h, ha.symm⟩, fun ha => ha.2.symm⟩
  next h => simp [h]

theorem offset?_eq_some {o : Nat} :
    n.offset? a = some o ↔ n.contains a = true ∧ a.toNat = n.base + o := by
  unfold offset?
  split
  next h =>
    have hle := (contains_iff.1 h).1
    rw [Option.some.injEq, and_iff_right h]
    omega
  next h => simp [h]

theorem exists_nth? {o : Nat} (h : o < n.size) : ∃ a, n.nth? o = some a :=
  ⟨⟨n.base + o, Nat.lt_of_lt_of_le (Nat.add_lt_add_left h _) n.base_add_size_le⟩, by simp [nth?, h]⟩

theorem contains_of_nth? {o : Nat} (h : n.nth? o = some a) : n.contains a = true := by
  obtain ⟨ho, ha⟩ := nth?_eq_some.1 h
  exact contains_iff.2 ⟨by omega, by omega⟩

theorem gateway?_eq_some :
    n.gateway? = some a ↔ ¬(f = .v4 ∧ n.size ≤ 2) ∧ n.nth? 1 = some a := by
  unfold gateway?
  split
  next h => simp [h]
  next h => simp [h]

theorem nth?_of_gateway? (h : n.gateway? = some a) : n.nth? 1 = some a :=
  (gateway?_eq_some.1 h).2

theorem contains_gateway? (h : n.gateway? = some a) : n.contains a = true :=
  contains_of_nth? (nth?_of_gateway? h)

/-! ## Common addresses -/

/-- Sizes are powers of two, so that one of them divides the other. -/
theorem size_dvd_total (m n : Network f) : m.size ∣ n.size ∨ n.size ∣ m.size := by
  rcases Nat.le_total (f.width - m.length) (f.width - n.length) with h | h
  · exact .inl (Nat.pow_dvd_pow 2 h)
  · exact .inr (Nat.pow_dvd_pow 2 h)

/-- A network that has an address in common with one whose size its own size
    divides lies in that one. -/
theorem contains_first_of_dvd (hd : m.size ∣ n.size) (hm : m.contains a = true)
    (hn : n.contains a = true) : n.contains m.first = true := by
  rw [contains_iff] at hm hn ⊢
  obtain ⟨i, hi⟩ : m.size ∣ m.base := m.aligned
  obtain ⟨j, hj⟩ : m.size ∣ n.base := Nat.dvd_trans hd n.aligned
  have hji : j < i + 1 := by
    refine Nat.lt_of_mul_lt_mul_left (a := m.size) ?_
    calc m.size * j ≤ a.toNat := by rw [← hj]; exact hn.1
      _ < m.size * (i + 1) := by rw [Nat.mul_succ, ← hi]; exact hm.2
  have hle : n.base ≤ m.base := by
    rw [hi, hj]; exact Nat.mul_le_mul_left _ (Nat.le_of_lt_succ hji)
  rw [toNat_first]
  omega

/-- A network that begins in one whose size its own size divides ends in it too. -/
theorem contains_of_contains_first (hd : m.size ∣ n.size) (h : n.contains m.first = true)
    (ha : m.contains a = true) : n.contains a = true := by
  rw [contains_iff, toNat_first] at h
  rw [contains_iff] at ha ⊢
  obtain ⟨i, hi⟩ : m.size ∣ m.base := m.aligned
  obtain ⟨j, hj⟩ : m.size ∣ n.base + n.size := Nat.dvd_add (Nat.dvd_trans hd n.aligned) hd
  have hij : i < j := by
    refine Nat.lt_of_mul_lt_mul_left (a := m.size) ?_
    rw [← hi, ← hj]
    exact h.2
  have hend : m.base + m.size ≤ n.base + n.size := by
    rw [hi, hj, ← Nat.mul_succ]
    exact Nat.mul_le_mul_left _ hij
  omega

/-- **Overlap is having a common address.** -/
theorem overlaps_iff : m.overlaps n = true ↔ ∃ a, m.contains a = true ∧ n.contains a = true := by
  rw [overlaps, Bool.or_eq_true]
  constructor
  · rintro (h | h)
    · exact ⟨n.first, h, contains_first⟩
    · exact ⟨m.first, contains_first, h⟩
  · rintro ⟨a, hm, hn⟩
    rcases size_dvd_total m n with h | h
    · exact .inr (contains_first_of_dvd h hm hn)
    · exact .inl (contains_first_of_dvd h hn hm)

theorem not_contains_of_not_overlaps (h : m.overlaps n = false) (hm : m.contains a = true) :
    n.contains a = false := by
  rw [← Bool.not_eq_true] at h ⊢
  exact fun hn => h (overlaps_iff.2 ⟨a, hm, hn⟩)

theorem overlaps_comm : m.overlaps n = n.overlaps m :=
  Bool.or_comm _ _

/-! ## Building -/

/-- A network is built from its base and its length, and from nothing else. -/
theorem build_eq_ok {text : String} {length : Nat} :
    build text a length = .ok n ↔ n.first = a ∧ n.length = length := by
  unfold build
  constructor
  · intro h
    split at h
    · split at h
      · cases h
        exact ⟨rfl, rfl⟩
      · cases h
    · cases h
  · rintro ⟨rfl, rfl⟩
    rw [dif_pos n.length_le]
    exact dif_pos n.aligned

/-! ## Parts -/

theorem part_eq_ok {index target : Nat} {p : Network f} (h : n.part index target = .ok p) :
    p.base = n.base + index * p.size ∧ p.length = target := by
  unfold part at h
  split at h
  · split at h
    · cases h; exact ⟨rfl, rfl⟩
    · cases h
  · cases h

end Network

end NetworkSite
