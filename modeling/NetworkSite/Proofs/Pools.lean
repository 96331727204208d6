/-
  What carving leaves in a pool.

  `gaps` walks over the holes in ascending order and gives the stretches
  between them (`exists_gap_iff`); so a carved pool holds exactly the addresses
  between its bounds that are not excluded (`Pool.contains_carve`), and it has
  no range without addresses (`Pool.exists_contains_of_carve`).
-/
import NetworkSite.Net.Pool

namespace NetworkSite

/-! ## Gaps -/

section

variable {next last n : Nat} {holes : List Nat}

/-- Gaps are not empty and lie between the bounds. -/
theorem bounds_of_mem_gaps (hu : ∀ h ∈ holes, h ≤ last) {g : Nat × Nat}
    (hg : g ∈ gaps next last holes) : g.1 ≤ g.2 ∧ g.2 ≤ last := by
  induction holes generalizing next with
  | nil =>
    unfold gaps at hg
    split at hg
    next h => rw [List.mem_singleton.1 hg]; exact ⟨h, Nat.le_refl _⟩
    next => cases hg
  | cons hole rest ih =>
    have hrest : ∀ h ∈ rest, h ≤ last := fun h hm => hu h (List.mem_cons_of_mem _ hm)
    unfold gaps at hg
    split at hg
    next h =>
      rcases List.mem_cons.1 hg with rfl | hg
      · have := hu hole List.mem_cons_self
        exact ⟨by simp only; omega, by simp only; omega⟩
      · exact ih hrest hg
    next => exact ih hrest hg

/-- A number lies in a gap if it lies between the bounds and is no hole.  The
    walk never falls back behind a hole: each one is at most one step behind
    what comes next. -/
theorem exists_gap_iff (hs : holes.Pairwise (· ≤ ·)) (hl : ∀ h ∈ holes, next ≤ h + 1)
    (hu : ∀ h ∈ holes, h ≤ last) :
    (∃ g ∈ gaps next last holes, g.1 ≤ n ∧ n ≤ g.2) ↔ next ≤ n ∧ n ≤ last ∧ n ∉ holes := by
  induction holes generalizing next with
  | nil =>
    unfold gaps
    split
    next => simp
    next h => simp only [List.not_mem_nil, false_and, exists_false, false_iff]; omega
  | cons hole rest ih =>
    obtain ⟨hle, hs⟩ := List.pairwise_cons.1 hs
    have hhole := hl hole List.mem_cons_self
    have hlast := hu hole List.mem_cons_self
    have ih : (∃ g ∈ gaps (hole + 1) last rest, g.1 ≤ n ∧ n ≤ g.2) ↔
        hole + 1 ≤ n ∧ n ≤ last ∧ n ∉ rest :=
      ih hs (fun h hm => Nat.succ_le_succ (hle h hm)) fun h hm => hu h (List.mem_cons_of_mem _ hm)
    unfold gaps
    split
    next h =>
      simp only [List.mem_cons, exists_eq_or_imp, ih, not_or]
      constructor
      · rintro (⟨h₁, h₂⟩ | ⟨h₁, h₂, h₃⟩)
        · exact ⟨h₁, by omega, by omega, fun hm => by have := hle n hm; omega⟩
        · exact ⟨by omega, h₂, by omega, h₃⟩
      · rintro ⟨h₁, h₂, h₃, h₄⟩
        rcases Nat.lt_or_gt_of_ne h₃ with h₃ | h₃
        · exact .inl ⟨h₁, by omega⟩
        · exact .inr ⟨h₃, h₂, h₄⟩
    next h =>
      rw [ih, List.mem_cons, not_or]
      exact ⟨fun ⟨h₁, h₂, h₃⟩ => ⟨by omega, h₂, by omega, h₃⟩,
        fun ⟨h₁, h₂, h₃, h₄⟩ => ⟨by omega, h₂, h₄⟩⟩

end

theorem IpAddress.inFamily?_eq_some {f : Family} {x : IpAddress} {a : Address f} :
    x.inFamily? f = some a ↔ x = .of a := by
  cases f <;> cases x <;> simp [inFamily?, of, eq_comm]

theorem IpAddress.of_inj {f : Family} {a b : Address f} (h : IpAddress.of a = .of b) : a = b := by
  cases f <;> exact (by simpa [of] using h)

theorem IpAddress.of_le_of {f : Family} {a b : Address f} :
    IpAddress.of a ≤ .of b ↔ a.toNat ≤ b.toNat := by
  cases f with
  | v4 => exact Iff.rfl
  | v6 => exact Nat.add_le_add_iff_left

theorem Address.toNat_ofNat {f : Family} {n : Nat} (h : n < 2 ^ f.width) :
    (Address.ofNat n : Address f).toNat = n :=
  Nat.mod_eq_of_lt h

/-! ## Pools -/

namespace Pool

variable {f : Family} {first last a : Address f} {excluded : List IpAddress}

theorem mem_holes {n : Nat} :
    n ∈ holes first last excluded ↔
      ∃ a : Address f, .of a ∈ excluded ∧ first ≤ a ∧ a ≤ last ∧ a.toNat = n := by
  simp only [holes, List.mem_mergeSort, List.mem_map, List.mem_filter, List.mem_filterMap,
    IpAddress.inFamily?_eq_some, exists_eq_right, Bool.and_eq_true, decide_eq_true_eq, and_assoc]

theorem pairwise_holes : (holes first last excluded).Pairwise (· ≤ ·) := by
  refine (List.pairwise_mergeSort ?_ ?_ _).imp (by simp)
  · simp only [decide_eq_true_eq]
    exact fun a b c => Nat.le_trans
  · simp only [Bool.or_eq_true, decide_eq_true_eq]
    exact Nat.le_total

theorem le_of_mem_holes {n : Nat} (h : n ∈ holes first last excluded) : n ≤ last.toNat := by
  obtain ⟨a, -, -, ha, rfl⟩ := mem_holes.1 h
  exact ha

theorem mem_ranges_carve {r : AddressRange f} :
    r ∈ (carve first last excluded).ranges ↔
      ∃ g ∈ gaps first.toNat last.toNat (holes first last excluded),
        r = { first := .ofNat g.1, last := .ofNat g.2 } := by
  simp only [carve, List.mem_map, eq_comm]

theorem toNat_ends {g : Nat × Nat} (hg : g ∈ gaps first.toNat last.toNat (holes first last excluded)) :
    (Address.ofNat g.1 : Address f).toNat = g.1 ∧ (Address.ofNat g.2 : Address f).toNat = g.2 := by
  obtain ⟨h₁, h₂⟩ := bounds_of_mem_gaps (fun _ => le_of_mem_holes) hg
  have := last.toNat_lt
  exact ⟨Address.toNat_ofNat (by omega), Address.toNat_ofNat (by omega)⟩

/-- **A carved pool holds the addresses between its bounds that are not
    excluded.** -/
theorem contains_carve :
    (carve first last excluded).contains a = true ↔
      first ≤ a ∧ a ≤ last ∧ IpAddress.of a ∉ excluded := by
  have hn : a.toNat ∉ holes first last excluded ↔
      ¬(IpAddress.of a ∈ excluded ∧ first ≤ a ∧ a ≤ last) := by
    rw [mem_holes]
    exact not_congr ⟨fun ⟨b, h₁, h₂, h₃, h₄⟩ => Address.ext h₄ ▸ ⟨h₁, h₂, h₃⟩,
      fun ⟨h₁, h₂, h₃⟩ => ⟨a, h₁, h₂, h₃, rfl⟩⟩
  have hg : (∃ g ∈ gaps first.toNat last.toNat (holes first last excluded),
        g.1 ≤ a.toNat ∧ a.toNat ≤ g.2) ↔
      first.toNat ≤ a.toNat ∧ a.toNat ≤ last.toNat ∧ a.toNat ∉ holes first last excluded := by
    refine exists_gap_iff pairwise_holes (fun h hm => ?_) fun h => le_of_mem_holes
    obtain ⟨b, -, hb, -, rfl⟩ := mem_holes.1 hm
    exact Nat.le_succ_of_le hb
  rw [hn] at hg
  rw [contains, List.any_eq_true]
  refine Iff.trans ⟨?_, ?_⟩ (hg.trans ⟨fun ⟨h₁, h₂, h₃⟩ => ⟨h₁, h₂, fun h => h₃ ⟨h, h₁, h₂⟩⟩,
    fun ⟨h₁, h₂, h₃⟩ => ⟨h₁, h₂, fun h => h₃ h.1⟩⟩)
  · rintro ⟨r, hr, ha⟩
    obtain ⟨g, hg, rfl⟩ := mem_ranges_carve.1 hr
    simp only [AddressRange.contains, Bool.and_eq_true, decide_eq_true_eq, Address.le_def,
      toNat_ends hg] at ha
    exact ⟨g, hg, ha⟩
  · rintro ⟨g, hg, ha⟩
    refine ⟨_, mem_ranges_carve.2 ⟨g, hg, rfl⟩, ?_⟩
    simp only [AddressRange.contains, Bool.and_eq_true, decide_eq_true_eq, Address.le_def,
      toNat_ends hg]
    exact ha

theorem exists_contains_of_mem_ranges_carve {r : AddressRange f}
    (hr : r ∈ (carve first last excluded).ranges) : ∃ a, r.contains a = true := by
  obtain ⟨g, hg, rfl⟩ := mem_ranges_carve.1 hr
  refine ⟨.ofNat g.1, ?_⟩
  simp only [AddressRange.contains, Bool.and_eq_true, decide_eq_true_eq, Address.le_def, toNat_ends hg]
  exact ⟨Nat.le_refl _, (bounds_of_mem_gaps (fun _ => le_of_mem_holes) hg).1⟩

theorem exists_contains_of_carve (h : (carve first last excluded).isEmpty = false) :
    ∃ a, (carve first last excluded).contains a = true := by
  obtain ⟨r, hr⟩ := List.isEmpty_eq_false_iff_exists_mem.1 h
  obtain ⟨a, ha⟩ := exists_contains_of_mem_ranges_carve hr
  exact ⟨a, List.any_eq_true.2 ⟨r, hr, ha⟩⟩

end Pool

end NetworkSite
