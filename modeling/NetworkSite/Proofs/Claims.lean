/-
  Runs of claims.

  A run that says nothing has placed all of its claims: at its end every
  claimed address belongs to its claimant (`Registry.owner?_run_of_mem`), and
  nobody owns an address that was not claimed (`Registry.mem_of_owner?_run`).
  It does say nothing if there is no remark on its way and no address has two
  claimants, whatever the order of the claims (`Registry.run_eq_nil`).
-/
import NetworkSite.Net.Registry

namespace NetworkSite

namespace Registry

variable {r r' : Registry} {a b : IpAddress} {o o' : String}

/-! ## Single claims -/

theorem owner?_insert : owner? (r.insert a o) b = if a = b then some o else r.owner? b := by
  rw [owner?, SortedMap.get?_insert]
  by_cases h : a = b
  · rw [if_pos h, if_pos (h ▸ Std.ReflOrd.compare_self)]
  · rw [if_neg h, if_neg fun hc => h (Std.LawfulEqOrd.eq_of_compare hc)]
    rfl

/-- A claim is granted to the owner, and to anybody if there is none. -/
theorem claim_eq_ok (h : r.claim a o = .ok r') :
    r.owner? a = some o ∧ r' = r ∨ r.owner? a = none ∧ r' = r.insert a o := by
  unfold claim at h
  split at h
  next holder hh =>
    split at h
    next he => cases h; exact .inl ⟨by rw [hh, beq_iff_eq.1 he], rfl⟩
    next => cases h
  next hn => cases h; exact .inr ⟨hn, rfl⟩

theorem exists_claim_eq_ok (h : ∀ holder, r.owner? a = some holder → holder = o) :
    ∃ r', r.claim a o = .ok r' := by
  unfold claim
  split
  next holder hh => exact ⟨r, if_pos (beq_iff_eq.2 (h holder hh))⟩
  next => exact ⟨_, rfl⟩

theorem owner?_of_claim (h : r.claim a o = .ok r') : r'.owner? a = some o := by
  rcases claim_eq_ok h with ⟨ho, rfl⟩ | ⟨-, rfl⟩
  · exact ho
  · rw [owner?_insert, if_pos rfl]

theorem owner?_claim_of_owner? (h : r.claim a o = .ok r') (hb : r.owner? b = some o') :
    r'.owner? b = some o' := by
  rcases claim_eq_ok h with ⟨-, rfl⟩ | ⟨hn, rfl⟩
  · exact hb
  · have hab : a ≠ b := fun he => by rw [he, hb] at hn; cases hn
    rw [owner?_insert, if_neg hab, hb]

theorem owner?_of_owner?_claim (h : r.claim a o = .ok r') (hb : r'.owner? b = some o') :
    r.owner? b = some o' ∨ b = a ∧ o' = o := by
  rcases claim_eq_ok h with ⟨-, rfl⟩ | ⟨-, rfl⟩
  · exact .inl hb
  · rw [owner?_insert] at hb
    split at hb
    next he => cases hb; exact .inr ⟨he.symm, rfl⟩
    next => exact .inl hb

/-! ## Runs -/

variable {ε : Type} {steps : List (ClaimStep ε)}

theorem owner?_run_of_owner? (h : r.owner? a = some o) : (r.run steps).2.owner? a = some o := by
  induction steps generalizing r with
  | nil => exact h
  | cons step rest ih =>
    cases step with
    | remark e => exact ih h
    | claim b o' refused =>
      unfold run
      split
      next hc => exact ih (owner?_claim_of_owner? hc h)
      next => exact ih h

/-- Nobody gets an address that was not claimed. -/
theorem mem_of_owner?_run (h : (r.run steps).2.owner? a = some o) :
    r.owner? a = some o ∨ ∃ refused, .claim a o refused ∈ steps := by
  induction steps generalizing r with
  | nil => exact .inl h
  | cons step rest ih =>
    cases step with
    | remark e => exact (ih h).imp_right fun ⟨f, hf⟩ => ⟨f, List.mem_cons_of_mem _ hf⟩
    | claim b o' refused =>
      unfold run at h
      split at h
      next hc =>
        rcases ih h with h | ⟨f, hf⟩
        · rcases owner?_of_owner?_claim hc h with h | ⟨rfl, rfl⟩
          · exact .inl h
          · exact .inr ⟨refused, List.mem_cons_self⟩
        · exact .inr ⟨f, List.mem_cons_of_mem _ hf⟩
      next => exact (ih h).imp_right fun ⟨f, hf⟩ => ⟨f, List.mem_cons_of_mem _ hf⟩

/-- A run that says nothing has come upon no remark. -/
theorem not_remark_mem (h : (r.run steps).1 = []) {e : ε} : .remark e ∉ steps := by
  induction steps generalizing r with
  | nil => exact List.not_mem_nil
  | cons step rest ih =>
    cases step with
    | remark e => cases h
    | claim b o' refused =>
      unfold run at h
      split at h
      next => exact fun hm => (List.mem_cons.1 hm).elim nofun (ih h)
      next => cases h

/-- **Every claim of a run that says nothing has been granted.** -/
theorem owner?_run_of_mem (h : (r.run steps).1 = []) {refused : String → ε}
    (hc : .claim a o refused ∈ steps) : (r.run steps).2.owner? a = some o := by
  induction steps generalizing r with
  | nil => cases hc
  | cons step rest ih =>
    cases step with
    | remark e => cases h
    | claim b o' refused' =>
      unfold run at h ⊢
      split at h
      next hr =>
        rcases List.mem_cons.1 hc with hc | hc
        · cases hc; exact owner?_run_of_owner? (owner?_of_claim hr)
        · exact ih h hc
      next => cases h

/-- **A run says nothing if no two claims of it contradict each other**: there
    is no remark, and the claims, with those placed before, are among `claimed`,
    in which no address has two owners. -/
theorem run_eq_nil (claimed : IpAddress → String → Prop)
    (hone : ∀ a o o', claimed a o → claimed a o' → o = o')
    (hr : ∀ a o, r.owner? a = some o → claimed a o) (hn : ∀ e, .remark e ∉ steps)
    (hs : ∀ a o refused, .claim a o refused ∈ steps → claimed a o) : (r.run steps).1 = [] := by
  induction steps generalizing r with
  | nil => rfl
  | cons step rest ih =>
    have hn' : ∀ e, .remark e ∉ rest := fun e he => hn e (List.mem_cons_of_mem _ he)
    have hs' : ∀ a o refused, .claim a o refused ∈ rest → claimed a o := fun a o f hf =>
      hs a o f (List.mem_cons_of_mem _ hf)
    cases step with
    | remark e => exact absurd List.mem_cons_self (hn e)
    | claim b o refused =>
      have hb : claimed b o := hs b o refused List.mem_cons_self
      obtain ⟨r', hc⟩ : ∃ r', r.claim b o = .ok r' :=
        exists_claim_eq_ok fun holder hh => hone b _ _ (hr b holder hh) hb
      unfold run
      rw [hc]
      refine ih (fun a o' ho => ?_) hn' hs'
      rcases owner?_of_owner?_claim hc ho with ho | ⟨rfl, rfl⟩
      · exact hr a o' ho
      · exact hb

/-! ## Claims of one owner -/

/-- One owner gets every address that it claims, where it owns what is owned. -/
theorem owner?_foldl_tryClaim {addresses : List IpAddress}
    (hr : ∀ a holder, r.owner? a = some holder → holder = o)
    (ha : r.owner? a = some o ∨ a ∈ addresses) :
    owner? (addresses.foldl (fun r a => r.tryClaim a o) r) a = some o := by
  induction addresses generalizing r with
  | nil => exact ha.resolve_right List.not_mem_nil
  | cons b rest ih =>
    obtain ⟨r', hc⟩ : ∃ r', r.claim b o = .ok r' := exists_claim_eq_ok (hr b)
    rw [List.foldl_cons, tryClaim, hc]
    refine ih (fun c holder hh => ?_) ?_
    · rcases owner?_of_owner?_claim hc hh with hh | ⟨-, rfl⟩
      · exact hr c holder hh
      · rfl
    · rcases ha with ha | ha
      · exact .inl (owner?_claim_of_owner? hc ha)
      · rcases List.mem_cons.1 ha with rfl | ha
        · exact .inl (owner?_of_claim hc)
        · exact .inr ha

/-! ## Lookups -/

theorem mem_between {first last : IpAddress} :
    (a, o) ∈ r.between first last ↔ r.owner? a = some o ∧ first ≤ a ∧ a ≤ last := by
  rw [between, List.mem_filter, owner?, SortedMap.get?_eq_some, Bool.and_eq_true, decide_eq_true_eq,
    decide_eq_true_eq]

/-- A lookup is crossed if its bounds are and anything is claimed at all. -/
theorem isCrossed_iff {first last : IpAddress} :
    r.isCrossed first last = true ↔ (∃ a o, r.owner? a = some o) ∧ last < first := by
  rw [isCrossed, Bool.and_eq_true, decide_eq_true_eq, Bool.not_eq_true', SortedMap.isEmpty,
    List.isEmpty_eq_false_iff_exists_mem]
  simp only [owner?, SortedMap.get?_eq_some, Prod.exists]

end Registry

end NetworkSite
