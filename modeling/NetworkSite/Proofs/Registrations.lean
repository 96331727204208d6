/-
  Sequences of claims on the empty registry.

  A call claims an address for an owner.  After the calls of a sequence an address
  belongs to the owner of the first call for it (`List.lookup`), and exactly the calls
  with another owner than that were refused, which changed nothing
  (`Registry.run_calls`).  So it is no matter of order whether a call is refused, and if
  none is, not either what the registry holds at the end; what it lists between two
  bounds is in ascending order.  All of this is `Registry.ofCalls_spec`.
-/
import NetworkSite.Proofs.Claims
import Mathlib.Data.List.Sort

namespace NetworkSite

theorem SortedMap.eq_of_get?_eq {κ υ : Type} [Ord κ] [Std.TransOrd κ] [Std.LawfulEqOrd κ]
    {m m' : SortedMap κ υ} (h : ∀ k, m.get? k = m'.get? k) : m = m' := by
  have hirrefl : Std.Irrefl fun d e : κ × υ => compare d.1 e.1 = .lt :=
    ⟨fun d hd => by rw [Std.ReflOrd.compare_self] at hd; cases hd⟩
  have hantisymm : Std.Antisymm fun d e : κ × υ => compare d.1 e.1 = .lt :=
    ⟨fun d e hde hed => by rw [Std.OrientedCmp.gt_of_lt hde] at hed; cases hed⟩
  refine SortedMap.ext (List.Pairwise.eq_of_mem_iff m.sorted m'.sorted fun (k, v) => ?_)
  rw [← SortedMap.get?_eq_some, ← SortedMap.get?_eq_some, h]

namespace Registry

variable {r : Registry} {a b : IpAddress} {o holder : String}

/-! ## One call -/

theorem claim_eq_error : r.claim a o = .error holder ↔ r.owner? a = some holder ∧ holder ≠ o := by
  unfold claim
  split
  next other hother =>
    rw [hother, Option.some.injEq]
    split
    next he => exact ⟨nofun, fun ⟨hh, hne⟩ => absurd (hh ▸ beq_iff_eq.1 he) hne⟩
    next hne =>
      rw [Except.error.injEq]
      exact ⟨fun hh => ⟨hh, hh ▸ fun he => hne (beq_iff_eq.2 he)⟩, And.left⟩
  next hnone =>
    rw [hnone]
    exact ⟨nofun, nofun⟩

theorem tryClaim_of_error (h : r.claim a o = .error holder) : r.tryClaim a o = r := by
  rw [tryClaim, h]

/-- An address gets an owner only if it has none. -/
theorem owner?_tryClaim :
    (r.tryClaim a o).owner? b = (r.owner? b).or (if a = b then some o else none) := by
  unfold tryClaim
  split
  next hc =>
    rcases claim_eq_ok hc with ⟨ho, rfl⟩ | ⟨hnone, rfl⟩
    · split
      next he => rw [← he, ho, Option.some_or]
      next => rw [Option.or_none]
    · rw [owner?_insert]
      split
      next he => rw [← he, hnone, Option.none_or]
      next => rw [Option.or_none]
  next hc =>
    split
    next he => rw [← he, (claim_eq_error.1 hc).1, Option.some_or]
    next => rw [Option.or_none]

/-- An address and who claims it. -/
abbrev Call := IpAddress × String

/-- The step of a call; a refusal is told with the call and the owner. -/
def Call.step (call : Call) : ClaimStep (Call × String) :=
  .claim call.1 call.2 fun holder => (call, holder)

/-- What is told if a call is refused, where `owner` gives the owners. -/
def refusal? (owner : IpAddress → Option String) (call : Call) : Option (Call × String) :=
  match owner call.1 with
  | some holder => if holder = call.2 then none else some (call, holder)
  | none => none

theorem run_call (call : Call) (steps : List (ClaimStep (Call × String))) :
    r.run (call.step :: steps) =
      ((refusal? r.owner? call).toList ++ ((r.tryClaim call.1 call.2).run steps).1,
        ((r.tryClaim call.1 call.2).run steps).2) := by
  obtain ⟨a, o⟩ := call
  cases hc : r.claim a o with
  | ok r' =>
    have hquiet : refusal? r.owner? (a, o) = none := by
      rcases claim_eq_ok hc with ⟨ho, -⟩ | ⟨hnone, -⟩
      · rw [refusal?, ho]
        exact if_pos rfl
      · rw [refusal?, hnone]
    rw [Call.step, run, hc, hquiet, tryClaim, hc]
    rfl
  | error holder =>
    obtain ⟨hholder, hne⟩ := claim_eq_error.1 hc
    have htold : refusal? r.owner? (a, o) = some ((a, o), holder) := by
      rw [refusal?, hholder]
      exact if_neg hne
    rw [Call.step, run, hc, htold, tryClaim, hc]
    rfl

/-! ## Sequences of calls -/

variable {call : Call} {calls calls' before after rest : List Call}

theorem lookup_cons_or :
    (call :: rest).lookup b = (if call.1 = b then some call.2 else none).or (rest.lookup b) := by
  rw [List.lookup_cons]
  split
  next he => rw [if_pos (beq_iff_eq.1 he).symm, Option.some_or]
  next hne => rw [if_neg (beq_eq_false_iff_ne.1 hne).symm, Option.none_or]

/-- Who owns an address after some calls: the owner before them, or else that of the
    first call for it. -/
def ownerAfter (r : Registry) (calls : List Call) (a : IpAddress) : Option String :=
  (r.owner? a).or (calls.lookup a)

theorem ownerAfter_cons :
    r.ownerAfter (call :: rest) = (r.tryClaim call.1 call.2).ownerAfter rest := by
  funext b
  rw [ownerAfter, ownerAfter, owner?_tryClaim, lookup_cons_or, Option.or_assoc]

/-- What follows a call makes no difference to it. -/
theorem refusal?_ownerAfter_cons :
    refusal? (r.ownerAfter (call :: rest)) call = refusal? r.owner? call := by
  have howner : r.ownerAfter (call :: rest) call.1 = (r.owner? call.1).or (some call.2) := by
    rw [ownerAfter, lookup_cons_or, if_pos rfl, Option.some_or]
  rw [refusal?, refusal?, howner]
  cases r.owner? call.1 with
  | none => exact if_pos rfl
  | some holder => rfl

/-- The refusals of some calls and the registry after them. -/
theorem run_calls :
    r.run (calls.map Call.step) =
      (calls.filterMap (refusal? (r.ownerAfter calls)),
        calls.foldl (fun r call => r.tryClaim call.1 call.2) r) := by
  induction calls generalizing r with
  | nil => rfl
  | cons call rest ih =>
    rw [List.map_cons, run_call, ih, ← ownerAfter_cons, List.filterMap_cons,
      refusal?_ownerAfter_cons, List.foldl_cons]
    cases refusal? r.owner? call <;> rfl

theorem owner?_run_calls : owner? (r.run (calls.map Call.step)).2 = r.ownerAfter calls := by
  rw [run_calls]
  induction calls generalizing r with
  | nil =>
    funext a
    exact (Option.or_none).symm
  | cons call rest ih => rw [List.foldl_cons, ownerAfter_cons, ih]

/-! ## The empty registry -/

/-- The calls in order on the empty registry: the refusals, and the registry at the
    end. -/
def ofCalls (calls : List Call) : List (Call × String) × Registry :=
  empty.run (calls.map Call.step)

theorem ownerAfter_empty : empty.ownerAfter calls = fun a => calls.lookup a :=
  funext fun _ => Option.none_or

theorem owner?_ofCalls : (ofCalls calls).2.owner? a = calls.lookup a := by
  rw [ofCalls, owner?_run_calls, ownerAfter_empty]

theorem refusals_ofCalls :
    (ofCalls calls).1 = calls.filterMap (refusal? fun a => calls.lookup a) := by
  rw [ofCalls, run_calls, ownerAfter_empty]

theorem ofCalls_concat :
    (ofCalls (before ++ [call])).2 = (ofCalls before).2.tryClaim call.1 call.2 := by
  rw [ofCalls, ofCalls, run_calls, run_calls, List.foldl_concat]

theorem claim_ofCalls_eq_error :
    (ofCalls before).2.claim a o = .error holder ↔
      (before ++ (a, o) :: after).lookup a = some holder ∧ holder ≠ o := by
  rw [claim_eq_error, owner?_ofCalls, List.lookup_append, lookup_cons_or, if_pos rfl, Option.some_or]
  cases before.lookup a with
  | some other => rfl
  | none =>
    rw [Option.none_or, Option.some.injEq]
    exact ⟨nofun, fun ⟨he, hne⟩ => absurd he.symm hne⟩

/-! ## Other orders -/

/-- No call is refused if no address has calls of two owners. -/
theorem refusals_eq_nil_iff :
    (ofCalls calls).1 = [] ↔ ∀ a o o', (a, o) ∈ calls → (a, o') ∈ calls → o = o' := by
  have hstep {a : IpAddress} {o : String} (h : (a, o) ∈ calls) :
      Call.step (a, o) ∈ calls.map Call.step := List.mem_map_of_mem h
  constructor
  · intro h a o o' ho ho'
    have howner := owner?_run_of_mem h (hstep ho)
    rw [owner?_run_of_mem h (hstep ho')] at howner
    exact (Option.some.inj howner).symm
  · intro hone
    refine run_eq_nil (fun a o => (a, o) ∈ calls) hone (fun a o ho => nomatch ho) ?_ ?_
    · intro e he
      obtain ⟨call, -, hcall⟩ := List.mem_map.1 he
      cases hcall
    · intro a o refused hc
      obtain ⟨call, hmem, hcall⟩ := List.mem_map.1 hc
      cases hcall
      exact hmem

theorem lookup_eq_some_iff (h : (ofCalls calls).1 = []) :
    calls.lookup a = some o ↔ (a, o) ∈ calls := by
  rw [← owner?_ofCalls]
  constructor
  · intro ho
    rw [owner?_ofCalls, List.lookup_eq_some_iff] at ho
    obtain ⟨front, back, rfl, -⟩ := ho
    exact List.mem_append_right front List.mem_cons_self
  · intro hmem
    exact owner?_run_of_mem h (List.mem_map_of_mem (f := Call.step) hmem)

theorem refusals_eq_nil_of_perm (hp : calls.Perm calls') :
    (ofCalls calls').1 = [] ↔ (ofCalls calls).1 = [] := by
  simp only [refusals_eq_nil_iff, hp.mem_iff]

theorem ofCalls_eq_of_perm (hp : calls.Perm calls') (h : (ofCalls calls).1 = []) :
    (ofCalls calls').2 = (ofCalls calls).2 := by
  refine SortedMap.eq_of_get?_eq fun a => ?_
  have h' := (refusals_eq_nil_of_perm hp).2 h
  show owner? _ a = owner? _ a
  rw [owner?_ofCalls, owner?_ofCalls]
  refine Option.ext fun o => ?_
  rw [lookup_eq_some_iff h, lookup_eq_some_iff h', hp.mem_iff]

/-! ## Lookups between bounds -/

theorem pairwise_between (r : Registry) (first last : IpAddress) :
    (r.between first last).Pairwise fun d e => d.1 < e.1 :=
  (r.sorted.filter _).imp Nat.compare_eq_lt.1

end Registry

/-- All addresses are ordered by their families, and within a family by their numbers. -/
theorem IpAddress.le_iff {a b : IpAddress} :
    a ≤ b ↔ a.family = .v4 ∧ b.family = .v6 ∨ a.family = b.family ∧ a.toNat ≤ b.toNat := by
  cases a with
  | v4 a =>
    cases b with
    | v4 b => exact ⟨fun h => .inr ⟨rfl, h⟩, fun h => h.elim nofun And.right⟩
    | v6 b =>
      have ha : a.toNat < 2 ^ Family.v4.width := a.toNat_lt
      exact iff_of_true (Nat.le_trans ha.le (Nat.le_add_right _ _)) (.inl ⟨rfl, rfl⟩)
  | v6 a =>
    cases b with
    | v4 b =>
      have hb : b.toNat < 2 ^ Family.v4.width := b.toNat_lt
      refine iff_of_false (Nat.not_le.2 (Nat.lt_of_lt_of_le hb (Nat.le_add_right _ _))) ?_
      rintro (h | h)
      · cases h.1
      · cases h.1
    | v6 b =>
      constructor
      · exact fun h => .inr ⟨rfl, Nat.le_of_add_le_add_left h⟩
      · rintro (h | h)
        · cases h.1
        · exact Nat.add_le_add_left h.2 _

/-- Between addresses of a family are those of the family with the numbers between. -/
theorem IpAddress.between_iff {a first last : IpAddress} (h : first.family = last.family) :
    first ≤ a ∧ a ≤ last ↔
      a.family = first.family ∧ first.toNat ≤ a.toNat ∧ a.toNat ≤ last.toNat := by
  rw [le_iff, le_iff, ← h]
  constructor
  · rintro ⟨⟨hfirst, ha⟩ | ⟨ha, hmin⟩, ⟨ha', hlast⟩ | ⟨ha', hmax⟩⟩
    · cases hfirst.symm.trans hlast
    · cases hfirst.symm.trans (ha'.symm.trans ha)
    · cases ha'.symm.trans (ha.symm.trans hlast)
    · exact ⟨ha', hmin, hmax⟩
  · rintro ⟨ha, hmin, hmax⟩
    exact ⟨.inr ⟨ha.symm, hmin⟩, .inr ⟨ha, hmax⟩⟩

namespace Registry

variable {calls : List Call}

/-! ## Main result -/

/-- **Calls on the empty registry.**  An address belongs to the owner of the first
    call for it.  A call is refused, with this owner, exactly if it has another one,
    and then changes nothing.  Whether any call is refused is the same in every order
    of the calls, and if none is, so is the registry at the end.  Between two bounds
    that are not crossed it lists the claimed addresses in ascending order; for
    bounds of one family these are addresses of this family. -/
theorem ofCalls_spec (calls : List Call) :
    (∀ a, (ofCalls calls).2.owner? a = calls.lookup a) ∧
    (ofCalls calls).1 = calls.filterMap (refusal? fun a => calls.lookup a) ∧
    (∀ before a o after holder, calls = before ++ (a, o) :: after →
      ((ofCalls before).2.claim a o = .error holder ↔
        calls.lookup a = some holder ∧ holder ≠ o) ∧
      ((ofCalls before).2.claim a o = .error holder →
        (ofCalls (before ++ [(a, o)])).2 = (ofCalls before).2)) ∧
    (∀ calls', calls.Perm calls' →
      ((ofCalls calls').1 = [] ↔ (ofCalls calls).1 = []) ∧
      ((ofCalls calls).1 = [] → (ofCalls calls').2 = (ofCalls calls).2)) ∧
    ∀ first last, first ≤ last →
      (ofCalls calls).2.isCrossed first last = false ∧
      ((ofCalls calls).2.between first last).Pairwise (fun d e => d.1 < e.1) ∧
      (∀ a o, (a, o) ∈ (ofCalls calls).2.between first last ↔
        calls.lookup a = some o ∧ first ≤ a ∧ a ≤ last) ∧
      (first.family = last.family → ∀ a o, (a, o) ∈ (ofCalls calls).2.between first last ↔
        calls.lookup a = some o ∧ a.family = first.family ∧
          first.toNat ≤ a.toNat ∧ a.toNat ≤ last.toNat) := by
  have hmem (first last a : IpAddress) (o : String) :
      (a, o) ∈ (ofCalls calls).2.between first last ↔
        calls.lookup a = some o ∧ first ≤ a ∧ a ≤ last := by
    rw [mem_between, owner?_ofCalls]
  refine ⟨fun a => owner?_ofCalls, refusals_ofCalls, ?_, ?_, ?_⟩
  · rintro before a o after holder rfl
    refine ⟨claim_ofCalls_eq_error, fun hrefused => ?_⟩
    rw [ofCalls_concat, tryClaim_of_error hrefused]
  · exact fun calls' hp => ⟨refusals_eq_nil_of_perm hp, ofCalls_eq_of_perm hp⟩
  · intro first last hle
    refine ⟨?_, pairwise_between _ first last, hmem first last, fun hfamily a o => ?_⟩
    · refine Bool.eq_false_iff.2 fun hcrossed => ?_
      exact Nat.not_lt.2 hle (isCrossed_iff.1 hcrossed).2
    · rw [hmem, IpAddress.between_iff hfamily]

/-- The last IPv4 address. -/
def lastV4 : IpAddress :=
  .v4 (.ofNat (2 ^ Family.v4.width - 1))

/-- One call for the first IPv6 address, and two for the last IPv4 address. -/
def repeated : List Call :=
  [(.v6 (.ofNat 0), "printer"), (lastV4, "nas"), (lastV4, "nas")]

theorem repeated_disputed :
    (ofCalls repeated).2.claim lastV4 "printer" = .error "nas" ∧
      (ofCalls (repeated ++ [(lastV4, "printer")])).2 = (ofCalls repeated).2 ∧
      (ofCalls repeated.reverse).2 = (ofCalls repeated).2 ∧
      (lastV4, "nas") ∈ (ofCalls repeated).2.between (.v4 (.ofNat 0)) lastV4 := by
  obtain ⟨-, -, -, horder, hbetween⟩ := ofCalls_spec repeated
  obtain ⟨-, -, hcalls, -, -⟩ := ofCalls_spec (repeated ++ [(lastV4, "printer")])
  obtain ⟨hrefused, hkept⟩ := hcalls repeated _ _ [] "nas" rfl
  have herror := hrefused.2 ⟨by decide, by decide⟩
  refine ⟨herror, hkept herror, (horder _ (List.reverse_perm _).symm).2 (by decide), ?_⟩
  exact ((hbetween _ _ (by decide)).2.2.2 rfl _ _).2 ⟨by decide, rfl, by decide, by decide⟩

end Registry

end NetworkSite
