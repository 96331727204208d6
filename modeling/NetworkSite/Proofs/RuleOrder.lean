/-
  The order of rule tuples.

  Tuples come out in strictly ascending order of their keys, and of those with
  one key the first one stays (`RuleTuple.pairwise_normalize`,
  `RuleTuple.find?_normalize`).  So their keys only depend on which tuples went
  in.  Rules that are put in another order, or whose sources, destinations and
  services are, have the same tuples (`Rule.Reorders.tuples_perm`), and with them
  the same keys come out (`Site.rules_in_order`).
-/
import NetworkSite.Proofs.Deduplication
import Mathlib.Data.List.Forall2
import Mathlib.Data.List.Perm.Basic

namespace NetworkSite

/-! ## The order of keys -/

namespace RuleKey

instance : Std.TransOrd RuleKey :=
  inferInstanceAs (Std.TransCmp
    (compareLex (compareOn source) (compareLex (compareOn destination) (compareOn ranks))))

/-- Keys without a difference are the same. -/
theorem eq_of_compare {k l : RuleKey} (h : compare k l = .eq) : k = l := by
  have h : compareLex (compareOn source) (compareLex (compareOn destination) (compareOn ranks)) k l =
      .eq := h
  rw [compareLex_eq_eq, compareLex_eq_eq] at h
  obtain ⟨hsource, hdestination, hranks⟩ := h
  cases k
  cases l
  rw [mk.injEq]
  exact ⟨Std.LawfulEqOrd.eq_of_compare hsource, Std.LawfulEqOrd.eq_of_compare hdestination,
    Std.LawfulEqOrd.eq_of_compare hranks⟩

end RuleKey

namespace RuleTuple

variable {t u v : RuleTuple} {a b tuples : List RuleTuple}

theorem keyLe_refl (h : t.key = u.key) : keyLe t u = true := by
  rw [keyLe, h, Std.ReflOrd.compare_self]
  rfl

theorem keyLe_trans (t u v : RuleTuple) (htu : keyLe t u = true) (huv : keyLe u v = true) :
    keyLe t v = true :=
  Std.TransCmp.isLE_trans htu huv

theorem keyLe_total (t u : RuleTuple) : (keyLe t u || keyLe u t) = true := by
  rw [keyLe, keyLe, Std.OrientedOrd.eq_swap (a := u.key)]
  cases compare t.key u.key <;> rfl

theorem lt_of_keyLe (h : keyLe t u = true) (hne : t.key ≠ u.key) : compare t.key u.key = .lt := by
  unfold keyLe at h
  cases hc : compare t.key u.key with
  | lt => rfl
  | eq => exact absurd (RuleKey.eq_of_compare hc) hne
  | gt =>
    rw [hc] at h
    cases h

/-! ## Sorted tuples -/

/-- Without repeats, what is in order is in strict order. -/
theorem pairwise_dropRepeats (h : tuples.Pairwise fun t u => keyLe t u = true) :
    (dropRepeats tuples).Pairwise fun t u => compare t.key u.key = .lt := by
  fun_induction dropRepeats tuples with
  | case1 => exact List.Pairwise.nil
  | case2 => exact List.pairwise_singleton _ _
  | case3 t u rest hk ih => exact ih (h.sublist ((List.sublist_cons_self u rest).cons_cons t))
  | case4 t u rest hk ih =>
    obtain ⟨ht, hrest⟩ := List.pairwise_cons.1 h
    have htu := lt_of_keyLe (ht u List.mem_cons_self) hk
    refine List.pairwise_cons.2 ⟨fun v hv => ?_, ih hrest⟩
    rcases List.mem_cons.1 (mem_of_mem_dropRepeats hv) with rfl | hv
    · exact htu
    · exact Std.TransCmp.lt_of_lt_of_isLE htu ((List.pairwise_cons.1 hrest).1 v hv)

theorem find?_dropRepeats (k : RuleKey) :
    (dropRepeats tuples).find? (·.key == k) = tuples.find? (·.key == k) := by
  fun_induction dropRepeats tuples with
  | case1 => rfl
  | case2 => rfl
  | case3 t u rest hk ih =>
    rw [ih, List.find?_cons, List.find?_cons, List.find?_cons, ← hk]
    cases t.key == k <;> rfl
  | case4 t u rest hk ih => rw [List.find?_cons, ih, List.find?_cons (a := t)]

theorem filter_mergeSort (k : RuleKey) :
    (tuples.mergeSort keyLe).filter (·.key == k) = tuples.filter (·.key == k) := by
  have hkeys : (tuples.filter (·.key == k)).Pairwise fun t u => keyLe t u = true := by
    refine List.pairwise_of_forall_mem_list fun t ht u hu => keyLe_refl ?_
    rw [beq_iff_eq.1 (List.mem_filter.1 ht).2, beq_iff_eq.1 (List.mem_filter.1 hu).2]
  have hsub := (List.sublist_mergeSort keyLe_trans keyLe_total hkeys
    List.filter_sublist).filter (·.key == k)
  simp only [List.filter_filter, Bool.and_self] at hsub
  exact (hsub.eq_of_length ((List.mergeSort_perm tuples keyLe).filter _).length_eq.symm).symm

/-- **Tuples come out in strict order of their keys.** -/
theorem pairwise_normalize (tuples : List RuleTuple) :
    (normalize tuples).Pairwise fun t u => compare t.key u.key = .lt :=
  pairwise_dropRepeats (List.pairwise_mergeSort keyLe_trans keyLe_total tuples)

/-- **Of the tuples with one key the first one comes out.** -/
theorem find?_normalize (k : RuleKey) :
    (normalize tuples).find? (·.key == k) = tuples.find? (·.key == k) := by
  rw [normalize, find?_dropRepeats, ← List.head?_filter, filter_mergeSort, List.head?_filter]

theorem nodup_key_normalize (tuples : List RuleTuple) :
    ((normalize tuples).map (·.key)).Nodup := by
  refine List.pairwise_map.2 ((pairwise_normalize tuples).imp fun hlt he => ?_)
  rw [he, Std.ReflOrd.compare_self] at hlt
  cases hlt

theorem find?_of_mem_normalize (ht : t ∈ normalize tuples) :
    tuples.find? (·.key == t.key) = some t := by
  rw [← find?_normalize]
  exact find?_key_eq (nodup_key_normalize tuples) ht

/-- The keys that come out are those that go in. -/
theorem mem_map_key_normalize {k : RuleKey} :
    k ∈ (normalize tuples).map (·.key) ↔ k ∈ tuples.map (·.key) := by
  constructor
  · intro hk
    obtain ⟨t, ht, rfl⟩ := List.mem_map.1 hk
    exact List.mem_map_of_mem (mem_of_mem_normalize ht)
  · intro hk
    obtain ⟨t, ht, rfl⟩ := List.mem_map.1 hk
    obtain ⟨u, hu, he⟩ := exists_mem_normalize ht
    exact List.mem_map.2 ⟨u, hu, he⟩

/-- Where the same tuples go in, the same keys come out in the same order. -/
theorem map_key_normalize_of_perm (h : a.Perm b) :
    (normalize a).map (·.key) = (normalize b).map (·.key) := by
  have hsorted : ∀ tuples, ((normalize tuples).map (·.key)).Pairwise fun k l => compare k l = .lt :=
    fun tuples => List.pairwise_map.2 (pairwise_normalize tuples)
  have hperm : ((normalize a).map (·.key)).Perm ((normalize b).map (·.key)) := by
    refine (List.perm_ext_iff_of_nodup (nodup_key_normalize a) (nodup_key_normalize b)).2 fun k => ?_
    rw [mem_map_key_normalize, mem_map_key_normalize, (h.map _).mem_iff]
  refine hperm.eq_of_pairwise (fun k l _ _ hkl hlk => ?_) (hsorted a) (hsorted b)
  rw [Std.OrientedOrd.eq_swap, hlk] at hkl
  cases hkl

end RuleTuple

/-! ## Rules in another order -/

section

variable {α β ε : Type}

theorem errorsOf_perm {results results' : List (Except ε (List α))} (h : results.Perm results') :
    (errorsOf results).Perm (errorsOf results') :=
  h.filterMap _

theorem valuesOf_perm {results results' : List (Except ε (List α))} (h : results.Perm results') :
    (valuesOf results).Perm (valuesOf results') :=
  h.flatMap_right _

theorem flatMap_perm_of_forall₂ {r : α → α → Prop} {f : α → List β}
    (hf : ∀ a b, r a b → (f a).Perm (f b)) {as bs : List α} (h : List.Forall₂ r as bs) :
    (as.flatMap f).Perm (bs.flatMap f) := by
  induction h with
  | nil => exact .refl _
  | cons hab _ ih =>
    rw [List.flatMap_cons, List.flatMap_cons]
    exact (hf _ _ hab).append ih

end

/-- The rules differ only in the order of their sources, destinations and
    services. -/
structure Rule.Reorders (q r : Rule) : Prop where
  comment : q.comment = r.comment
  sources : q.sources.Perm r.sources
  destinations : q.destinations.Perm r.destinations
  allowAll : q.allowAll = r.allowAll
  allow : q.allow.Perm r.allow
  forward : q.forward.Perm r.forward

theorem Rule.Reorders.refl (r : Rule) : r.Reorders r :=
  ⟨rfl, .refl _, .refl _, rfl, .refl _, .refl _⟩

namespace Rule.Reorders

variable {s : Site} {p : AddressPlan} {q r : Rule} (h : q.Reorders r)

include h

theorem tupleAction_eq : q.tupleAction = r.tupleAction := by
  unfold tupleAction action
  rw [h.allowAll, h.allow.isEmpty_eq, h.forward.isEmpty_eq]
  cases r.allowAll <;> cases r.allow.isEmpty <;> cases r.forward.isEmpty <;> rfl

theorem portResults_perm : q.portResults.Perm r.portResults := by
  unfold portResults action
  rw [h.allowAll, h.allow.isEmpty_eq, h.forward.isEmpty_eq]
  cases r.allowAll with
  | true => exact .refl _
  | false =>
    cases r.allow.isEmpty with
    | false => exact h.allow.map _
    | true =>
      cases r.forward.isEmpty with
      | false => exact h.forward.map _
      | true => exact .refl _

theorem destinationResults_perm : (q.destinationResults s p).Perm (r.destinationResults s p) :=
  h.destinations.map _

theorem forwardFaults_perm : (q.forwardFaults s p).Perm (r.forwardFaults s p) := by
  unfold forwardFaults
  rw [h.tupleAction_eq]
  cases r.tupleAction with
  | accept => exact .refl _
  | forward => exact ((valuesOf_perm h.destinationResults_perm).filter _).map _

theorem faults_perm : (q.faults s p).Perm (r.faults s p) :=
  (((errorsOf_perm (h.sources.map _)).append (errorsOf_perm h.destinationResults_perm)).append
    (errorsOf_perm h.portResults_perm)).append h.forwardFaults_perm

theorem tuple_eq : q.tuple = r.tuple := by
  funext source destination port
  rw [tuple, tuple, h.tupleAction_eq, h.comment]

/-- **Both stand for the same tuples.** -/
theorem tuples_perm : (q.tuples s p).Perm (r.tuples s p) := by
  have hports := valuesOf_perm h.portResults_perm
  have hdestinations := valuesOf_perm (h.destinationResults_perm (s := s) (p := p))
  unfold tuples
  refine (valuesOf_perm (h.sources.map _)).flatMap fun source _ =>
    hdestinations.flatMap fun destination _ => ?_
  rw [h.tuple_eq]
  split
  · exact .refl _
  · exact hports.map _

end Rule.Reorders

namespace Site

variable {s s' : Site} {p : AddressPlan}

theorem ruleErrors_eq_nil_iff :
    s.ruleErrors p = [] ↔ (s.policy.rules ++ s.impliedRules).flatMap (·.faults s p) = [] := by
  rw [← map_snd_labelledRules, List.flatMap_map, ruleErrors, List.flatMap_eq_nil_iff,
    List.flatMap_eq_nil_iff]
  simp only [List.map_eq_nil_iff]

theorem exists_expandRules_iff :
    (∃ tuples, s.expandRules p = .ok tuples) ↔ s.ruleErrors p = [] := by
  simp only [expandRules_eq_ok_iff, exists_and_left, exists_eq, and_true]

/-- The sites differ only in the order of their rules and of what these list. -/
def Reorders (s' s : Site) : Prop :=
  ∃ rules declared, List.Forall₂ Rule.Reorders rules declared ∧ declared.Perm s.policy.rules ∧
    s' = { s with policy := { s.policy with rules } }

namespace Reorders

variable (h : s'.Reorders s)

include h

theorem addressPlan_eq : s'.addressPlan = s.addressPlan := by
  obtain ⟨rules, declared, -, -, rfl⟩ := h
  rfl

theorem flatMap_perm {β : Type} {f : Site → Rule → List β} (hsite : f s' = f s)
    (hf : ∀ q r, q.Reorders r → (f s q).Perm (f s r)) :
    ((s'.policy.rules ++ s'.impliedRules).flatMap (f s')).Perm
      ((s.policy.rules ++ s.impliedRules).flatMap (f s)) := by
  obtain ⟨rules, declared, hrules, hperm, rfl⟩ := h
  rw [hsite, List.flatMap_append, List.flatMap_append]
  exact ((flatMap_perm_of_forall₂ hf hrules).trans (hperm.flatMap_right _)).append (.refl _)

theorem ruleTuples_perm : (s'.ruleTuples p).Perm (s.ruleTuples p) := by
  rw [ruleTuples_eq, ruleTuples_eq]
  refine h.flatMap_perm (f := fun s r => r.tuples s p) ?_ fun q r hqr => hqr.tuples_perm
  obtain ⟨rules, declared, -, -, rfl⟩ := h
  rfl

theorem ruleErrors_eq_nil_iff : s'.ruleErrors p = [] ↔ s.ruleErrors p = [] := by
  have hfaults := h.flatMap_perm (f := fun s r => r.faults s p)
    (by obtain ⟨rules, declared, -, -, rfl⟩ := h; rfl) fun q r hqr => hqr.faults_perm
  rw [Site.ruleErrors_eq_nil_iff, Site.ruleErrors_eq_nil_iff, ← List.length_eq_zero_iff,
    hfaults.length_eq, List.length_eq_zero_iff]

end Reorders

/-- **The tuples of a site stand in strict order of their keys**, which are those
    of all tuples of its rules; of these the first one with each key is there.
    Neither the order of the rules nor that of what they list makes a difference
    to whether there are tuples, and to their keys. -/
theorem rules_in_order (hp : s.addressPlan = .ok p) :
    (∀ tuples, s.expandRules p = .ok tuples →
      tuples.Pairwise (fun t u => compare t.key u.key = .lt) ∧
      (∀ k, k ∈ tuples.map (·.key) ↔ k ∈ (s.ruleTuples p).map (·.key)) ∧
      ∀ t ∈ tuples, (s.ruleTuples p).find? (·.key == t.key) = some t) ∧
    ∀ s' : Site, s'.Reorders s → s'.addressPlan = .ok p ∧
      ((∃ tuples, s'.expandRules p = .ok tuples) ↔ ∃ tuples, s.expandRules p = .ok tuples) ∧
      ∀ tuples tuples', s.expandRules p = .ok tuples → s'.expandRules p = .ok tuples' →
        tuples'.map (·.key) = tuples.map (·.key) := by
  constructor
  · intro tuples hr
    obtain ⟨-, rfl⟩ := expandRules_eq_ok_iff.1 hr
    exact ⟨RuleTuple.pairwise_normalize _, fun k => RuleTuple.mem_map_key_normalize,
      fun t ht => RuleTuple.find?_of_mem_normalize ht⟩
  · intro s' h
    refine ⟨h.addressPlan_eq.trans hp, ?_, fun tuples tuples' hr hr' => ?_⟩
    · rw [exists_expandRules_iff, exists_expandRules_iff, h.ruleErrors_eq_nil_iff]
    · obtain ⟨-, rfl⟩ := expandRules_eq_ok_iff.1 hr
      obtain ⟨-, rfl⟩ := expandRules_eq_ok_iff.1 hr'
      exact RuleTuple.map_key_normalize_of_perm h.ruleTuples_perm

/-- The site with its rules the other way round. -/
def backupsReversed : Site :=
  { backups "lab" with policy := { rules := (backups "lab").policy.rules.reverse } }

/-- Both have tuples, with the same keys in strict order. -/
theorem backups_in_order : ∃ tuples tuples',
    (backups "lab").expandRules (backupsPlan "lab") = .ok tuples ∧
    backupsReversed.expandRules (backupsPlan "lab") = .ok tuples' ∧
    tuples'.map (·.key) = tuples.map (·.key) ∧
    tuples.Pairwise fun t u => compare t.key u.key = .lt := by
  have hp : (backups "lab").addressPlan = .ok (backupsPlan "lab") :=
    addressPlan_eq_ok_iff.2 ⟨by decide, by decide, rfl⟩
  have hreversed : backupsReversed.Reorders (backups "lab") :=
    ⟨_, _, List.forall₂_same.2 fun r _ => .refl r, List.reverse_perm _, rfl⟩
  have hr := expandRules_eq_ok_iff.2
    ⟨(by decide : (backups "lab").ruleErrors (backupsPlan "lab") = []), rfl⟩
  obtain ⟨hsorted, hkeys⟩ := rules_in_order hp
  obtain ⟨-, hok, hsame⟩ := hkeys _ hreversed
  obtain ⟨tuples', hr'⟩ := hok.2 ⟨_, hr⟩
  exact ⟨_, tuples', hr, hr', hsame _ _ hr hr', (hsorted _ hr).1⟩

end Site

end NetworkSite
