/-
  The indices of shares.

  Each vlan that takes part in prefix delegation gets the index that it declares,
  or else the least one that is neither declared anywhere nor given to a vlan in
  front (`index_of_assignIndices`); so no index is given twice
  (`pairwise_assignIndices`).  The search for it passes over declared indices only,
  and over no more than there are (`exists_firstFree`).  What this says of the
  assignment as a whole is `Site.assignDelegated_indices`.
-/
import NetworkSite.Proofs.Shares
import Mathlib.Order.Interval.Finset.Nat

namespace NetworkSite

variable {taken : List Nat} {next i k m : Nat} {users : List Vlan} {v w : Vlan} {index : Option Nat}

/-! ## The search for an index -/

/-- The search passes over taken numbers only, and ends after at most all of them. -/
theorem exists_firstFree (taken : List Nat) (next : Nat) :
    ∃ k ≤ taken.length, firstFree taken next = next + k ∧ next + k ∉ taken ∧
      ∀ j < k, next + j ∈ taken := by
  have hfree : ∃ k ∈ List.range (taken.length + 1), next + k ∉ taken := by
    by_contra hnone
    push Not at hnone
    -- More numbers than `taken` has items would be among its items.
    have hsub : (List.range (taken.length + 1)).map (next + ·) ⊆ taken := by
      intro m hm
      obtain ⟨k, hk, rfl⟩ := List.mem_map.1 hm
      exact hnone k hk
    have hnodup : ((List.range (taken.length + 1)).map (next + ·)).Nodup :=
      List.nodup_range.map fun _ _ h => Nat.add_left_cancel h
    have hlength := (hnodup.subperm hsub).length_le
    rw [List.length_map, List.length_range] at hlength
    omega
  obtain ⟨k, hk⟩ : ∃ k, (List.range (taken.length + 1)).find? (fun k => !taken.contains (next + k)) =
      some k := by
    obtain ⟨k, hk, hfree⟩ := hfree
    rw [← Option.isSome_iff_exists, List.find?_isSome]
    exact ⟨k, hk, by simpa using hfree⟩
  have hspec := List.find?_range_eq_some.1 hk
  simp only [List.mem_range, Bool.not_eq_true', List.contains_iff_mem, ← Bool.not_eq_true] at hspec
  refine ⟨k, Nat.le_of_lt_succ hspec.2.1, ?_, hspec.1, fun j hj => by simpa using hspec.2.2 j hj⟩
  rw [firstFree, List.find?_map, Function.comp_def, hk]
  rfl

theorem firstFree_not_mem : firstFree taken next ∉ taken := by
  obtain ⟨k, -, he, hfree, -⟩ := exists_firstFree taken next
  rwa [he]

theorem le_firstFree : next ≤ firstFree taken next := by
  obtain ⟨k, -, he, -⟩ := exists_firstFree taken next
  omega

theorem firstFree_le (hm : next ≤ m) (hfree : m ∉ taken) : firstFree taken next ≤ m := by
  obtain ⟨k, -, he, -, hpassed⟩ := exists_firstFree taken next
  by_contra hlt
  refine hfree ?_
  have hmem := hpassed (m - next) (by omega)
  rwa [Nat.add_sub_cancel' hm] at hmem

/-! ## Vlans one after the other -/

/-- The numbers that a vlan may get: from `next` on, not taken, and not given to a
    vlan in front that declares none. -/
def freeFor (taken : List Nat) (next : Nat) (before : List (Vlan × Option Nat)) : Set Nat :=
  {m | next ≤ m ∧ m ∉ taken ∧ ∀ x ∈ before, x.1.delegationIndex = none → x.2 ≠ some m}

theorem mem_freeFor {before : List (Vlan × Option Nat)} :
    m ∈ freeFor taken next before ↔ next ≤ m ∧ m ∉ taken ∧
      ∀ x ∈ before, x.1.delegationIndex = none → x.2 ≠ some m :=
  Iff.rfl

theorem isLeast_freeFor_nil : IsLeast (freeFor taken next []) (firstFree taken next) := by
  refine ⟨mem_freeFor.2 ⟨le_firstFree, firstFree_not_mem, by simp⟩, fun m hm => ?_⟩
  obtain ⟨hle, hfree, -⟩ := mem_freeFor.1 hm
  exact firstFree_le hle hfree

/-- A declared index is taken for all vlans alike. -/
theorem freeFor_cons_declared {before : List (Vlan × Option Nat)} (hw : w.delegationIndex = some k) :
    freeFor taken next ((w, index) :: before) = freeFor taken next before := by
  ext m
  simp [mem_freeFor, hw]

/-- After an index has been given away the search goes on behind it. -/
theorem freeFor_cons_given {before : List (Vlan × Option Nat)} (hw : w.delegationIndex = none) :
    freeFor taken next ((w, some (firstFree taken next)) :: before) =
      freeFor taken (firstFree taken next + 1) before := by
  ext m
  simp only [mem_freeFor, List.forall_mem_cons, hw, forall_true_left, ne_eq,
    Option.some.injEq]
  have hle : next ≤ firstFree taken next := le_firstFree
  constructor
  · rintro ⟨hm, hfree, hne, hbefore⟩
    have := firstFree_le hm hfree
    exact ⟨by omega, hfree, hbefore⟩
  · rintro ⟨hm, hfree, hbefore⟩
    exact ⟨by omega, hfree, by omega, hbefore⟩

/-- Where no index was left for a vlan, none has been given away. -/
theorem freeFor_cons_none {before : List (Vlan × Option Nat)} :
    freeFor taken next ((w, none) :: before) = freeFor taken (firstFree taken next) before := by
  ext m
  simp only [mem_freeFor, List.forall_mem_cons, ne_eq, reduceCtorEq,
    not_false_eq_true, implies_true, true_and]
  have hle : next ≤ firstFree taken next := le_firstFree
  constructor
  · rintro ⟨hm, hfree, hbefore⟩
    exact ⟨firstFree_le hm hfree, hfree, hbefore⟩
  · rintro ⟨hm, hfree, hbefore⟩
    exact ⟨Nat.le_trans hle hm, hfree, hbefore⟩

/-- What a vlan gets: the index that it declares, or the least free one unless that
    is too large. -/
def Gets (taken : List Nat) (next : Nat) (before : List (Vlan × Option Nat)) (v : Vlan)
    (index : Option Nat) : Prop :=
  match v.delegationIndex with
  | some k => index = some k
  | none => ∃ i, IsLeast (freeFor taken next before) i ∧
      index = if i ≤ maxDelegationIndex then some i else none

theorem gets_declared {before : List (Vlan × Option Nat)} (hv : v.delegationIndex = some k) :
    Gets taken next before v index ↔ index = some k := by
  simp only [Gets, hv]

theorem gets_free {before : List (Vlan × Option Nat)} (hv : v.delegationIndex = none) :
    Gets taken next before v index ↔ ∃ i, IsLeast (freeFor taken next before) i ∧
      index = if i ≤ maxDelegationIndex then some i else none := by
  simp only [Gets, hv]

theorem Gets.of_freeFor_eq {before before' : List (Vlan × Option Nat)} {next' : Nat}
    (h : Gets taken next before v index)
    (he : freeFor taken next' before' = freeFor taken next before) :
    Gets taken next' before' v index := by
  unfold Gets at h ⊢
  rwa [he]

/-- **Each vlan gets the index that it declares, or the least free one.** -/
theorem index_of_assignIndices {before after : List (Vlan × Option Nat)}
    (h : assignIndices taken next users = before ++ (v, index) :: after) :
    Gets taken next before v index := by
  induction users generalizing next before with
  | nil => simp [assignIndices] at h
  | cons w rest ih =>
    cases hw : w.delegationIndex with
    | some k =>
      simp only [assignIndices, hw] at h
      cases before with
      | nil =>
        cases h
        exact (gets_declared hw).2 rfl
      | cons x before =>
        rw [List.cons_append, List.cons.injEq] at h
        obtain ⟨rfl, h⟩ := h
        exact (ih h).of_freeFor_eq (freeFor_cons_declared hw)
    | none =>
      simp only [assignIndices, hw] at h
      split at h
      next hmax =>
        cases before with
        | nil =>
          cases h
          exact (gets_free hw).2 ⟨_, isLeast_freeFor_nil, (if_pos hmax).symm⟩
        | cons x before =>
          rw [List.cons_append, List.cons.injEq] at h
          obtain ⟨rfl, h⟩ := h
          exact (ih h).of_freeFor_eq (freeFor_cons_given hw)
      next hmax =>
        cases before with
        | nil =>
          cases h
          exact (gets_free hw).2 ⟨_, isLeast_freeFor_nil, (if_neg hmax).symm⟩
        | cons x before =>
          rw [List.cons_append, List.cons.injEq] at h
          obtain ⟨rfl, h⟩ := h
          exact (ih h).of_freeFor_eq freeFor_cons_none

theorem map_fst_assignIndices (taken : List Nat) (next : Nat) (users : List Vlan) :
    (assignIndices taken next users).map (·.1) = users := by
  induction users generalizing next with
  | nil => rfl
  | cons v rest ih =>
    unfold assignIndices
    split
    · rw [List.map_cons, ih]
    · dsimp only
      split <;> rw [List.map_cons, ih]

/-! ## Distinct indices -/

/-- An index that is given away is not taken, nor given to a vlan in front that
    declares none. -/
theorem mem_freeFor_of_gets {before : List (Vlan × Option Nat)} (hv : v.delegationIndex = none)
    (h : Gets taken next before v (some i)) :
    IsLeast (freeFor taken next before) i ∧ i ≤ maxDelegationIndex := by
  obtain ⟨j, hj, he⟩ := (gets_free hv).1 h
  split at he
  next hmax =>
    cases he
    exact ⟨hj, hmax⟩
  next => cases he

theorem pairwise_assignIndices (taken : List Nat) (next : Nat) (users : List Vlan) :
    (assignIndices taken next users).Pairwise fun x y => y.1.delegationIndex = none →
      ∀ i, y.2 = some i → i ∉ taken ∧ (x.1.delegationIndex = none → x.2 ≠ some i) := by
  refine pairwise_of_withEarlier fun y hy x hx hfree i hi => ?_
  obtain ⟨before, v, index⟩ := y
  obtain ⟨after, hsplit⟩ := mem_withEarlier.1 hy
  subst hi
  obtain ⟨⟨hmem, -⟩, -⟩ := mem_freeFor_of_gets hfree (index_of_assignIndices hsplit)
  exact ⟨hmem.2.1, hmem.2.2 x hx⟩

/-! ## Running out of indices -/

/-- The indices that are given to vlans which declare none. -/
def givenIndices (l : List (Vlan × Option Nat)) : List Nat :=
  (l.filter (·.1.delegationIndex.isNone)).filterMap (·.2)

theorem mem_givenIndices {l : List (Vlan × Option Nat)} :
    i ∈ givenIndices l ↔ ∃ x ∈ l, x.1.delegationIndex = none ∧ x.2 = some i := by
  simp [givenIndices, and_assoc]

theorem nodup_givenIndices (taken : List Nat) (next : Nat) (users : List Vlan) :
    (givenIndices (assignIndices taken next users)).Nodup := by
  refine List.pairwise_filterMap.2 (List.pairwise_filter.2 ?_)
  refine (pairwise_assignIndices taken next users).imp fun {x y} h hx hy i hi j hj hij => ?_
  rw [Option.isNone_iff_eq_none] at hx hy
  exact (h hy j hj).2 hx (hij ▸ hi)

theorem bounds_of_mem_givenIndices (h : i ∈ givenIndices (assignIndices taken next users)) :
    (next ≤ i ∧ i ≤ maxDelegationIndex) ∧ i ∉ taken := by
  obtain ⟨⟨v, index⟩, hx, hfree, rfl⟩ := mem_givenIndices.1 h
  obtain ⟨before, after, hsplit⟩ := List.append_of_mem hx
  obtain ⟨⟨hmem, -⟩, hmax⟩ := mem_freeFor_of_gets hfree (index_of_assignIndices hsplit)
  obtain ⟨hle, htaken, -⟩ := mem_freeFor.1 hmem
  exact ⟨⟨hle, hmax⟩, htaken⟩

theorem length_filter_assignIndices (taken : List Nat) (next : Nat) (users : List Vlan) :
    ((assignIndices taken next users).filter (·.1.delegationIndex.isNone)).length =
      (users.filter (·.delegationIndex.isNone)).length := by
  conv_rhs => rw [← map_fst_assignIndices taken next users, List.filter_map, List.length_map]
  rfl

/-- **The search runs past the greatest index** exactly if there are fewer free ones
    than vlans that declare none. -/
theorem exists_none_iff :
    (∃ v, (v, none) ∈ assignIndices taken next users) ↔
      (Finset.Icc next maxDelegationIndex \ taken.toFinset).card <
        (users.filter (·.delegationIndex.isNone)).length := by
  rw [← length_filter_assignIndices taken next users]
  constructor
  · rintro ⟨v, hv⟩
    obtain ⟨before, after, hsplit⟩ := List.append_of_mem hv
    have hgets := index_of_assignIndices hsplit
    have hfree : v.delegationIndex = none := by
      cases hd : v.delegationIndex with
      | none => rfl
      | some k => cases (gets_declared hd).1 hgets
    obtain ⟨i, hi, hnone⟩ := (gets_free hfree).1 hgets
    split at hnone
    next => cases hnone
    next hmax =>
      -- All that is free up to the greatest index has been given to vlans in front.
      have hsub : Finset.Icc next maxDelegationIndex \ taken.toFinset ⊆
          (givenIndices before).toFinset := by
        intro m hm
        rw [Finset.mem_sdiff, Finset.mem_Icc, List.mem_toFinset] at hm
        rw [List.mem_toFinset, mem_givenIndices]
        by_contra hnot
        have hle := hi.2 (mem_freeFor.2 ⟨hm.1.1, hm.2, fun x hx hxfree hxm =>
          hnot ⟨x, hx, hxfree, hxm⟩⟩)
        exact hmax (Nat.le_trans hle hm.1.2)
      calc (Finset.Icc next maxDelegationIndex \ taken.toFinset).card
          ≤ (givenIndices before).toFinset.card := Finset.card_le_card hsub
        _ ≤ (givenIndices before).length := List.toFinset_card_le _
        _ ≤ (before.filter (·.1.delegationIndex.isNone)).length := List.length_filterMap_le _ _
        _ < ((assignIndices taken next users).filter (·.1.delegationIndex.isNone)).length := by
          rw [hsplit, List.filter_append, List.filter_cons_of_pos (by simp [hfree]),
            List.length_append, List.length_cons]
          omega
  · intro hfew
    by_contra hnone
    -- With an index for each vlan there are as many free ones as vlans.
    have hlength : (givenIndices (assignIndices taken next users)).length =
        ((assignIndices taken next users).filter (·.1.delegationIndex.isNone)).length := by
      rw [givenIndices, List.length_filterMap_eq_countP, List.countP_eq_length]
      rintro ⟨v, index⟩ hx
      rw [Option.isSome_iff_ne_none]
      rintro rfl
      exact hnone ⟨v, (List.mem_filter.1 hx).1⟩
    have hsub : (givenIndices (assignIndices taken next users)).toFinset ⊆
        Finset.Icc next maxDelegationIndex \ taken.toFinset := by
      intro i hi
      rw [List.mem_toFinset] at hi
      rw [Finset.mem_sdiff, Finset.mem_Icc, List.mem_toFinset]
      exact bounds_of_mem_givenIndices hi
    have hcard := Finset.card_le_card hsub
    rw [List.toFinset_card_of_nodup (nodup_givenIndices taken next users), hlength] at hcard
    omega

/-! ## The assignment -/

theorem PrefixRequest.index_of_share {r : PrefixRequest} {share : DelegatedSubnet}
    (h : r.share v k = .ok share) : share.index = k := by
  unfold PrefixRequest.share at h
  split at h
  next => cases h; rfl
  next => cases h
  next => cases h

theorem Site.index_of_shareAt {r : PrefixRequest} {share : DelegatedSubnet}
    (h : shareAt r v index = .ok share) : index = some share.index := by
  cases index with
  | none => cases h
  | some k => rw [PrefixRequest.index_of_share h]

/-- The index of a vlan's share. -/
def Delegation.index? (d : Delegation) (v : Vlan) : Option Nat :=
  (d.get? v.name).map (·.index)

namespace Site

variable {s : Site} {r : PrefixRequest} {d : Delegation} {share : DelegatedSubnet} {name : String}

section

variable {α : Type} {step : Delegation → α → Delegation} {items : List α} {a : α}
  (key : α → String) (value : α → Option DelegatedSubnet)
  (hstep : ∀ d a name,
    (step d a).get? name = if key a = name then (value a).or (d.get? name) else d.get? name)
include hstep

theorem get?_foldl_of_not_mem (h : name ∉ items.map key) :
    (items.foldl step d).get? name = d.get? name := by
  induction items generalizing d with
  | nil => rfl
  | cons b rest ih =>
    rw [List.map_cons, List.mem_cons, not_or] at h
    rw [List.foldl_cons, ih h.2, hstep, if_neg (Ne.symm h.1)]

/-- Where no two items have the same key, what each item puts is found. -/
theorem get?_foldl_of_mem (hkeys : (items.map key).Nodup) (ha : a ∈ items)
    (hv : value a = some share) : (items.foldl step d).get? (key a) = some share := by
  induction items generalizing d with
  | nil => cases ha
  | cons b rest ih =>
    rw [List.map_cons, List.nodup_cons] at hkeys
    rw [List.foldl_cons]
    rcases List.mem_cons.1 ha with rfl | ha
    · rw [get?_foldl_of_not_mem key value hstep hkeys.1, hstep, if_pos rfl, hv]
      rfl
    · exact ih hkeys.2 ha

end

theorem map_fst_shares : (s.shares r).map (·.1) = s.delegationUsers := by
  rw [shares, List.map_map]
  exact map_fst_assignIndices _ _ _

theorem get?_shareStep (d : Delegation) (x : Vlan × Except AddressingError DelegatedSubnet)
    (name : String) :
    (match x with
      | (v, share) =>
        match share with
        | .ok share => d.insert v.name share
        | .error _ => d : Delegation).get? name =
      if x.1.name = name then x.2.toOption.or (d.get? name) else d.get? name := by
  obtain ⟨w, share⟩ := x
  cases share with
  | error e => simp [Except.toOption]
  | ok share =>
    simp only [SortedMap.get?_insert, Std.LawfulEqOrd.compare_eq_iff_eq, Except.toOption,
      Option.some_or]

theorem map_name_shares : (s.shares r).map (·.1.name) = s.delegationUsers.map (·.name) := by
  rw [← map_fst_shares (r := r), List.map_map]
  rfl

theorem get?_delegation (hnames : (s.delegationUsers.map (·.name)).Nodup)
    (h : (v, .ok share) ∈ s.shares r) : (s.delegation r).get? v.name = some share := by
  unfold delegation
  have hvalue : (Except.ok share : Except AddressingError DelegatedSubnet).toOption = some share := rfl
  have hput := get?_foldl_of_mem (d := SortedMap.empty)
    (fun x : Vlan × Except AddressingError DelegatedSubnet => x.1.name)
    (·.2.toOption) get?_shareStep (map_name_shares ▸ hnames) h hvalue
  exact hput

theorem get?_delegation_of_not_mem (h : name ∉ s.delegationUsers.map (·.name)) :
    (s.delegation r).get? name = none := by
  unfold delegation
  exact get?_foldl_of_not_mem (fun x : Vlan × Except AddressingError DelegatedSubnet => x.1.name)
    (·.2.toOption) get?_shareStep (map_name_shares ▸ h)

theorem nodup_name_delegationUsers (hnames : (s.vlans.map (·.2.name)).Nodup) :
    (s.delegationUsers.map (·.name)).Nodup := by
  have hmap : s.vlans.map (·.2.name) = (s.vlans.map (·.2)).map (·.name) := by simp
  rw [hmap] at hnames
  exact hnames.sublist (List.filter_sublist.map _)

/-- Without errors each vlan has a share at its index. -/
theorem exists_share (hnames : (s.vlans.map (·.2.name)).Nodup) (he : s.shareErrors r = [])
    {x : Vlan × Option Nat}
    (hx : x ∈ assignIndices s.declaredIndices s.firstDelegationIndex s.delegationUsers) :
    ∃ i, x.2 = some i ∧ (s.delegation r).index? x.1 = some i := by
  obtain ⟨v, index⟩ := x
  have hshare : (v, shareAt r v index) ∈ s.shares r := List.mem_map.2 ⟨_, hx, rfl⟩
  cases hat : shareAt r v index with
  | error e =>
    have hnone := (List.append_eq_nil_iff.1 he).2
    rw [List.filterMap_eq_nil_iff] at hnone
    have hnone := hnone _ hshare
    rw [hat] at hnone
    cases hnone
  | ok share =>
    rw [hat] at hshare
    refine ⟨share.index, index_of_shareAt hat, ?_⟩
    rw [Delegation.index?, get?_delegation (nodup_name_delegationUsers hnames) hshare]
    rfl

theorem nodup_declaredIndices (he : s.sharedIndexErrors = []) : s.declaredIndices.Nodup := by
  refine List.pairwise_filterMap.2 (pairwise_of_withEarlier ?_)
  rintro ⟨before, v⟩ hx w hw i hi j hj rfl
  rw [sharedIndexErrors, List.filterMap_eq_nil_iff] at he
  have hnone := he _ hx
  have hmem : w ∈ before.filter (·.delegationIndex == some i) :=
    List.mem_filter.2 ⟨hw, by simpa using hi⟩
  obtain ⟨other, hother⟩ := Option.isSome_iff_exists.1
    (List.getLast?_isSome.2 (List.ne_nil_of_mem hmem))
  have hv : v.delegationIndex = some i := hj
  simp only [hv, Option.bind_eq_bind, Option.bind_some, hother] at hnone
  cases hnone

theorem shareErrors_of_assignDelegated (h : s.assignDelegated (some r) = .ok d) :
    s.shareErrors r = [] ∧ d = s.delegation r := by
  unfold assignDelegated at h
  split at h
  next hu =>
    cases h
    rw [List.isEmpty_iff] at hu
    simp [shareErrors, sharedIndexErrors, delegation, shares, hu, withEarlier, withEarlierFrom,
      assignIndices]
  next =>
    dsimp only at h
    split at h
    next he =>
      split at h
      next => cases h; exact ⟨he, rfl⟩
      next => cases h
    next => cases h

/-- With a share for each vlan the assignment is a table of what they got. -/
theorem assignIndices_eq_map (hnames : (s.vlans.map (·.2.name)).Nodup)
    (h : s.assignDelegated (some r) = .ok d) :
    assignIndices s.declaredIndices s.firstDelegationIndex s.delegationUsers =
      s.delegationUsers.map fun v => (v, d.index? v) := by
  obtain ⟨he, rfl⟩ := shareErrors_of_assignDelegated h
  conv_rhs =>
    rw [← map_fst_assignIndices s.declaredIndices s.firstDelegationIndex s.delegationUsers,
      List.map_map]
  refine (List.map_id _).symm.trans (List.map_congr_left fun x hx => ?_)
  obtain ⟨i, hi, hd⟩ := exists_share hnames he hx
  exact Prod.ext rfl (hi.trans hd.symm)

theorem index?_isSome (hnames : (s.vlans.map (·.2.name)).Nodup)
    (h : s.assignDelegated (some r) = .ok d) (hv : v ∈ s.delegationUsers) :
    ∃ i, d.index? v = some i := by
  have hmem : (v, d.index? v) ∈
      assignIndices s.declaredIndices s.firstDelegationIndex s.delegationUsers := by
    rw [assignIndices_eq_map hnames h]
    exact List.mem_map_of_mem hv
  obtain ⟨he, rfl⟩ := shareErrors_of_assignDelegated h
  obtain ⟨i, -, hi⟩ := exists_share hnames he hmem
  exact ⟨i, hi⟩

/-- There is a share for each vlan that takes part, and for no other name. -/
theorem contains_assignDelegated (hnames : (s.vlans.map (·.2.name)).Nodup)
    (h : s.assignDelegated (some r) = .ok d) :
    d.contains name = true ↔ ∃ v ∈ s.delegationUsers, v.name = name := by
  constructor
  · intro hc
    by_contra hnone
    obtain ⟨-, rfl⟩ := shareErrors_of_assignDelegated h
    have hget : (s.delegation r).get? name = none :=
      get?_delegation_of_not_mem fun hmem => hnone (List.mem_map.1 hmem)
    rw [SortedMap.contains, hget] at hc
    cases hc
  · rintro ⟨v, hv, rfl⟩
    obtain ⟨i, hi⟩ := index?_isSome hnames h hv
    rw [Delegation.index?, Option.map_eq_some_iff] at hi
    obtain ⟨share, hshare, -⟩ := hi
    rw [SortedMap.contains, hshare]
    rfl

/-- What a vlan gets goes by what the vlans in front of it got. -/
theorem gets_index? (hnames : (s.vlans.map (·.2.name)).Nodup)
    (h : s.assignDelegated (some r) = .ok d) {before after : List Vlan}
    (hsplit : s.delegationUsers = before ++ v :: after) :
    Gets s.declaredIndices s.firstDelegationIndex (before.map fun w => (w, d.index? w)) v
      (d.index? v) := by
  have hgiven : assignIndices s.declaredIndices s.firstDelegationIndex s.delegationUsers =
      (before.map fun w => (w, d.index? w)) ++
        (v, d.index? v) :: after.map fun w => (w, d.index? w) := by
    rw [assignIndices_eq_map hnames h, hsplit, List.map_append, List.map_cons]
  exact index_of_assignIndices hgiven

theorem index?_of_declared (hnames : (s.vlans.map (·.2.name)).Nodup)
    (h : s.assignDelegated (some r) = .ok d) (hv : v ∈ s.delegationUsers)
    (hk : v.delegationIndex = some k) : d.index? v = some k := by
  obtain ⟨before, after, hsplit⟩ := List.append_of_mem hv
  exact (gets_declared hk).1 (gets_index? hnames h hsplit)

theorem index?_of_free (hnames : (s.vlans.map (·.2.name)).Nodup)
    (h : s.assignDelegated (some r) = .ok d) {before after : List Vlan}
    (hsplit : s.delegationUsers = before ++ v :: after) (hfree : v.delegationIndex = none) :
    ∃ i ≤ maxDelegationIndex, d.index? v = some i ∧
      IsLeast {m | s.firstDelegationIndex ≤ m ∧ m ∉ s.declaredIndices ∧
        ∀ w ∈ before, w.delegationIndex = none → d.index? w ≠ some m} i := by
  obtain ⟨i, hi⟩ := index?_isSome hnames h (v := v) (by simp [hsplit])
  have hgets := gets_index? hnames h hsplit
  rw [hi] at hgets
  obtain ⟨hleast, hmax⟩ := mem_freeFor_of_gets hfree hgets
  refine ⟨i, hmax, hi, ?_⟩
  simpa only [freeFor, List.forall_mem_map] using hleast

/-- **No two vlans get the same index.** -/
theorem nodup_index? (hnames : (s.vlans.map (·.2.name)).Nodup)
    (h : s.assignDelegated (some r) = .ok d) : (s.delegationUsers.map d.index?).Nodup := by
  obtain ⟨he, -⟩ := shareErrors_of_assignDelegated h
  have hdeclared := nodup_declaredIndices (List.append_eq_nil_iff.1 he).1
  have hgiven := pairwise_assignIndices s.declaredIndices s.firstDelegationIndex s.delegationUsers
  rw [assignIndices_eq_map hnames h, List.pairwise_map] at hgiven
  rw [declaredIndices, List.Nodup, List.pairwise_filterMap] at hdeclared
  -- A declared index is not given to a vlan that declares none.
  have hmixed : ∀ {v w k}, v ∈ s.delegationUsers → w ∈ s.delegationUsers →
      v.delegationIndex = some k → w.delegationIndex = none → d.index? v ≠ d.index? w := by
    intro v w k hv hw hk hfree heq
    obtain ⟨before, after, hsplit⟩ := List.append_of_mem hw
    obtain ⟨i, -, hi, ⟨-, hnot, -⟩, -⟩ := index?_of_free hnames h hsplit hfree
    rw [index?_of_declared hnames h hv hk, hi] at heq
    cases heq
    exact hnot (List.mem_filterMap.2 ⟨v, hv, hk⟩)
  refine List.pairwise_map.2 ((hgiven.and hdeclared).imp_of_mem fun {v w} hv hw hvw heq => ?_)
  cases hvk : v.delegationIndex with
  | some k =>
    cases hwk : w.delegationIndex with
    | some l =>
      rw [index?_of_declared hnames h hv hvk, index?_of_declared hnames h hw hwk] at heq
      exact hvw.2 k hvk l hwk (Option.some.inj heq)
    | none => exact hmixed hv hw hvk hwk heq
  | none =>
    cases hwk : w.delegationIndex with
    | some l => exact hmixed hw hv hwk hvk heq.symm
    | none =>
      obtain ⟨i, hi⟩ := index?_isSome hnames h hw
      exact (hvw.1 hwk i hi).2 hvk (heq.trans hi)

/-! ## Errors -/

theorem assignDelegated_of_declared_twice (h : ¬s.declaredIndices.Nodup) :
    ∃ errors, s.assignDelegated (some r) = .error errors := by
  cases hd : s.assignDelegated (some r) with
  | error errors => exact ⟨errors, rfl⟩
  | ok d =>
    obtain ⟨he, -⟩ := shareErrors_of_assignDelegated hd
    exact absurd (nodup_declaredIndices (List.append_eq_nil_iff.1 he).1) h

theorem assignDelegated_of_mem_none (hnames : (s.vlans.map (·.2.name)).Nodup)
    (h : (v, none) ∈ assignIndices s.declaredIndices s.firstDelegationIndex s.delegationUsers) :
    ∃ errors, s.assignDelegated (some r) = .error errors := by
  cases hd : s.assignDelegated (some r) with
  | error errors => exact ⟨errors, rfl⟩
  | ok d =>
    obtain ⟨he, -⟩ := shareErrors_of_assignDelegated hd
    obtain ⟨i, hi, -⟩ := exists_share hnames he h
    cases hi

/-! ## Main result -/

/-- **The indices of shares.**  The search for an index passes over declared ones
    only, and ends.  If it succeeds, exactly the vlans that take part have shares;
    declared indices are kept, each other vlan gets the least index from the first
    one on that is neither declared nor given to a vlan in front of it, and all
    indices differ.  It is an error if an index is declared twice, and if there are
    fewer free indices of 64 bits than vlans that need one, which is when the search
    runs past the greatest. -/
theorem assignDelegated_indices (hnames : (s.vlans.map (·.2.name)).Nodup) (r : PrefixRequest) :
    (∀ n, ∃ k ≤ s.declaredIndices.length, firstFree s.declaredIndices n = n + k ∧
      n + k ∉ s.declaredIndices ∧ ∀ j < k, n + j ∈ s.declaredIndices) ∧
    (∀ d, s.assignDelegated (some r) = .ok d →
      (∀ name, d.contains name = true ↔ ∃ v ∈ s.delegationUsers, v.name = name) ∧
      (∀ v ∈ s.delegationUsers, ∀ k, v.delegationIndex = some k → d.index? v = some k) ∧
      (∀ before v after, s.delegationUsers = before ++ v :: after → v.delegationIndex = none →
        ∃ i ≤ maxDelegationIndex, d.index? v = some i ∧
          IsLeast {m | s.firstDelegationIndex ≤ m ∧ m ∉ s.declaredIndices ∧
            ∀ w ∈ before, w.delegationIndex = none → d.index? w ≠ some m} i) ∧
      (s.delegationUsers.map d.index?).Nodup) ∧
    (¬s.declaredIndices.Nodup → ∃ errors, s.assignDelegated (some r) = .error errors) ∧
    ((∃ v, (v, none) ∈ assignIndices s.declaredIndices s.firstDelegationIndex s.delegationUsers) ↔
      (Finset.Icc s.firstDelegationIndex maxDelegationIndex \ s.declaredIndices.toFinset).card <
        (s.delegationUsers.filter (·.delegationIndex.isNone)).length) ∧
    ((∃ v, (v, none) ∈ assignIndices s.declaredIndices s.firstDelegationIndex s.delegationUsers) →
      ∃ errors, s.assignDelegated (some r) = .error errors) := by
  refine ⟨exists_firstFree _, fun d h => ⟨fun name => contains_assignDelegated hnames h, ?_, ?_,
    nodup_index? hnames h⟩, assignDelegated_of_declared_twice, exists_none_iff, ?_⟩
  · exact fun v hv k => index?_of_declared hnames h hv
  · exact fun before v after => index?_of_free hnames h
  · rintro ⟨v, hv⟩
    exact assignDelegated_of_mem_none hnames hv

/-- In front of and behind a vlan that declares the index 1, two vlans without one. -/
def interspersed : Site where
  name := "interspersed"
  switches := [{
    name := "sw"
    vlans := [
      { name := "lan", ipv4Subnet := "10.0.0.0/24", ipv6Delegated := true },
      { name := "iot", id := some 20, ipv4Subnet := "10.0.1.0/24", ipv6Delegated := true },
      { name := "lab", id := some 30, ipv4Subnet := "10.0.2.0/24", delegationIndex := some 1 }] }]

/-- The vlans without an index get the least ones that are left. -/
theorem interspersed_indices :
    (interspersed.vlans.map (·.2.name)).Nodup ∧
      ∃ d, interspersed.assignDelegated (some ⟨"gw", "wan0", 56, none⟩) = .ok d ∧
        interspersed.delegationUsers.map d.index? = [some 0, some 2, some 1] ∧
        (interspersed.delegationUsers.map d.index?).Nodup ∧ d.contains "iot" = true := by
  have hnames : (interspersed.vlans.map (·.2.name)).Nodup := by decide
  have hok : interspersed.assignDelegated (some ⟨"gw", "wan0", 56, none⟩) =
      .ok (interspersed.delegation ⟨"gw", "wan0", 56, none⟩) := by
    decide
  obtain ⟨hcontains, -, -, hnodup⟩ :=
    (assignDelegated_indices hnames ⟨"gw", "wan0", 56, none⟩).2.1 _ hok
  exact ⟨hnames, _, hok, by decide, hnodup, (hcontains "iot").2 (by decide)⟩

end Site

end NetworkSite
