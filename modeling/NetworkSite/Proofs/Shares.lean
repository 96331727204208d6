/-
  Shares of the delegated prefix.

  Every share is the part of the prefix that its index and its length name
  (`PrefixRequest.isPartOf_of_share`), so that two shares which are disjoint when
  counted in units of a `/64` are disjoint networks
  (`DelegatedSubnet.overlaps_eq_false`).  Only vlans that take part get one
  (`Site.share_of_effectiveDelegation`), and where there are shares, the subnets
  of all vlans have been compared (`Site.pairwise_ipv6Spans`).
-/
import NetworkSite.Addressing.Resolution
import NetworkSite.Proofs.Networks

namespace NetworkSite

namespace PrefixRequest

variable {r : PrefixRequest} {v : Vlan} {index : Nat} {share : DelegatedSubnet}

theorem subdivide_eq_ok {target : Nat} {subnet : Option (Network .v6)}
    (h : r.subdivide index target = .ok subnet) :
    target ≤ 64 ∧ ∀ n, subnet = some n →
      ∃ known, r.known = some known ∧ n.base = known.base + index * n.size ∧ n.length = target := by
  unfold subdivide at h
  split at h
  next => cases h
  next ht =>
    refine ⟨by omega, ?_⟩
    rintro n rfl
    split at h
    next => cases h
    next =>
      split at h
      next known hk =>
        cases hp : known.part index target with
        | error e => rw [hp] at h; cases h
        | ok p =>
          rw [hp] at h
          cases h
          exact ⟨known, hk, Network.part_eq_ok hp⟩
      next => cases h

end PrefixRequest

namespace DelegatedSubnet

variable {share share' : DelegatedSubnet} {prefix? : Option (Network .v6)} {n n' : Network .v6}

/-- The share has room for a `/64`, and where its subnet is known, that is the
    part of the prefix with the index of the share. -/
def IsPartOf (share : DelegatedSubnet) (prefix? : Option (Network .v6)) : Prop :=
  share.length ≤ 64 ∧ ∀ n, share.subnet = some n →
    ∃ known, prefix? = some known ∧ n.base = known.base + share.index * n.size ∧
      n.length = share.length

end DelegatedSubnet

theorem PrefixRequest.isPartOf_of_share {r : PrefixRequest} {v : Vlan} {index : Nat}
    {share : DelegatedSubnet} (h : r.share v index = .ok share) : share.IsPartOf r.known := by
  unfold PrefixRequest.share at h
  split at h
  next subnet hs => cases h; exact subdivide_eq_ok hs
  next => cases h
  next => cases h

/-! ## Units -/

namespace DelegatedSubnet

variable {share share' : DelegatedSubnet} {prefix? : Option (Network .v6)} {n n' : Network .v6}

open Ipv6Span

/-- A known subnet is the stretch of the prefix from the first unit of its share
    to the last one. -/
theorem units_of_isPartOf (h : share.IsPartOf prefix?) (hn : share.subnet = some n) :
    ∃ known, prefix? = some known ∧ n.base = known.base + start share * 2 ^ (64 : Nat) ∧
      n.base + n.size = known.base + stop share * 2 ^ (64 : Nat) := by
  obtain ⟨hl, hk⟩ := h
  obtain ⟨known, hp, hb, hlen⟩ := hk n hn
  have hsize : n.size = 2 ^ (64 - share.length) * 2 ^ (64 : Nat) := by
    rw [Network.size, hlen, ← Nat.pow_add]
    congr 1
    show 128 - share.length = _
    omega
  refine ⟨known, hp, ?_, ?_⟩
  · rw [hb, hsize, start, Nat.mul_assoc]
  · rw [hb, hsize, stop, start, Nat.add_mul, Nat.mul_assoc, Nat.add_assoc]

/-- **Shares without a common unit have no common address.** -/
theorem overlaps_eq_false (h : share.IsPartOf prefix?) (h' : share'.IsPartOf prefix?)
    (hn : share.subnet = some n) (hn' : share'.subnet = some n')
    (ho : (delegated share).overlaps (delegated share') = false) : n.overlaps n' = false := by
  obtain ⟨known, hk, hb, hs⟩ := units_of_isPartOf h hn
  obtain ⟨known', hk', hb', hs'⟩ := units_of_isPartOf h' hn'
  obtain rfl : known = known' := Option.some.inj (hk.symm.trans hk')
  rw [← Bool.not_eq_true]
  intro hc
  obtain ⟨a, ha, ha'⟩ := Network.overlaps_iff.1 hc
  rw [Network.contains_iff] at ha ha'
  have h₁ : start share < stop share' := by omega
  have h₂ : start share' < stop share := by omega
  simp [Ipv6Span.overlaps, h₁, h₂] at ho

end DelegatedSubnet

/-! ## Vlans that get a share -/

theorem mem_of_mem_assignIndices {taken : List Nat} {next : Nat} {users : List Vlan} {v : Vlan}
    {index : Option Nat} (h : (v, index) ∈ assignIndices taken next users) : v ∈ users := by
  induction users generalizing next with
  | nil => cases h
  | cons w rest ih =>
    unfold assignIndices at h
    split at h
    · rcases List.mem_cons.1 h with h | h
      · cases h; exact List.mem_cons_self
      · exact List.mem_cons_of_mem _ (ih h)
    · dsimp only at h
      split at h
      all_goals
        rcases List.mem_cons.1 h with h | h
        · cases h; exact List.mem_cons_self
        · exact List.mem_cons_of_mem _ (ih h)

namespace Site

variable {s : Site} {r : PrefixRequest} {d : Delegation} {share : DelegatedSubnet} {name : String}

theorem share_of_mem_shares {v : Vlan} (h : (v, .ok share) ∈ s.shares r) :
    v ∈ s.delegationUsers ∧ share.IsPartOf r.known := by
  obtain ⟨⟨w, index⟩, hm, he⟩ := List.mem_map.1 h
  rw [Prod.mk.injEq] at he
  obtain ⟨rfl, hs⟩ := he
  refine ⟨mem_of_mem_assignIndices hm, ?_⟩
  cases index with
  | none => cases hs
  | some index => exact PrefixRequest.isPartOf_of_share hs

/-- What stands in a map at the end of a run over a list stood there before, or
    an item has put it there. -/
theorem get?_foldl {α : Type} {step : Delegation → α → Delegation}
    (puts : α → String → DelegatedSubnet → Prop)
    (hstep : ∀ d a name share, (step d a).get? name = some share →
      d.get? name = some share ∨ puts a name share)
    {items : List α} (h : (items.foldl step d).get? name = some share) :
    d.get? name = some share ∨ ∃ a ∈ items, puts a name share := by
  induction items generalizing d with
  | nil => exact .inl h
  | cons a rest ih =>
    rw [List.foldl_cons] at h
    rcases ih h with h | ⟨b, hb, hp⟩
    · exact (hstep d a name share h).imp_right fun hp => ⟨a, List.mem_cons_self, hp⟩
    · exact .inr ⟨b, List.mem_cons_of_mem _ hb, hp⟩

/-- What stands in a delegation has been put there. -/
theorem mem_shares_of_get? (h : (s.delegation r).get? name = some share) :
    ∃ v, (v, .ok share) ∈ s.shares r ∧ v.name = name := by
  have hput : SortedMap.empty.get? name = some share ∨
      ∃ a ∈ s.shares r, a.2 = .ok share ∧ a.1.name = name := by
    refine get?_foldl (fun a name share => a.2 = .ok share ∧ a.1.name = name) ?_ h
    rintro d ⟨v, x⟩ name share hd
    cases x with
    | error e => exact .inl hd
    | ok share' =>
      simp only [SortedMap.get?_insert] at hd
      split at hd
      next hc =>
        cases hd
        exact .inr ⟨rfl, Std.LawfulEqOrd.eq_of_compare hc⟩
      next => exact .inl hd
  obtain ⟨⟨v, x⟩, hv, rfl, hn⟩ := hput.resolve_left nofun
  exact ⟨v, hv, hn⟩

/-- An assignment has nothing to assign, or all shares have been computed and
    compared. -/
theorem assignDelegated_eq_ok {request : Option PrefixRequest}
    (h : s.assignDelegated request = .ok d) :
    s.delegationUsers = [] ∧ d = SortedMap.empty ∨
      ∃ r, request = some r ∧ s.ipv6OverlapErrors d = [] ∧ d = s.delegation r := by
  unfold assignDelegated at h
  split at h
  next hu => cases h; exact .inl ⟨List.isEmpty_iff.1 hu, rfl⟩
  next =>
    right
    split at h
    next => cases h
    next r =>
      split at h
      next =>
        split at h
        next ho => cases h; exact ⟨r, rfl, ho, rfl⟩
        next => cases h
      next => cases h

/-- **Only vlans that take part have a share, and it is a part of the prefix of
    the site.** -/
theorem share_of_effectiveDelegation (h : s.effectiveDelegation.get? name = some share) :
    (∃ v ∈ s.delegationUsers, v.name = name) ∧
      share.IsPartOf (s.prefixRequest?.bind (·.known)) := by
  unfold effectiveDelegation at h
  split at h
  next d hd =>
    rcases assignDelegated_eq_ok hd with ⟨-, rfl⟩ | ⟨r, hr, -, rfl⟩
    · cases h
    · obtain ⟨v, hv, hn⟩ := mem_shares_of_get? h
      obtain ⟨hu, hp⟩ := share_of_mem_shares hv
      rw [hr]
      exact ⟨⟨v, hu, hn⟩, hp⟩
  next => cases h

/-! ## Comparison -/

theorem pairwise_of_ipv6OverlapErrors (h : s.ipv6OverlapErrors d = []) :
    (s.ipv6Spans d).Pairwise fun x y => y.2.overlaps x.2 = false := by
  refine pairwise_of_withEarlier fun x hx y hy => ?_
  simp only [ipv6OverlapErrors, List.flatMap_eq_nil_iff, List.map_eq_nil_iff,
    List.filter_eq_nil_iff] at h
  simpa using h x hx y hy

/-- **The subnets of vlans do not overlap, where they have been given shares.**
    Without shares there are only explicit subnets, which are not compared
    here. -/
theorem pairwise_ipv6Spans (s : Site) :
    (s.ipv6Spans s.effectiveDelegation).Pairwise fun x y => y.2.overlaps x.2 = false := by
  have hempty : (s.ipv6Spans SortedMap.empty).Pairwise fun x y => y.2.overlaps x.2 = false := by
    refine List.pairwise_filterMap.2 (List.pairwise_of_forall fun x y a ha b hb => ?_)
    obtain ⟨m, -, rfl⟩ := Option.map_eq_some_iff.1 ha
    obtain ⟨n, -, rfl⟩ := Option.map_eq_some_iff.1 hb
    rfl
  unfold effectiveDelegation
  split
  next d hd =>
    rcases assignDelegated_eq_ok hd with ⟨-, rfl⟩ | ⟨-, -, ho, -⟩
    · exact hempty
    · exact pairwise_of_ipv6OverlapErrors ho
  next => exact hempty

end Site

end NetworkSite
