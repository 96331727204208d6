/-
  What a known prefix changes.

  A site whose prefix is known in advance and the same site without that
  knowledge (`Site.withoutPrefix`) assign the same shares, but for the subnets
  that are computed from the prefix, as long as no vlan has a subnet of its own
  that these could meet: both assignments succeed, with the same index and
  length for each vlan, or both fail, with the same errors but for the texts of
  subnets in them (`Site.assignDelegated_withoutPrefix`).  The check of the site
  is what makes the two counts of parts one: a known prefix has the length that
  is asked for (`Site.fits_of_prefixRequest?`).
-/
import NetworkSite.Proofs.Placement
import NetworkSite.Proofs.Shares
import Mathlib.Data.List.Basic

namespace NetworkSite

/-! ## Forgetting the prefix -/

namespace Interface

def withoutPrefix (i : Interface) : Interface :=
  { i with delegatedPrefix := none }

@[simp]
theorem isUplink_withoutPrefix (i : Interface) : i.withoutPrefix.isUplink = i.isUplink := rfl

@[simp]
theorem requestedLength?_withoutPrefix (i : Interface) :
    i.withoutPrefix.requestedLength? = i.requestedLength? := rfl

end Interface

/-- The host with interfaces that know no prefix. -/
def Host.withoutPrefix (h : Host) : Host :=
  { h with interfaces := h.interfaces.map (·.withoutPrefix) }

/-- The site with interfaces that know no prefix. -/
def Site.withoutPrefix (s : Site) : Site :=
  { s with hosts := s.hosts.map (·.withoutPrefix) }

def PrefixRequest.withoutPrefix (r : PrefixRequest) : PrefixRequest :=
  { r with known := none }

/-- The index and the length of a share alone. -/
def DelegatedSubnet.symbolic (share : DelegatedSubnet) : DelegatedSubnet :=
  { share with subnet := none }

/-- The error without the texts of the subnets that overlap. -/
def AddressingError.unlabelled : AddressingError → AddressingError
  | ipv6Overlap vlan _ other _ => ipv6Overlap vlan "" other ""
  | e => e

/-! ## The request -/

theorem Host.namesFrom_withoutPrefix (n : Nat) (is : List Interface) :
    namesFrom n (is.map (·.withoutPrefix)) = namesFrom n is := by
  induction is generalizing n with
  | nil => rfl
  | cons i rest ih =>
    have hn : i.withoutPrefix.name = i.name := rfl
    simp only [List.map_cons, namesFrom, hn, ih]

theorem Host.namedInterfaces_withoutPrefix (h : Host) :
    h.withoutPrefix.namedInterfaces =
      h.namedInterfaces.map fun x => (x.1, x.2.withoutPrefix) := by
  have hn : h.withoutPrefix.interfaceNames = h.interfaceNames := namesFrom_withoutPrefix 0 _
  rw [namedInterfaces, hn, withoutPrefix, List.zip_map_right]
  rfl

theorem Host.prefixRequest?_withoutPrefix (h : Host) :
    h.withoutPrefix.prefixRequest? = h.prefixRequest?.map (·.withoutPrefix) := by
  have hname : h.withoutPrefix.hostname = h.hostname := rfl
  simp only [prefixRequest?, namedInterfaces_withoutPrefix, List.filter_map, List.findSome?_map,
    List.map_findSome?, Function.comp_def, Interface.isUplink_withoutPrefix,
    Interface.requestedLength?_withoutPrefix, Option.map_map, hname]
  rfl

namespace Site

variable {s : Site}

theorem hostsWithRole_withoutPrefix (r : Role) :
    s.withoutPrefix.hostsWithRole r = (s.hostsWithRole r).map (·.withoutPrefix) := by
  simp only [hostsWithRole, withoutPrefix, List.filter_map]
  rfl

/-- The same is asked for, only that the answer is not known. -/
theorem prefixRequest?_withoutPrefix :
    s.withoutPrefix.prefixRequest? = s.prefixRequest?.map (·.withoutPrefix) := by
  simp only [prefixRequest?, hostsWithRole_withoutPrefix, List.findSome?_map, List.map_findSome?,
    Function.comp_def, Host.prefixRequest?_withoutPrefix]

end Site

/-- The prefix, if it is known, has the length that is asked for. -/
def PrefixRequest.Fits (r : PrefixRequest) : Prop :=
  ∀ n, r.known = some n → n.length = r.length

theorem Interface.length_of_prefixFindings {place : Place} {requested : Nat} {text : String}
    {n : Network .v6} (h : prefixFindings place requested text = [])
    (hn : Network.ofText? text = some n) : n.length = requested := by
  rw [prefixFindings, Network.ofText?_eq_some.1 hn] at h
  simpa using h

/-- **A valid site knows no prefix but of the length that it asks for.** -/
theorem Site.fits_of_prefixRequest? {s : Site} (h : s.findings = []) {r : PrefixRequest}
    (hr : s.prefixRequest? = some r) : r.Fits := by
  obtain ⟨host, hh, hhr⟩ := List.exists_of_findSome?_eq_some hr
  obtain ⟨⟨name, i⟩, hm, hi⟩ := List.exists_of_findSome?_eq_some hhr
  obtain ⟨hnamed, hu⟩ := List.mem_filter.1 hm
  obtain ⟨length, hl, rfl⟩ := Option.map_eq_some_iff.1 hi
  intro n hn
  obtain ⟨text, ht, hn⟩ := Option.bind_eq_some_iff.1 hn
  -- An uplink that asks for a prefix on a valid site passes the check of uplinks.
  have hshape := shapeFindings_of_mem h (List.mem_filter.1 hh).1 hnamed
  obtain ⟨port, hport⟩ := Option.isSome_iff_exists.1 hu
  unfold Interface.shapeFindings at hshape
  rw [hport] at hshape
  cases hs : i.switch with
  | some switch => rw [hs] at hshape; cases hshape
  | none =>
    rw [hs] at hshape
    have hd := (List.append_eq_nil_iff.1 hshape).2
    rw [Interface.delegationFindings, hl] at hd
    have hp := (List.append_eq_nil_iff.1 hd).2
    rw [ht] at hp
    exact Interface.length_of_prefixFindings hp hn

/-! ## Shares -/

namespace PrefixRequest

variable {r : PrefixRequest}

/-- A known prefix of the requested length has as many parts as the request. -/
theorem subdivide_withoutPrefix (hf : r.Fits) (index target : Nat) :
    r.withoutPrefix.subdivide index target = (r.subdivide index target).map fun _ => none := by
  unfold subdivide
  have hlength : r.withoutPrefix.length = r.length := rfl
  rw [hlength]
  split
  next => rfl
  next ht =>
    split
    next => rfl
    next hi =>
      cases hk : r.known with
      | none => rfl
      | some n =>
        have hn : n.length = r.length := hf n hk
        have hwidth : n.length ≤ target ∧ target ≤ Family.v6.width := by
          constructor
          · omega
          · show target ≤ 128
            omega
        have hcount : index < min (2 ^ (target - n.length)) (2 ^ Family.v6.width - 1) := by
          have hpow : 2 ^ (target - r.length) ≤ 2 ^ (64 : Nat) :=
            Nat.pow_le_pow_right (by decide) (by omega)
          have hmax : 2 ^ (64 : Nat) < 2 ^ Family.v6.width - 1 := by decide
          rw [hn]
          omega
        have hpart : ∃ p, n.part index target = .ok p := by
          rw [Network.part, dif_pos hwidth, dif_pos hcount]
          exact ⟨_, rfl⟩
        obtain ⟨p, hp⟩ := hpart
        simp only [withoutPrefix, hp]
        rfl

theorem share_withoutPrefix (hf : r.Fits) (v : Vlan) (index : Nat) :
    r.withoutPrefix.share v index = (r.share v index).map (·.symbolic) := by
  have hlength : r.withoutPrefix.length = r.length := rfl
  rw [share, share, subdivide_withoutPrefix hf, hlength]
  cases r.subdivide index v.ipv6Length with
  | ok subnet => rfl
  | error e => cases e <;> rfl

end PrefixRequest

namespace Site

variable {s : Site} {r : PrefixRequest}

theorem shareAt_withoutPrefix (hf : r.Fits) (v : Vlan) (index : Option Nat) :
    shareAt r.withoutPrefix v index = (shareAt r v index).map (·.symbolic) := by
  cases index with
  | none => rfl
  | some index => exact PrefixRequest.share_withoutPrefix hf v index

theorem shares_withoutPrefix (hf : r.Fits) :
    s.withoutPrefix.shares r.withoutPrefix =
      (s.shares r).map fun x => (x.1, x.2.map (·.symbolic)) := by
  simp only [shares, List.map_map]
  refine List.map_congr_left fun x _ => ?_
  simp only [Function.comp_def, shareAt_withoutPrefix hf]

theorem shareErrors_withoutPrefix (hf : r.Fits) :
    s.withoutPrefix.shareErrors r.withoutPrefix = s.shareErrors r := by
  rw [shareErrors, shareErrors, shares_withoutPrefix hf, List.filterMap_map]
  congr 1
  refine List.filterMap_congr fun x _ => ?_
  obtain ⟨v, share⟩ := x
  cases share <;> rfl

/-- Forgetting subnets at the end or with each share is the same. -/
theorem delegation_withoutPrefix (hf : r.Fits) :
    s.withoutPrefix.delegation r.withoutPrefix = (s.delegation r).map (·.symbolic) := by
  rw [delegation, delegation, shares_withoutPrefix hf, List.foldl_map]
  have hempty : (SortedMap.empty : Delegation) = (SortedMap.empty : Delegation).map (·.symbolic) := rfl
  conv_lhs => rw [hempty]
  generalize s.shares r = shares
  generalize (SortedMap.empty : Delegation) = d
  induction shares generalizing d with
  | nil => rfl
  | cons x rest ih =>
    obtain ⟨v, share⟩ := x
    cases share with
    | error e => exact ih d
    | ok share =>
      have hrest := ih (d.insert v.name share)
      rw [SortedMap.map_insert] at hrest
      exact hrest

/-! ## Overlaps -/

/-- The shares of vlans with their names, in the order of the vlans. -/
def namedShares (s : Site) (d : Delegation) : List (String × DelegatedSubnet) :=
  s.vlans.filterMap fun x => (d.get? x.2.name).map fun share => (x.2.name, share)

theorem namedShares_map (s : Site) (d : Delegation) (f : DelegatedSubnet → DelegatedSubnet) :
    s.namedShares (d.map f) = (s.namedShares d).map fun x => (x.1, f x.2) := by
  simp only [namedShares, List.map_filterMap, SortedMap.get?_map, Option.map_map]
  rfl

theorem ipv6Spans_eq (he : ∀ x ∈ s.vlans, x.2.explicitIpv6? = none) (d : Delegation) :
    s.ipv6Spans d = (s.namedShares d).map fun x => (x.1, .delegated x.2) := by
  rw [namedShares, List.map_filterMap]
  refine List.filterMap_congr fun x hx => ?_
  cases hd : d.get? x.2.name with
  | none => simp [hd, he x hx]
  | some share => simp [hd]

/-- The vlans that overlap, of which one is earlier than the other. -/
def overlapsOf (shares : List (String × DelegatedSubnet)) : List AddressingError :=
  (withEarlier shares).flatMap fun (before, vlan, share) =>
    (before.filter fun x => Ipv6Span.overlaps (.delegated share) (.delegated x.2)).map fun x =>
      .ipv6Overlap vlan "" x.1 ""

theorem map_unlabelled_ipv6OverlapErrors (he : ∀ x ∈ s.vlans, x.2.explicitIpv6? = none)
    (d : Delegation) :
    (s.ipv6OverlapErrors d).map (·.unlabelled) = overlapsOf (s.namedShares d) := by
  simp only [ipv6OverlapErrors, overlapsOf, ipv6Spans_eq he, withEarlier_map, List.flatMap_map,
    List.map_flatMap, List.filter_map, List.map_map, Function.comp_def, AddressingError.unlabelled]

theorem overlapsOf_symbolic (shares : List (String × DelegatedSubnet)) :
    overlapsOf (shares.map fun x => (x.1, x.2.symbolic)) = overlapsOf shares := by
  simp only [overlapsOf, withEarlier_map, List.flatMap_map, List.filter_map, List.map_map,
    Function.comp_def]
  rfl

theorem overlaps_withoutPrefix (he : ∀ x ∈ s.vlans, x.2.explicitIpv6? = none) (d : Delegation) :
    (s.withoutPrefix.ipv6OverlapErrors (d.map (·.symbolic))).map (·.unlabelled) =
      (s.ipv6OverlapErrors d).map (·.unlabelled) := by
  have hvlans : s.withoutPrefix.vlans = s.vlans := rfl
  rw [map_unlabelled_ipv6OverlapErrors he, map_unlabelled_ipv6OverlapErrors (by rwa [hvlans]),
    namedShares_map, overlapsOf_symbolic]
  rfl

/-! ## Assignment -/

/-- **Knowing the prefix only adds the subnets.**  Without the knowledge, the
    assignment of a valid site on which no vlan has an IPv6 subnet of its own
    succeeds exactly if it does with it.  The shares are then the same up to
    their subnets, and else the errors up to the texts of subnets. -/
theorem assignDelegated_withoutPrefix (h : s.findings = [])
    (he : ∀ x ∈ s.vlans, x.2.explicitIpv6? = none) :
    (∀ d, s.assignDelegated s.prefixRequest? = .ok d →
      s.withoutPrefix.assignDelegated s.withoutPrefix.prefixRequest? = .ok (d.map (·.symbolic))) ∧
    ∀ errors, s.assignDelegated s.prefixRequest? = .error errors →
      ∃ errors', s.withoutPrefix.assignDelegated s.withoutPrefix.prefixRequest? = .error errors' ∧
        errors'.map (·.unlabelled) = errors.map (·.unlabelled) := by
  have husers : s.withoutPrefix.delegationUsers = s.delegationUsers := rfl
  rw [prefixRequest?_withoutPrefix]
  unfold assignDelegated
  rw [husers]
  split
  next => exact ⟨fun d hd => by cases hd; rfl, nofun⟩
  next =>
    cases hr : s.prefixRequest? with
    | none => exact ⟨nofun, fun errors hd => ⟨errors, hd, rfl⟩⟩
    | some r =>
      have hf := fits_of_prefixRequest? h hr
      have ho := overlaps_withoutPrefix he (s.delegation r)
      simp only [Option.map_some, shareErrors_withoutPrefix hf, delegation_withoutPrefix hf]
      cases s.shareErrors r with
      | cons e rest => exact ⟨nofun, fun errors hd => ⟨errors, hd, rfl⟩⟩
      | nil =>
        cases hl : s.ipv6OverlapErrors (s.delegation r) with
        | nil =>
          rw [hl, List.map_nil, List.map_eq_nil_iff] at ho
          rw [ho]
          exact ⟨fun d hd => by cases hd; rfl, nofun⟩
        | cons e rest =>
          cases hl' : s.withoutPrefix.ipv6OverlapErrors ((s.delegation r).map (·.symbolic)) with
          | nil => rw [hl, hl'] at ho; cases ho
          | cons e' rest' =>
            rw [hl, hl'] at ho
            exact ⟨nofun, fun errors hd => by cases hd; exact ⟨_, rfl, ho⟩⟩

/-- A site on which the share of one vlan is as large as sixteen of the other,
    which stands in the middle of it. -/
def uneven : Site where
  name := "uneven"
  switches := [{
    name := "sw"
    vlans := [
      { name := "lan", ipv4Subnet := "10.0.0.0/24", delegationIndex := some 0, ipv6Length := 60 },
      { name := "iot", id := some 20, ipv4Subnet := "10.0.1.0/24", ipv6Delegated := true }] }]
  firstDelegationIndex := 1
  hosts := [{
    hostname := "gw"
    roles := [.router]
    interfaces := [
      { uplink := some "wan0", delegationLength := some 56
        delegatedPrefix := some "2001:db8:aa00::/56" }] }]

theorem uneven_withoutPrefix :
    uneven.findings = [] ∧ (∀ x ∈ uneven.vlans, x.2.explicitIpv6? = none) ∧
      uneven.assignDelegated uneven.prefixRequest? =
        .error [.ipv6Overlap "iot" "2001:db8:aa00:1::/64" "lan" "2001:db8:aa00::/60"] ∧
      ∃ errors, uneven.withoutPrefix.assignDelegated uneven.withoutPrefix.prefixRequest? =
          .error errors ∧
        errors.map (·.unlabelled) = [.ipv6Overlap "iot" "" "lan" ""] := by
  have hf : uneven.findings = [] := by with_unfolding_all decide
  have he : ∀ x ∈ uneven.vlans, x.2.explicitIpv6? = none := by decide
  have hshares : uneven.assignDelegated uneven.prefixRequest? =
      .error [.ipv6Overlap "iot" "2001:db8:aa00:1::/64" "lan" "2001:db8:aa00::/60"] := by
    decide
  exact ⟨hf, he, hshares, (assignDelegated_withoutPrefix hf he).2 _ hshares⟩

end Site

end NetworkSite
