/-
  Prefix delegation: how vlans share the prefix that the router gets.

  The router asks for a prefix of some length on an uplink.  Each vlan that
  takes part gets one subnet out of it, named by an index: the declared one, or
  else the least index from the site's first one on that is not declared
  anywhere and not given away before.

  * `Site.prefixRequest?`: who asks for how much;
  * `Site.assignDelegated`: the subnets of all vlans that take part, or all
    reasons why they cannot be assigned;
  * `Ipv6Span`: the subnets of all vlans, compared for overlaps.
-/
import NetworkSite.Addressing.Error
import NetworkSite.Data.Earlier
import NetworkSite.Data.SortedMap
import NetworkSite.Site.Basic

namespace NetworkSite

/-- The router's request for a prefix. -/
structure PrefixRequest where
  router : String
  interface : String
  length : Nat
  /-- The prefix, where it is known in advance. -/
  known : Option (Network .v6)
  deriving DecidableEq

/-- The request that an uplink of a host makes. -/
def Host.prefixRequest? (h : Host) : Option PrefixRequest :=
  (h.namedInterfaces.filter (·.2.isUplink)).findSome? fun (name, i) =>
    i.requestedLength?.map fun length =>
      { router := h.hostname, interface := name, length, known := i.delegatedPrefix.bind Network.ofText? }

/-- The first request of a router. -/
def Site.prefixRequest? (s : Site) : Option PrefixRequest :=
  (s.hostsWithRole .router).findSome? (·.prefixRequest?)

/-- A vlan's share of the delegated prefix. -/
structure DelegatedSubnet where
  index : Nat
  length : Nat
  /-- The subnet itself, where the prefix is known. -/
  subnet : Option (Network .v6)
  deriving DecidableEq

/-- The shares by the names of vlans. -/
abbrev Delegation := SortedMap String DelegatedSubnet

namespace PrefixRequest

/-- The subnet with an index and a length out of the requested prefix, which is
    computed if the prefix is known. -/
def subdivide (r : PrefixRequest) (index target : Nat) : Except NetworkError (Option (Network .v6)) :=
  if target ≤ r.length ∨ 64 < target then .error (.noDivision r.length target)
  else if 2 ^ (target - r.length) ≤ index then
    .error (.noPart index (2 ^ (target - r.length)) r.length target)
  else
    match r.known with
    | some network => (network.part index target).map some
    | none => .ok none

/-- The share of a vlan at an index. -/
def share (r : PrefixRequest) (v : Vlan) (index : Nat) : Except AddressingError DelegatedSubnet :=
  match r.subdivide index v.ipv6Length with
  | .ok subnet => .ok { index, length := v.ipv6Length, subnet }
  | .error (.noPart index available length target) =>
    .error (.delegationOverflow v.name index available length target)
  | .error _ => .error (.badDelegationLength v.name r.length v.ipv6Length)

end PrefixRequest

/-! ## Indices -/

/-- The greatest index. -/
def maxDelegationIndex : Nat := 0xFFFFFFFFFFFFFFFF

/-- The least number from `n` on that is not taken. -/
def firstFree (taken : List Nat) (n : Nat) : Nat :=
  (((List.range (taken.length + 1)).map (n + ·)).find? fun m => !taken.contains m).getD n

/-- Each vlan with its index, where `taken` are the declared ones and `next` is
    the least one that may still be given away.  None is left for a vlan if the
    indices run out. -/
def assignIndices (taken : List Nat) (next : Nat) : List Vlan → List (Vlan × Option Nat)
  | [] => []
  | v :: rest =>
    match v.delegationIndex with
    | some index => (v, some index) :: assignIndices taken next rest
    | none =>
      let index := firstFree taken next
      if index ≤ maxDelegationIndex then (v, some index) :: assignIndices taken (index + 1) rest
      else (v, none) :: assignIndices taken index rest

namespace Site

/-- The vlans that take their subnet out of the delegated prefix. -/
def delegationUsers (s : Site) : List Vlan :=
  (s.vlans.map (·.2)).filter (·.usesDelegation)

/-- The declared indices. -/
def declaredIndices (s : Site) : List Nat :=
  s.delegationUsers.filterMap (·.delegationIndex)

/-- An error for each vlan that declares the index of an earlier one. -/
def sharedIndexErrors (s : Site) : List AddressingError :=
  (withEarlier s.delegationUsers).filterMap fun (before, v) => do
    let index ← v.delegationIndex
    let other ← (before.filter (·.delegationIndex == some index)).getLast?
    return .sharedDelegationIndex v.name other.name index

/-- The share of a vlan at its index, if it got one. -/
def shareAt (r : PrefixRequest) (v : Vlan) : Option Nat → Except AddressingError DelegatedSubnet
  | some index => r.share v index
  | none =>
    .error (.delegationOverflow v.name maxDelegationIndex (2 ^ min (v.ipv6Length - r.length) 64)
      r.length v.ipv6Length)

/-- The shares of all vlans that take part, or the errors. -/
def shares (s : Site) (r : PrefixRequest) : List (Vlan × Except AddressingError DelegatedSubnet) :=
  (assignIndices s.declaredIndices s.firstDelegationIndex s.delegationUsers).map fun (v, index) =>
    (v, shareAt r v index)

end Site

/-! ## Overlaps -/

/-- The IPv6 subnet of a vlan, as far as it is known. -/
inductive Ipv6Span where
  | delegated (share : DelegatedSubnet)
  | explicit (subnet : Network .v6)
  deriving DecidableEq

namespace Ipv6Span

/-- The first `/64` of a share, counted in the delegated prefix. -/
def start (share : DelegatedSubnet) : Nat :=
  share.index * 2 ^ (64 - share.length)

/-- The first `/64` behind a share. -/
def stop (share : DelegatedSubnet) : Nat :=
  start share + 2 ^ (64 - share.length)

/-- Shares are compared with each other inside the delegated prefix, and with
    explicit subnets where that prefix is known.  Explicit subnets are compared
    by the check of the site. -/
def overlaps : Ipv6Span → Ipv6Span → Bool
  | delegated a, delegated b => start a < stop b && start b < stop a
  | delegated a, explicit n => a.subnet.any (·.overlaps n)
  | explicit n, delegated a => a.subnet.any (·.overlaps n)
  | explicit _, explicit _ => false

def text : Ipv6Span → String
  | delegated share =>
    match share.subnet with
    | some n => n.text
    | none => s!"delegated #{share.index}/{share.length}"
  | explicit n => n.text

end Ipv6Span

namespace Site

/-- The IPv6 subnets of vlans, with their names. -/
def ipv6Spans (s : Site) (d : Delegation) : List (String × Ipv6Span) :=
  s.vlans.filterMap fun (_, v) =>
    match d.get? v.name with
    | some share => some (v.name, .delegated share)
    | none => (v.explicitIpv6?.bind Network.ofText?).map fun n => (v.name, .explicit n)

/-- An error for each pair of overlapping subnets. -/
def ipv6OverlapErrors (s : Site) (d : Delegation) : List AddressingError :=
  (withEarlier (s.ipv6Spans d)).flatMap fun (before, vlan, span) =>
    (before.filter fun (_, other) => span.overlaps other).map fun (name, other) =>
      .ipv6Overlap vlan span.text name other.text

/-! ## Assignment -/

/-- The shares that could be computed. -/
def delegation (s : Site) (r : PrefixRequest) : Delegation :=
  (s.shares r).foldl
    (fun d (v, share) =>
      match share with
      | .ok share => d.insert v.name share
      | .error _ => d)
    SortedMap.empty

/-- Errors of the assignment of indices and shares. -/
def shareErrors (s : Site) (r : PrefixRequest) : List AddressingError :=
  s.sharedIndexErrors ++ (s.shares r).filterMap fun (_, share) =>
    match share with
    | .ok _ => none
    | .error e => some e

/-- The shares of all vlans that take part in prefix delegation.  Overlaps are
    only sought once each vlan has its share. -/
def assignDelegated (s : Site) (request : Option PrefixRequest) :
    Except (List AddressingError) Delegation :=
  if s.delegationUsers.isEmpty then .ok SortedMap.empty
  else
    match request with
    | none => .error (s.delegationUsers.map fun v => .noDelegation v.name)
    | some r =>
      match s.shareErrors r with
      | [] =>
        match s.ipv6OverlapErrors (s.delegation r) with
        | [] => .ok (s.delegation r)
        | errors => .error errors
      | errors => .error errors

end Site

end NetworkSite
