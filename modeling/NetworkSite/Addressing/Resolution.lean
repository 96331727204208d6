/-
  The address plan of a site.

  All fixed addresses are claimed: gateways and entries vlan by vlan, then the
  interfaces host by host.  What is not claimed can be leased: the pool of a
  vlan is carved out of the addresses between its bounds.  There is a plan only
  if every subnet is readable, every claim is granted and no pool is empty;
  otherwise all errors are reported together.  Bounds in the wrong order, where
  there are claims to look up between them, leave nothing to report.

  * `Site.planSteps`, `Site.claims`: the claims and the registry they lead to;
  * `Vlan.carve4?`, `Vlan.carve6?`: the pools of a vlan;
  * `Site.lookups`: the bounds between which claims are looked up;
  * `Site.addressPlan`: the plan or why there is none.
-/
import NetworkSite.Addressing.Hosts
import NetworkSite.Net.Registry

namespace NetworkSite

/-! ## Claims -/

/-- The claim of an owner on an address of a vlan. -/
def claimOn (vlan owner : String) (a : IpAddress) : ClaimStep AddressingError :=
  .claim a owner fun other => .conflict vlan a owner other

/-- The gateway addresses of a vlan. -/
def PlannedVlan.gateways (w : PlannedVlan) : List IpAddress :=
  (w.gateway4.map IpAddress.v4).toList ++ (w.gateway6.map IpAddress.v6).toList

namespace Site

/-- The delegated subnets, none of them if they cannot be assigned. -/
def effectiveDelegation (s : Site) : Delegation :=
  match s.assignDelegated s.prefixRequest? with
  | .ok d => d
  | .error _ => SortedMap.empty

/-- The reasons why delegated subnets cannot be assigned. -/
def delegationErrors (s : Site) : List AddressingError :=
  match s.assignDelegated s.prefixRequest? with
  | .ok _ => []
  | .error errors => errors

/-- The addressing of all vlans without hosts and pools. -/
def outlines (s : Site) : List PlannedVlan :=
  s.vlanOutlines s.effectiveDelegation

/-- The claims of a vlan: its gateways, then what it declares. -/
def vlanClaimSteps (s : Site) (d : Delegation) (switch : Switch) (v : Vlan) :
    List (ClaimStep AddressingError) :=
  v.subnetErrors.map .remark ++
    match s.vlanOutline? d switch v with
    | none => []
    | some w =>
      w.gateways.map (claimOn v.name s.gatewayOwner) ++
        v.entries.flatMap fun e => e.addresses.map (claimOn v.name e.hostname)

/-- The claims of the declared interfaces of a host on vlans. -/
def hostClaimSteps (s : Site) (outlines : List PlannedVlan) (h : Host) :
    List (ClaimStep AddressingError) :=
  (h.planDeclared s outlines).flatMap fun i =>
    match i.vlan with
    | some vlan => i.fixedAddresses.map (claimOn vlan h.hostname)
    | none => []

/-- All claims in order, with remarks on unreadable subnets among them. -/
def planSteps (s : Site) : List (ClaimStep AddressingError) :=
  let d := s.effectiveDelegation
  let outlines := s.vlanOutlines d
  s.vlans.flatMap (fun (switch, v) => s.vlanClaimSteps d switch v) ++
    s.hosts.flatMap (s.hostClaimSteps outlines)

/-- The registry with all claims. -/
def claims (s : Site) : Registry :=
  (Registry.empty.run s.planSteps).2

/-- Unreadable subnets and refused claims. -/
def claimErrors (s : Site) : List AddressingError :=
  (Registry.empty.run s.planSteps).1

end Site

/-! ## Pools -/

/-- A pool with the bounds between which it was carved. -/
structure CarvedPool (f : Family) where
  bounds : AddressRange f
  pool : Pool f

/-- The pool between two offsets in a subnet, without the reserved and the
    claimed addresses. -/
def Registry.carvePool? {f : Family} (r : Registry) (subnet : Network f) (first last : Nat)
    (reserved : List (Address f)) : Option (CarvedPool f) := do
  let first ← subnet.nth? first
  let last ← subnet.nth? last
  let claimed := (r.between (.of first) (.of last)).map (·.1)
  return {
    bounds := { first, last }
    pool := Pool.carve first last (reserved.map IpAddress.of ++ claimed) }

/-- The bounds as addresses of either family. -/
def CarvedPool.ends {f : Family} (c : CarvedPool f) : IpAddress × IpAddress :=
  (.of c.bounds.first, .of c.bounds.last)

/-- An error for a pool without addresses. -/
def CarvedPool.errors {f : Family} (vlan : String) (c : CarvedPool f) : List AddressingError :=
  if c.pool.isEmpty then [.poolExhausted vlan (.of c.bounds.first) (.of c.bounds.last)] else []

namespace Vlan

/-- The IPv4 pool of a vlan that leases addresses; the outlines are those of
    all vlans, of which the first with its name counts. -/
def carve4? (outlines : List PlannedVlan) (claims : Registry) (v : Vlan) : Option (CarvedPool .v4) := do
  let w ← outlines.find? (·.name == v.name)
  if v.allowDhcp then
    claims.carvePool? w.subnet4 v.dhcp4First.toNat v.dhcp4Last.toNat
      ([w.subnet4.first, w.subnet4.last] ++ w.gateway4.toList)
  else none

/-- The IPv6 pool of a vlan that leases addresses and whose subnet is known. -/
def carve6? (outlines : List PlannedVlan) (claims : Registry) (v : Vlan) : Option (CarvedPool .v6) := do
  let w ← outlines.find? (·.name == v.name)
  let subnet ← w.ipv6.subnet?
  if v.dhcp6Managed then
    claims.carvePool? subnet v.dhcp6First.toNat v.dhcp6Last.toNat (subnet.first :: w.gateway6.toList)
  else none

/-- The bounds between which claims are looked up for the pools of a vlan. -/
def lookups (outlines : List PlannedVlan) (claims : Registry) (v : Vlan) :
    List (IpAddress × IpAddress) :=
  (v.carve4? outlines claims).toList.map (·.ends) ++ (v.carve6? outlines claims).toList.map (·.ends)

/-- An error for each pool of a vlan that is empty. -/
def poolErrors (outlines : List PlannedVlan) (claims : Registry) (v : Vlan) : List AddressingError :=
  (v.carve4? outlines claims).toList.flatMap (·.errors v.name) ++
    (v.carve6? outlines claims).toList.flatMap (·.errors v.name)

end Vlan

namespace Site

/-- Errors of pools, vlan by vlan. -/
def poolErrors (s : Site) : List AddressingError :=
  let outlines := s.outlines
  let claims := s.claims
  s.vlans.flatMap fun (_, v) => v.poolErrors outlines claims

/-- The bounds of all lookups of claims, vlan by vlan. -/
def lookups (s : Site) : List (IpAddress × IpAddress) :=
  let outlines := s.outlines
  let claims := s.claims
  s.vlans.flatMap fun (_, v) => v.lookups outlines claims

/-- The first lookup that cannot be made. -/
def crossedLookup? (s : Site) : Option (IpAddress × IpAddress) :=
  s.lookups.find? fun (first, last) => s.claims.isCrossed first last

/-- The vlans with a name. -/
def vlansNamed (s : Site) (name : String) : List Vlan :=
  (s.vlans.map (·.2)).filter (·.name == name)

/-! ## The plan -/

/-- A vlan with the entries of hosts and with its pools.  Of the pools of vlans
    with one name the last counts. -/
def completeVlan (s : Site) (outlines : List PlannedVlan) (claims : Registry) (w : PlannedVlan) :
    PlannedVlan :=
  let namesakes := s.vlansNamed w.name
  { w with
    entries := w.entries ++ s.hosts.flatMap (s.hostEntries outlines w)
    pool4 := (((namesakes.filterMap (·.carve4? outlines claims)).getLast?).map (·.pool)).getD {}
    pool6 := (((namesakes.filterMap (·.carve6? outlines claims)).getLast?).map (·.pool)).getD {} }

/-- All vlans; of those with one name only the first has hosts and pools. -/
def planVlans (s : Site) : List PlannedVlan :=
  let outlines := s.outlines
  let claims := s.claims
  (withEarlier outlines).map fun (before, w) =>
    if before.any (·.name == w.name) then w else s.completeVlan outlines claims w

/-- All hosts. -/
def planHosts (s : Site) : List PlannedHost :=
  let outlines := s.outlines
  s.hosts.map (s.planHost outlines)

/-- Everything that stands in the way of a plan. -/
def addressingErrors (s : Site) : List AddressingError :=
  s.delegationErrors ++ s.claimErrors ++ s.poolErrors

/-- The address plan of a site. -/
def addressPlan (s : Site) : Except AddressingFailure AddressPlan :=
  match s.crossedLookup? with
  | some (first, last) => .error (.crossed first last)
  | none =>
    match s.addressingErrors with
    | [] => .ok { vlans := s.planVlans, hosts := s.planHosts, request := s.prefixRequest? }
    | errors => .error (.errors errors)

end Site

end NetworkSite
