/-
  Claims on addresses.

  A registry records which owner holds each claimed address.  An address has
  one owner: the first to claim it.  The same owner may claim it again, any
  other claim is refused with the name of the owner.

  `Registry.run` places a sequence of claims and collects what is to be said
  about them, in order.
-/
import NetworkSite.Data.SortedMap
import NetworkSite.Net.Address

namespace NetworkSite

namespace IpAddress

instance : Ord IpAddress := ⟨fun a b => compare a.key b.key⟩

instance : Std.TransOrd IpAddress where
  eq_swap := Std.OrientedOrd.eq_swap (α := Nat)
  isLE_trans := Std.TransOrd.isLE_trans (α := Nat)

instance : Std.LawfulEqOrd IpAddress where
  eq_of_compare h := key_inj (Std.LawfulEqOrd.eq_of_compare (α := Nat) h)

end IpAddress

/-- The claimed addresses with their owners, in the order of the addresses. -/
abbrev Registry := SortedMap IpAddress String

namespace Registry

/-- The registry without claims. -/
def empty : Registry :=
  SortedMap.empty

/-- The owner of an address. -/
def owner? (r : Registry) (a : IpAddress) : Option String :=
  r.get? a

/-- Claims an address; refused with the owner if it is somebody else. -/
def claim (r : Registry) (a : IpAddress) (owner : String) : Except String Registry :=
  match r.owner? a with
  | some holder => if holder == owner then .ok r else .error holder
  | none => .ok (r.insert a owner)

/-- Nothing can be looked up between these bounds: they are in the wrong order,
    and there are claims. -/
def isCrossed (r : Registry) (first last : IpAddress) : Bool :=
  !r.isEmpty && last < first

/-- The claims on addresses from `first` to `last`, in order.  The bounds must
    not be crossed. -/
def between (r : Registry) (first last : IpAddress) : List (IpAddress × String) :=
  r.entries.filter fun (a, _) => first ≤ a && a ≤ last

/-- The registry with a claim placed, or the same one if it is refused. -/
def tryClaim (r : Registry) (a : IpAddress) (owner : String) : Registry :=
  match r.claim a owner with
  | .ok r => r
  | .error _ => r

end Registry

/-- One step of a run: a remark, or a claim with the remark on its refusal. -/
inductive ClaimStep (ε : Type) where
  | remark (e : ε)
  | claim (address : IpAddress) (owner : String) (refused : String → ε)

/-- Takes the steps in order; gives the remarks and the registry at the end. -/
def Registry.run {ε : Type} (r : Registry) : List (ClaimStep ε) → List ε × Registry
  | [] => ([], r)
  | .remark e :: rest =>
    let (remarks, r) := r.run rest
    (e :: remarks, r)
  | .claim a owner refused :: rest =>
    match r.claim a owner with
    | .ok r => r.run rest
    | .error other =>
      let (remarks, r) := r.run rest
      (refused other :: remarks, r)

end NetworkSite
