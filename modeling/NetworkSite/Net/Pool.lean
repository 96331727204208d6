/-
  Pools of free addresses.

  A pool is what remains of an interval of addresses once some of them are
  taken out, as ranges in ascending order with at least one missing address
  between each two.
-/
import NetworkSite.Net.AddressText

namespace NetworkSite

/-- The addresses from `first` to `last`. -/
structure AddressRange (f : Family) where
  first : Address f
  last : Address f
  deriving DecidableEq

namespace AddressRange

variable {f : Family}

def size (r : AddressRange f) : Nat :=
  r.last.toNat - r.first.toNat + 1

def contains (r : AddressRange f) (a : Address f) : Bool :=
  r.first ≤ a && a ≤ r.last

def text (r : AddressRange f) : String :=
  s!"{r.first.text}-{r.last.text}"

end AddressRange

/-- The maximal intervals of numbers from `next` to `last` without a hole; the
    holes are in ascending order. -/
def gaps (next last : Nat) : List Nat → List (Nat × Nat)
  | [] => if next ≤ last then [(next, last)] else []
  | hole :: holes =>
    if next < hole then (next, hole - 1) :: gaps (hole + 1) last holes
    else gaps (hole + 1) last holes

/-- Free addresses as ranges. -/
structure Pool (f : Family) where
  ranges : List (AddressRange f) := []
  deriving DecidableEq

namespace Pool

variable {f : Family}

instance : Inhabited (Pool f) := ⟨⟨[]⟩⟩

/-- The numbers from `first` to `last` that the excluded addresses of the
    family occupy, in ascending order. -/
def holes (first last : Address f) (excluded : List IpAddress) : List Nat :=
  ((excluded.filterMap (·.inFamily? f)).filter fun a => first ≤ a && a ≤ last).map (·.toNat)
    |>.mergeSort

/-- The addresses from `first` to `last` that are not excluded.  The excluded
    ones may be of any family and in any order. -/
def carve (first last : Address f) (excluded : List IpAddress) : Pool f where
  ranges := (gaps first.toNat last.toNat (holes first last excluded)).map fun (lo, hi) =>
    { first := Address.ofNat lo, last := Address.ofNat hi }

/-- The number of free addresses. -/
def size (p : Pool f) : Nat :=
  p.ranges.foldr (fun r n => r.size + n) 0

def isEmpty (p : Pool f) : Bool :=
  p.ranges.isEmpty

def contains (p : Pool f) (a : Address f) : Bool :=
  p.ranges.any (·.contains a)

/-- Membership of an address of either family. -/
def containsIp (p : Pool f) (a : IpAddress) : Bool :=
  match a.inFamily? f with
  | some a => p.contains a
  | none => false

end Pool

end NetworkSite
