/-
  Networks: the addresses that share their first bits.

  A network of family `f` is a base address and a prefix length; the bits of
  the base beyond that length are zero (`aligned`), so that the network is the
  interval of `size` addresses from its base on.  Everything is computed on
  numbers:

  * `contains`, `overlaps`: membership and common addresses;
  * `nth?`, `offset?`: addresses by their offset from the base, and back;
  * `first`, `last`, `gateway`, `netmask`: its special addresses;
  * `part`: the network with a given index among those of a longer prefix.
-/
import NetworkSite.Net.AddressText
import NetworkSite.Text.Blank

namespace NetworkSite

/-- Why a text is no network, or a network has no such part. -/
inductive NetworkError where
  /-- The text holds no `/`. -/
  | noLength (text : String)
  | badAddress (text : String)
  | badLength (text : String)
  /-- A bit beyond the prefix length is set. -/
  | hostBits (text : String)
  | noDivision (length target : Nat)
  | noPart (index available length target : Nat)
  deriving DecidableEq

def NetworkError.message : NetworkError → String
  | noLength text => s!"'{text}' is not in address/prefix form"
  | badAddress text => s!"invalid address in '{text}'"
  | badLength text => s!"invalid prefix length in '{text}'"
  | hostBits text => s!"'{text}' has host bits set"
  | noDivision length target => s!"cannot carve a /{target} out of a /{length}"
  | noPart index available length target =>
    s!"subnet index {index} exceeds the {available} /{target} subnets available in a /{length}"

/-- A network: a base address without bits beyond the prefix length. -/
@[ext]
structure Network (f : Family) where
  base : Nat
  length : Nat
  length_le : length ≤ f.width
  base_lt : base < 2 ^ f.width
  aligned : 2 ^ (f.width - length) ∣ base

namespace Network

variable {f : Family}

instance : DecidableEq (Network f) := fun _ _ =>
  decidable_of_decidable_of_iff Network.ext_iff.symm

/-- The number of addresses of the network. -/
def size (n : Network f) : Nat :=
  2 ^ (f.width - n.length)

theorem size_pos (n : Network f) : 0 < n.size := Nat.two_pow_pos _

theorem size_mul (n : Network f) : 2 ^ n.length * n.size = 2 ^ f.width := by
  rw [size, ← Nat.pow_add, Nat.add_sub_cancel' n.length_le]

theorem base_add_size_le (n : Network f) : n.base + n.size ≤ 2 ^ f.width := by
  obtain ⟨k, hk⟩ := n.aligned
  have hk : n.base = k * n.size := by rw [hk, Nat.mul_comm]; rfl
  have hlt : k * n.size < 2 ^ n.length * n.size := by rw [size_mul, ← hk]; exact n.base_lt
  have hk' : k + 1 ≤ 2 ^ n.length := Nat.lt_of_mul_lt_mul_right hlt
  calc n.base + n.size = (k + 1) * n.size := by rw [hk, Nat.succ_mul]
    _ ≤ 2 ^ n.length * n.size := Nat.mul_le_mul_right _ hk'
    _ = 2 ^ f.width := n.size_mul

/-- The base address. -/
def first (n : Network f) : Address f :=
  ⟨n.base, n.base_lt⟩

/-- The last address; the broadcast address of an IPv4 network. -/
def last (n : Network f) : Address f :=
  ⟨n.base + (n.size - 1), by have := n.base_add_size_le; have := n.size_pos; omega⟩

/-- The address that has exactly the bits of the prefix. -/
def netmask (n : Network f) : Address f :=
  ⟨2 ^ f.width - n.size, by have := n.size_pos; have := Nat.two_pow_pos f.width; omega⟩

/-- The address agrees with the base in the bits of the prefix. -/
def contains (n : Network f) (a : Address f) : Bool :=
  a.toNat / n.size * n.size == n.base

/-- One network contains the base of the other. -/
def overlaps (m n : Network f) : Bool :=
  m.contains n.first || n.contains m.first

/-- The address at an offset from the base, if it is inside the network. -/
def nth? (n : Network f) (offset : Nat) : Option (Address f) :=
  if h : offset < n.size then
    some ⟨n.base + offset, by have := n.base_add_size_le; omega⟩
  else none

/-- The offset of an address from the base, if it is inside the network. -/
def offset? (n : Network f) (a : Address f) : Option Nat :=
  if n.contains a then some (a.toNat - n.base) else none

/-- The first address after the base, by convention the router's.  An IPv4
    network needs room for a host besides its base and broadcast addresses. -/
def gateway? (n : Network f) : Option (Address f) :=
  if f = .v4 ∧ n.size ≤ 2 then none else n.nth? 1

/-! ## Parts -/

/-- The number of networks of prefix length `target` inside the network, as far
    as 128 bits count it. -/
def partCount (n : Network f) (target : Nat) : Except NetworkError Nat :=
  if target < n.length ∨ f.width < target then .error (.noDivision n.length target)
  else .ok (min (2 ^ (target - n.length)) (2 ^ Family.v6.width - 1))

theorem partOffset_lt (n : Network f) {index target : Nat} (hl : n.length ≤ target)
    (hw : target ≤ f.width) (hi : index < 2 ^ (target - n.length)) :
    index * 2 ^ (f.width - target) < n.size := by
  have hs : 2 ^ (target - n.length) * 2 ^ (f.width - target) = n.size := by
    rw [size, ← Nat.pow_add]; congr 1; omega
  rw [← hs]
  exact Nat.mul_lt_mul_of_pos_right hi (Nat.two_pow_pos _)

theorem part_lt (n : Network f) {index target : Nat} (hl : n.length ≤ target) (hw : target ≤ f.width)
    (hi : index < 2 ^ (target - n.length)) : n.base + index * 2 ^ (f.width - target) < 2 ^ f.width := by
  have := n.partOffset_lt hl hw hi
  have := n.base_add_size_le
  omega

theorem part_aligned (n : Network f) {index target : Nat} (hl : n.length ≤ target) :
    2 ^ (f.width - target) ∣ n.base + index * 2 ^ (f.width - target) :=
  Nat.dvd_add (Nat.dvd_trans (Nat.pow_dvd_pow 2 (by omega)) n.aligned) (Nat.dvd_mul_left _ _)

/-- The network number `index` among those of prefix length `target`. -/
def part (n : Network f) (index target : Nat) : Except NetworkError (Network f) :=
  if h : n.length ≤ target ∧ target ≤ f.width then
    if hi : index < min (2 ^ (target - n.length)) (2 ^ Family.v6.width - 1) then
      .ok {
        base := n.base + index * 2 ^ (f.width - target)
        length := target
        length_le := h.2
        base_lt := n.part_lt h.1 h.2 (Nat.lt_of_lt_of_le hi (Nat.min_le_left _ _))
        aligned := n.part_aligned h.1 }
    else .error (.noPart index (min (2 ^ (target - n.length)) (2 ^ Family.v6.width - 1)) n.length target)
  else .error (.noDivision n.length target)

/-! ## Text -/

def text (n : Network f) : String :=
  s!"{n.first.text}/{n.length}"

/-- The network with a base address and a prefix length; `text` is what an
    error shows. -/
def build (text : String) (a : Address f) (length : Nat) : Except NetworkError (Network f) :=
  if h : length ≤ f.width then
    if ha : 2 ^ (f.width - length) ∣ a.toNat then
      .ok ⟨a.toNat, length, h, a.toNat_lt, ha⟩
    else .error (.hostBits text)
  else .error (.badLength text)

/-- The network with a base address and a prefix length. -/
def new (a : Address f) (length : Nat) : Except NetworkError (Network f) :=
  build s!"{a.text}/{length}" a length

/-- The network that a text writes, with white space around it ignored. -/
def ofText (s : String) : Except NetworkError (Network f) :=
  match Text.cut (· == '/') (Text.trimChars s.toList) with
  | none => .error (.noLength s)
  | some (before, after) =>
    match Text.readUnsigned 255 after with
    | none => .error (.badLength s)
    | some length =>
      match (Address.read? before : Option (Address f)) with
      | none => .error (.badAddress s)
      | some a => build s a length

/-- The network that a text writes, if it writes one. -/
def ofText? (s : String) : Option (Network f) :=
  (ofText s).toOption

end Network

/-- The family of the address or, if the text holds a `/`, the network that it
    writes. -/
def Family.ofText? (s : String) : Option Family :=
  if s.toList.contains '/' then
    if (Network.ofText? s : Option (Network .v4)).isSome then some .v4
    else (Network.ofText? s : Option (Network .v6)).map fun _ => .v6
  else (IpAddress.ofText? s).map (·.family)

end NetworkSite
