/-
  Addresses of the two IP families.

  An address is a number below `2 ^ 32` (IPv4) or `2 ^ 128` (IPv6).  The type
  `Address f` is indexed by the family, so that networks, pools and ranges are
  defined once for both; `IpAddress` is an address of either family.  All
  addresses are ordered by `IpAddress.key`: IPv4 before IPv6, then by value.
-/
import NetworkSite.Text.Numeral

namespace NetworkSite

/-- The two address families. -/
inductive Family where
  | v4
  | v6
  deriving DecidableEq, Inhabited

/-- The number of bits of an address. -/
def Family.width : Family → Nat
  | v4 => 32
  | v6 => 128

/-- An address of one family. -/
@[ext]
structure Address (f : Family) where
  toNat : Nat
  toNat_lt : toNat < 2 ^ f.width
  deriving DecidableEq

namespace Address

variable {f : Family}

/-- The address with number `n`, if there is one. -/
def ofNat? (n : Nat) : Option (Address f) :=
  if h : n < 2 ^ f.width then some ⟨n, h⟩ else none

/-- The address whose number agrees with `n` in the low bits. -/
def ofNat (n : Nat) : Address f :=
  ⟨n % 2 ^ f.width, Nat.mod_lt _ (Nat.two_pow_pos _)⟩

instance : Inhabited (Address f) := ⟨ofNat 0⟩

instance : LE (Address f) := ⟨fun a b => a.toNat ≤ b.toNat⟩

instance (a b : Address f) : Decidable (a ≤ b) := inferInstanceAs (Decidable (a.toNat ≤ b.toNat))

theorem le_def {a b : Address f} : a ≤ b ↔ a.toNat ≤ b.toNat := Iff.rfl

end Address

/-- An address of either family. -/
inductive IpAddress where
  | v4 (a : Address .v4)
  | v6 (a : Address .v6)
  deriving DecidableEq

namespace IpAddress

/-- An address of a known family. -/
def of : {f : Family} → Address f → IpAddress
  | .v4, a => .v4 a
  | .v6, a => .v6 a

def family : IpAddress → Family
  | v4 _ => .v4
  | v6 _ => .v6

/-- The number of the address within its family. -/
def toNat : IpAddress → Nat
  | v4 a => a.toNat
  | v6 a => a.toNat

/-- The address as one of family `f`, if it is. -/
def inFamily? : (f : Family) → IpAddress → Option (Address f)
  | .v4, v4 a => some a
  | .v6, v6 a => some a
  | _, _ => none

def isV4 : IpAddress → Bool
  | v4 _ => true
  | v6 _ => false

/-- The place of the address in the order of all addresses. -/
def key : IpAddress → Nat
  | v4 a => a.toNat
  | v6 a => 2 ^ Family.v4.width + a.toNat

instance : LT IpAddress := ⟨fun a b => a.key < b.key⟩
instance : LE IpAddress := ⟨fun a b => a.key ≤ b.key⟩
instance (a b : IpAddress) : Decidable (a < b) := inferInstanceAs (Decidable (a.key < b.key))
instance (a b : IpAddress) : Decidable (a ≤ b) := inferInstanceAs (Decidable (a.key ≤ b.key))

theorem key_inj {a b : IpAddress} (h : a.key = b.key) : a = b := by
  cases a with
  | v4 a =>
    cases b with
    | v4 b => exact congrArg v4 (Address.ext h)
    | v6 b =>
      have ha : a.toNat < 2 ^ Family.v4.width := a.toNat_lt
      simp only [key] at h
      omega
  | v6 a =>
    cases b with
    | v4 b =>
      have hb : b.toNat < 2 ^ Family.v4.width := b.toNat_lt
      simp only [key] at h
      omega
    | v6 b =>
      simp only [key] at h
      exact congrArg v6 (Address.ext (by omega))

end IpAddress

end NetworkSite
