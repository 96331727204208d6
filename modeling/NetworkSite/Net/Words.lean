/-
  The arithmetic of networks in machine words.

  A base takes a word of the width of its family, a prefix length one of 8 bits.
  Offsets in an IPv4 network take 64 bits, since a network of prefix length 0 has
  more addresses than a word of 32 bits counts; offsets in an IPv6 network take
  128 bits.

  Sums, differences and shifts are checked: where the result does not fit, or a
  word would be shifted by its whole width, they stop with `Overflow`.
-/
import NetworkSite.Net.Network

namespace NetworkSite

/-- The operations that can overflow. -/
inductive Overflow where
  | sum
  | difference
  /-- The amount of a shift is not below the width of the word. -/
  | shift
  deriving DecidableEq

namespace Word

variable {v w : Nat}

def add (x y : BitVec w) : Except Overflow (BitVec w) :=
  if x.uaddOverflow y then .error .sum else .ok (x + y)

def sub (x y : BitVec w) : Except Overflow (BitVec w) :=
  if x.usubOverflow y then .error .difference else .ok (x - y)

/-- The bits of a word moved up; those beyond its width are lost. -/
def shiftLeft (x : BitVec w) (amount : BitVec v) : Except Overflow (BitVec w) :=
  if w ≤ amount.toNat then .error .shift else .ok (x <<< amount)

end Word

/-- The number of bits of an offset in a network. -/
def Family.offsetWidth : Family → Nat
  | v4 => 64
  | v6 => 128

/-- The number of an address as a word. -/
def Address.word {f : Family} (a : Address f) : BitVec f.width :=
  BitVec.ofNatLT a.toNat a.toNat_lt

/-- The address with a word as its number. -/
def Address.ofWord {f : Family} (x : BitVec f.width) : Address f :=
  ⟨x.toNat, x.isLt⟩

/-- A base and a prefix length as words. -/
@[ext]
structure WordNetwork (f : Family) where
  base : BitVec f.width
  length : BitVec 8

namespace WordNetwork

variable {f : Family}

/-- The word with exactly the bits of the prefix.  A word cannot be shifted by
    its whole width, so that no bits at all are a case of its own. -/
def mask (n : WordNetwork f) : Except Overflow (BitVec f.width) :=
  if n.length = 0 then .ok 0
  else do
    let rest ← Word.sub (BitVec.ofNat 8 f.width) n.length
    Word.shiftLeft (BitVec.allOnes f.width) rest

/-- The word with exactly the bits beyond the prefix: the last offset. -/
def hostMask (n : WordNetwork f) : Except Overflow (BitVec f.width) := do
  return ~~~(← n.mask)

/-- The network with a base address and a prefix length; `text` is what an error
    shows. -/
def build (text : String) (a : BitVec f.width) (length : BitVec 8) :
    Except Overflow (Except NetworkError (WordNetwork f)) :=
  if BitVec.ofNat 8 f.width < length then return .error (.badLength text)
  else do
    let n : WordNetwork f := ⟨a, length⟩
    if a &&& (← n.hostMask) = 0 then return .ok n else return .error (.hostBits text)

def last (n : WordNetwork f) : Except Overflow (BitVec f.width) := do
  return n.base ||| (← n.hostMask)

def contains (n : WordNetwork f) (a : BitVec f.width) : Except Overflow Bool := do
  return a &&& (← n.mask) == n.base

/-- The second base is only looked at if the first one is outside. -/
def overlaps (m n : WordNetwork f) : Except Overflow Bool := do
  if ← m.contains n.base then return true else n.contains m.base

/-- The number of addresses of an IPv4 network. -/
def size (n : WordNetwork .v4) : Except Overflow (BitVec Family.v4.offsetWidth) := do
  let rest ← Word.sub 32#32 (n.length.setWidth 32)
  Word.shiftLeft 1 rest

/-- The offset is one in the network.  No word counts the addresses of every IPv6
    network, so that there it is compared with the last offset. -/
def hasOffset : {f : Family} → WordNetwork f → BitVec f.offsetWidth → Except Overflow Bool
  | .v4, n, offset => do return offset < (← n.size)
  | .v6, n, offset => do return offset.setWidth Family.v6.width ≤ (← n.hostMask)

/-- The address at an offset.  The offset is cut down to the width of an address
    once it is known to be in the network. -/
def nth? (n : WordNetwork f) (offset : BitVec f.offsetWidth) :
    Except Overflow (Option (BitVec f.width)) := do
  if ← n.hasOffset offset then return some (← Word.add n.base (offset.setWidth f.width))
  else return none

def offset? (n : WordNetwork f) (a : BitVec f.width) :
    Except Overflow (Option (BitVec f.offsetWidth)) := do
  if ← n.contains a then return some ((← Word.sub a n.base).setWidth f.offsetWidth)
  else return none

def gateway? : {f : Family} → WordNetwork f → Except Overflow (Option (BitVec f.width))
  | .v4, n => do if 2 < (← n.size) then n.nth? 1 else return none
  | .v6, n => n.nth? 1

/-- The number of networks of a prefix length inside an IPv6 network, as far as
    128 bits count it. -/
def partCount (n : WordNetwork .v6) (target : BitVec 8) :
    Except Overflow (Except NetworkError (BitVec Family.v6.width)) :=
  if target < n.length ∨ 128#8 < target then
    return .error (.noDivision n.length.toNat target.toNat)
  else do
    let bits ← Word.sub target n.length
    if 128#8 ≤ bits then return .ok (BitVec.allOnes Family.v6.width)
    else return .ok (← Word.shiftLeft 1 bits)

/-- The distance of a part from the base: its index, moved to the bits in front of
    the prefix length `target`. -/
def partOffset (index : BitVec 64) (target : BitVec 8) :
    Except Overflow (BitVec Family.v6.width) := do
  let rest ← Word.sub 128#32 (target.setWidth 32)
  if 128#32 ≤ rest then return 0 else Word.shiftLeft (index.setWidth Family.v6.width) rest

/-- The network number `index` among those of prefix length `target`. -/
def part (n : WordNetwork .v6) (index : BitVec 64) (target : BitVec 8) :
    Except Overflow (Except NetworkError (WordNetwork .v6)) := do
  match ← n.partCount target with
  | .error e => return .error e
  | .ok count =>
    if count ≤ index.setWidth Family.v6.width then
      return .error (.noPart index.toNat count.toNat n.length.toNat target.toNat)
    else return .ok ⟨n.base ||| (← partOffset index target), target⟩

end WordNetwork

/-- The network as words. -/
def Network.words {f : Family} (n : Network f) : WordNetwork f where
  base := n.first.word
  length := BitVec.ofNat 8 n.length

end NetworkSite
