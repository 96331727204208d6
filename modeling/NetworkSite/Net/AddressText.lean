/-
  Addresses as text.

  An IPv4 address is four decimal octets without leading zeros, with dots
  between them.  An IPv6 address is eight groups of up to four hexadecimal
  digits with colons between them, where one run of zero groups may be written
  `::` and the last two groups may be written as an IPv4 address.

  * `Address.chars` is the canonical text.  For IPv6 the longest run of at
    least two zero groups, the first one of equally long runs, becomes `::`,
    and an address that embeds an IPv4 address below `::ffff:` shows it.
  * `Address.read?` reads every accepted text.
-/
import NetworkSite.Net.Address
import NetworkSite.Text.Numeral
import NetworkSite.Text.Split

namespace NetworkSite

open Text

/-! ## IPv4 -/

namespace Octets

/-- The four octets of the number of an IPv4 address, the highest first. -/
def ofNat (n : Nat) : List Nat :=
  [3, 2, 1, 0].map fun (k : Nat) => n / 256 ^ k % 256

/-- Four octets with dots between them. -/
def chars (n : Nat) : List Char :=
  join ['.'] ((ofNat n).map decimal)

/-- One octet: at most three digits, no leading zero, at most 255. -/
def readOne? (cs : List Char) : Option Nat :=
  if 3 < cs.length || (1 < cs.length && cs.head? == some '0') then none
  else
    match readDigits 10 cs with
    | some n => if n ≤ 255 then some n else none
    | none => none

/-- The number of an IPv4 address from its text. -/
def read? (cs : List Char) : Option Nat :=
  match (split (· == '.') cs).mapM readOne? with
  | some [a, b, c, d] => some (((a * 256 + b) * 256 + c) * 256 + d)
  | _ => none

end Octets

/-! ## IPv6 -/

namespace Groups

/-- The eight groups of the number of an IPv6 address, the highest first. -/
def ofNat (n : Nat) : List Nat :=
  [7, 6, 5, 4, 3, 2, 1, 0].map fun (k : Nat) => n / 65536 ^ k % 65536

/-- The number made of groups. -/
def toNat (groups : List Nat) : Nat :=
  groups.foldl (fun n g => n * 65536 + g) 0

/-- The count of zero groups at the front. -/
def leadingZeros (groups : List Nat) : Nat :=
  (groups.takeWhile (· == 0)).length

/-- Start and length of the longest run of zero groups, the first one of
    equally long runs. -/
def longestZeroRun (groups : List Nat) : Nat × Nat :=
  (List.range groups.length).foldl
    (fun best i =>
      let n := leadingZeros (groups.drop i)
      if best.2 < n then (i, n) else best)
    (0, 0)

/-- Groups with colons between them. -/
def plainChars (groups : List Nat) : List Char :=
  join [':'] (groups.map hex)

/-- The canonical text of the address with number `n`. -/
def chars (n : Nat) : List Char :=
  if n / 2 ^ Family.v4.width == 0xFFFF then
    "::ffff:".toList ++ Octets.chars (n % 2 ^ Family.v4.width)
  else
    let groups := ofNat n
    let (start, count) := longestZeroRun groups
    if 2 ≤ count then
      plainChars (groups.take start) ++ [':', ':'] ++ plainChars (groups.drop (start + count))
    else plainChars groups

/-- One group: one to four hexadecimal digits. -/
def readOne? (cs : List Char) : Option Nat :=
  if 4 < cs.length then none else readDigits 16 cs

/-- Groups with colons between them; none for the empty text. -/
def readHead? (cs : List Char) : Option (List Nat) :=
  if cs.isEmpty then some [] else (split (· == ':') cs).mapM readOne?

/-- The groups of the pieces between colons, where the last piece may be an
    IPv4 address, which counts as two groups. -/
def readPieces? : List (List Char) → Option (List Nat)
  | [] => some []
  | [piece] =>
    match Octets.read? piece with
    | some n => some [n / 65536, n % 65536]
    | none => (readOne? piece).map ([·])
  | piece :: pieces => do
    let group ← readOne? piece
    return group :: (← readPieces? pieces)

/-- Like `readHead?`, and the end may be an IPv4 address. -/
def readTail? (cs : List Char) : Option (List Nat) :=
  if cs.isEmpty then some [] else readPieces? (split (· == ':') cs)

/-- The texts before and after the first `::`. -/
def cutAtGap : List Char → Option (List Char × List Char)
  | ':' :: ':' :: rest => some ([], rest)
  | c :: rest => (cutAtGap rest).map fun (before, after) => (c :: before, after)
  | [] => none

/-- The eight groups that a text writes. -/
def readAll? (cs : List Char) : Option (List Nat) := do
  match cutAtGap cs with
  | none =>
    let groups ← readTail? cs
    if groups.length = 8 then some groups else none
  | some (before, after) =>
    let head ← readHead? before
    let tail ← readTail? after
    if head.length + tail.length ≤ 7 then
      some (head ++ List.replicate (8 - head.length - tail.length) 0 ++ tail)
    else none

/-- The number of an IPv6 address from its text. -/
def read? (cs : List Char) : Option Nat :=
  (readAll? cs).map toNat

end Groups

/-! ## Either family -/

namespace Address

/-- The canonical text of an address. -/
def chars : {f : Family} → Address f → List Char
  | .v4, a => Octets.chars a.toNat
  | .v6, a => Groups.chars a.toNat

/-- The canonical text of an address. -/
def text {f : Family} (a : Address f) : String :=
  String.ofList a.chars

/-- The address that a text writes. -/
def read? : {f : Family} → List Char → Option (Address f)
  | .v4, cs => (Octets.read? cs).bind ofNat?
  | .v6, cs => (Groups.read? cs).bind ofNat?

/-- The address that a text writes. -/
def ofText? {f : Family} (s : String) : Option (Address f) :=
  read? s.toList

end Address

namespace IpAddress

/-- The canonical text of an address. -/
def text : IpAddress → String
  | v4 a => a.text
  | v6 a => a.text

/-- The address of either family that a text writes. -/
def ofText? (s : String) : Option IpAddress :=
  match (Address.ofText? s : Option (Address .v4)) with
  | some a => some (v4 a)
  | none => (Address.ofText? s).map v6

end IpAddress

end NetworkSite
