/-
  MAC addresses.

  The canonical text is six groups of two hexadecimal digits in lower case
  with colons between them.  A virtual machine without a declared MAC address
  gets one that only depends on the names of site, host and interface.
-/
import NetworkSite.Net.Keystream
import NetworkSite.Text.Blank
import NetworkSite.Text.Numeral
import NetworkSite.Text.Split

namespace NetworkSite.Mac

open Text

/-- The canonical text of the bytes of a MAC address. -/
def format (bytes : List Nat) : String :=
  String.ofList (join [':'] (bytes.map (hexPadded 2)))

/-- The value of one group. -/
def readGroup? (cs : List Char) : Option Nat :=
  if cs.length = 2 then readUnsignedIn 16 255 cs else none

/-- The canonical text of a MAC address written with colons or hyphens. -/
def normalize? (s : String) : Option String :=
  let groups := split (fun c => c == ':' || c == '-') (trimChars s.toList)
  if groups.length = 6 then (groups.mapM readGroup?).map format else none

/-- Folds bytes into a hash. -/
def hashBytes (hash : UInt64) (bytes : List UInt8) : UInt64 :=
  bytes.foldl (fun h b => (h ^^^ b.toUInt64) * 0x100000001b3) hash

/-- The seed of names.  A zero byte ends each name, so that the places where
    one name ends and the next begins count. -/
def seed (names : List String) : UInt64 :=
  names.foldl (fun h s => hashBytes h (s.toUTF8.toList ++ [0])) 0xcbf29ce484222325

/-- The MAC address of an interface of a virtual machine. -/
def generate (site host interface : String) : String :=
  let tail := (Keystream.words (seed [site, host, interface])).take 3
  format ([0x52, 0x54, 0x00] ++ tail.map fun w => w.toNat % 256)

end NetworkSite.Mac
