/-
  Names of the reverse DNS.

  An address has one label per octet (IPv4) or per hexadecimal digit (IPv6),
  the last one first.  A network has the labels that its prefix covers wholly.
-/
import NetworkSite.Net.Network

namespace NetworkSite

namespace Family

/-- The domain below which the reverse names of the family lie. -/
def reverseRoot : Family → List Char
  | v4 => "in-addr.arpa".toList
  | v6 => "ip6.arpa".toList

/-- The number of bits of one reverse label. -/
def labelBits : Family → Nat
  | v4 => 8
  | v6 => 4

end Family

namespace Address

/-- The reverse labels of an address in the order of its text. -/
def reverseLabels : {f : Family} → Address f → List (List Char)
  | .v4, a => (Octets.ofNat a.toNat).map Text.decimal
  | .v6, a => (Text.hexPadded 32 a.toNat).map ([·])

/-- The name that owns the reverse record of an address. -/
def reverseName {f : Family} (a : Address f) : String :=
  String.ofList (Text.join ['.'] (a.reverseLabels.reverse ++ [f.reverseRoot]))

end Address

/-- The name that owns the reverse record of an address. -/
def IpAddress.reverseName : IpAddress → String
  | v4 a => a.reverseName
  | v6 a => a.reverseName

/-- The reverse zone that covers a network. -/
def Network.reverseZone {f : Family} (n : Network f) : String :=
  String.ofList
    (Text.join ['.'] ((n.first.reverseLabels.take (n.length / f.labelBits)).reverse ++ [f.reverseRoot]))

end NetworkSite
