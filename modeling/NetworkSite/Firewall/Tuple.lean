/-
  Rule tuples: the concrete rules of a firewall.

  A tuple opens one protocol, with its ports, from one endpoint to another.
  Tuples are sorted by `RuleTuple.key`; of tuples with one key the first stays
  (`RuleTuple.normalize`).
-/
import NetworkSite.Firewall.Service
import NetworkSite.Net.AddressText

namespace NetworkSite

/-- The zone of everything outside the site. -/
def internetZone : String := "internet"

/-- The zone of the router itself. -/
def firewallZone : String := "firewall"

/-- One side of a tuple. -/
inductive Endpoint where
  | vlan (name : String)
  | internet
  | firewall
  | host (vlan hostname : String) (addresses : List IpAddress)
  | address (zone : String) (address : IpAddress)
  | ipset (zone name : String)
  deriving DecidableEq

namespace Endpoint

/-- The name of the vlan, or of the zone outside the vlans. -/
def zone : Endpoint → String
  | vlan name => name
  | internet => internetZone
  | firewall => firewallZone
  | host name _ _ => name
  | address zone _ => zone
  | ipset zone _ => zone

/-- The name by which tuples are sorted. -/
def name : Endpoint → String
  | vlan name => name
  | internet => internetZone
  | firewall => firewallZone
  | host name hostname _ => s!"{name}:{hostname}"
  | address zone a => s!"{zone}:{a.text}"
  | ipset zone name => s!"{zone}:+{name}"

/-- The endpoint is less than a whole zone. -/
def isNarrowed : Endpoint → Bool
  | vlan _ | internet | firewall => false
  | host .. | address .. | ipset .. => true

end Endpoint

/-- What a tuple does with a connection. -/
inductive TupleAction where
  | accept
  /-- Redirects it to the destination. -/
  | forward
  deriving DecidableEq

/-- The place in the order of actions. -/
def TupleAction.rank : TupleAction → Nat
  | accept => 0
  | forward => 1

/-- A concrete rule. -/
structure RuleTuple where
  source : Endpoint
  destination : Endpoint
  protocol : Protocol
  ports : Option PortRange
  action : TupleAction
  comment : String
  deriving DecidableEq

/-- What tuples are sorted by: the names of the endpoints, then protocol, ports
    and action by their places in order. -/
structure RuleKey where
  source : String
  destination : String
  ranks : List Nat
  deriving DecidableEq

namespace RuleKey

/-- The first difference counts. -/
def cmp : RuleKey → RuleKey → Ordering :=
  compareLex (compareOn source) (compareLex (compareOn destination) (compareOn ranks))

instance : Ord RuleKey := ⟨cmp⟩

end RuleKey

namespace RuleTuple

/-- The places of ports in order: none go before all others. -/
def portRanks : Option PortRange → List Nat
  | none => [0, 0]
  | some r => [r.first, r.last]

/-- The key of a tuple; the comment does not count. -/
def key (t : RuleTuple) : RuleKey where
  source := t.source.name
  destination := t.destination.name
  ranks := t.protocol.rank :: (portRanks t.ports ++ [t.action.rank])

/-- The key of `a` goes before that of `b` or is the same. -/
def keyLe (a b : RuleTuple) : Bool :=
  (compare a.key b.key).isLE

/-- The tuples without those whose key the one in front has. -/
def dropRepeats : List RuleTuple → List RuleTuple
  | [] => []
  | [t] => [t]
  | t :: u :: rest =>
    if t.key = u.key then dropRepeats (t :: rest) else t :: dropRepeats (u :: rest)
termination_by l => l.length

/-- The tuples in order, one for each key. -/
def normalize (tuples : List RuleTuple) : List RuleTuple :=
  dropRepeats (tuples.mergeSort keyLe)

end RuleTuple

end NetworkSite
