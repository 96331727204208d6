/-
  Rule text: tuples as the lines of a rule file.

  A line gives action, source, destination, protocol and ports, and the comment
  if there is one, with tabs between them.  Rules for IPv4 and IPv6 are kept
  apart, so a tuple that is narrowed to addresses has one line per family in
  which both sides have addresses.
-/
import NetworkSite.Addressing.Plan
import NetworkSite.Firewall.Tuple

namespace NetworkSite

namespace Endpoint

/-- A zone narrowed to addresses. -/
def addressesText (zone : String) (addresses : List IpAddress) : String :=
  s!"{zone}:" ++ ",".intercalate (addresses.map (·.text))

/-- The endpoint with all its addresses. -/
def text : Endpoint → String
  | vlan name => name
  | internet => internetZone
  | firewall => "$FW"
  | host name _ addresses => addressesText name addresses
  | address zone a => addressesText zone [a]
  | ipset zone name => s!"{zone}:+{name}"

/-- The endpoint consists of addresses of one family or both. -/
def hasFamily : Endpoint → Bool
  | host _ _ addresses => !addresses.isEmpty
  | address .. => true
  | _ => false

/-- The endpoint with its addresses of one family, if it has any; an endpoint
    without addresses stands for both families. -/
def textIn? (f : Family) : Endpoint → Option String
  | host name _ addresses =>
    match addresses.filter (·.family == f) with
    | [] => none
    | own => some (addressesText name own)
  | address zone a => if a.family == f then some (addressesText zone [a]) else none
  | e => some e.text

end Endpoint

/-- The word for an action. -/
def TupleAction.word : TupleAction → String
  | accept => "ACCEPT"
  | forward => "DNAT"

namespace RuleTuple

def portsText (t : RuleTuple) : String :=
  match t.ports with
  | some ports => ports.text
  | none => "-"

/-- The line of a tuple between two endpoint texts. -/
def line (t : RuleTuple) (source destination : String) : String :=
  "\t".intercalate
    ([t.action.word, source, destination, t.protocol.name, t.portsText] ++
      if t.comment.isEmpty then [] else ["# " ++ t.comment])

/-- The line of a tuple in one family, if both sides have addresses there. -/
def lineIn? (t : RuleTuple) (f : Family) : Option String :=
  match t.source.textIn? f, t.destination.textIn? f with
  | some source, some destination => some (t.line source destination)
  | _, _ => none

/-- The lines of a tuple. -/
def lines (t : RuleTuple) : List String :=
  if t.source.hasFamily || t.destination.hasFamily then [Family.v4, Family.v6].filterMap t.lineIn?
  else [t.line t.source.text t.destination.text]

def text (t : RuleTuple) : String :=
  "\n".intercalate t.lines

/-- The text of tuples, one line after the other. -/
def textOf (tuples : List RuleTuple) : String :=
  "\n".intercalate (tuples.flatMap (·.lines))

/-- The tuple admits connections to the host or to a vlan that it is on. -/
def concerns (t : RuleTuple) (h : PlannedHost) : Bool :=
  t.action == .accept &&
    match t.destination with
    | .host _ hostname _ => hostname == h.hostname
    | .vlan name => h.isOn name
    | _ => false

/-- The tuples that a host enforces: a router all of them, any other host those
    about connections to itself. -/
def rulesFor (tuples : List RuleTuple) (h : PlannedHost) (isRouter : Bool) : List RuleTuple :=
  if isRouter then tuples else tuples.filter (·.concerns h)

end RuleTuple

end NetworkSite
