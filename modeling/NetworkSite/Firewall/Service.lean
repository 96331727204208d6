/-
  Services: protocols, ports and the catalog of named services.

  A rule names a service of the catalog or gives a protocol with ports; both
  stand for a list of `ServicePort`.
-/
import NetworkSite.Site.Policy
import NetworkSite.Text.Blank
import NetworkSite.Text.Numeral
import NetworkSite.Text.Split

namespace NetworkSite

/-- The protocol of a rule, in the order in which rules are sorted. -/
inductive Protocol where
  /-- Every protocol. -/
  | any
  | icmp
  | tcp
  | udp
  deriving DecidableEq

namespace Protocol

def name : Protocol → String
  | any => "all"
  | icmp => "icmp"
  | tcp => "tcp"
  | udp => "udp"

/-- The place in the order of protocols. -/
def rank : Protocol → Nat
  | any => 0
  | icmp => 1
  | tcp => 2
  | udp => 3

def hasPorts : Protocol → Bool
  | tcp | udp => true
  | any | icmp => false

/-- The form in which names of protocols are compared. -/
def canonical (s : String) : String :=
  Text.lower (Text.trim s)

/-- The protocol with this name, where case and white space around it do not
    count. -/
def ofText? (s : String) : Option Protocol :=
  let word := canonical s
  if word == "tcp" then some tcp
  else if word == "udp" then some udp
  else if word == "icmp" then some icmp
  else if word == "all" || word == "any" then some any
  else none

end Protocol

/-- The greatest port. -/
def maxPort : Nat := 65535

/-- The ports from `first` to `last`. -/
@[ext]
structure PortRange where
  first : Nat
  last : Nat
  first_pos : 0 < first := by decide
  first_le_last : first ≤ last := by decide
  last_le : last ≤ maxPort := by decide
  deriving DecidableEq

namespace PortRange

/-- A single port. -/
def single (port : Nat) (pos : 0 < port := by decide) (le : port ≤ maxPort := by decide) : PortRange :=
  { first := port, last := port, first_pos := pos, first_le_last := Nat.le_refl _, last_le := le }

def text (r : PortRange) : String :=
  if r.first = r.last then s!"{r.first}" else s!"{r.first}:{r.last}"

/-- The ports between two numbers, if these are ports in order. -/
def between? (first last : Nat) : Option PortRange :=
  if h : 0 < first ∧ first ≤ last ∧ last ≤ maxPort then
    some { first, last, first_pos := h.1, first_le_last := h.2.1, last_le := h.2.2 }
  else none

/-- The number of a port, with white space around it ignored. -/
def readPort? (cs : List Char) : Option Nat :=
  (Text.readUnsigned maxPort (Text.trimChars cs)).filter (0 < ·)

/-- A port, or two ports in order with `-` or `:` between them. -/
def ofText? (s : String) : Option PortRange :=
  match Text.cut (fun c => c == '-' || c == ':') s.toList with
  | some (first, last) =>
    match readPort? first, readPort? last with
    | some first, some last => between? first last
    | _, _ => none
  | none => (readPort? s.toList).bind fun port => between? port port

theorem between?_eq_some {first last : Nat} {r : PortRange} :
    between? first last = some r ↔ r.first = first ∧ r.last = last := by
  unfold between?
  split
  next => rw [Option.some.injEq, PortRange.ext_iff, eq_comm, eq_comm (a := last)]
  next h =>
    refine iff_of_false nofun ?_
    rintro ⟨rfl, rfl⟩
    exact h ⟨r.first_pos, r.first_le_last, r.last_le⟩

theorem readPort?_eq_some {cs : List Char} {n : Nat} :
    readPort? cs = some n ↔
      Text.readDigits 10 (Text.dropPlus (Text.trimChars cs)) = some n ∧ 0 < n ∧ n ≤ maxPort := by
  rw [readPort?, Option.filter_eq_some_iff, Text.readUnsigned, Text.readUnsignedIn_eq_some,
    decide_eq_true_eq, and_assoc, and_comm (a := n ≤ maxPort)]

end PortRange

/-- A protocol with its ports, if these matter, and where it comes from. -/
structure ServicePort where
  protocol : Protocol
  ports : Option PortRange
  comment : String
  deriving DecidableEq

/-- A service with a name. -/
structure Service where
  name : String
  ports : List (Protocol × Option PortRange)
  deriving DecidableEq

namespace Service

open Protocol PortRange

/-- The known services. -/
def catalog : List Service := [
  { name := "ping", ports := [(icmp, none)] },
  { name := "traceroute", ports := [(udp, some { first := 33434, last := 33524 }), (icmp, none)] },
  { name := "ssh", ports := [(tcp, some (single 22))] },
  { name := "telnet", ports := [(tcp, some (single 23))] },
  { name := "dns", ports := [(udp, some (single 53)), (tcp, some (single 53))] },
  { name := "dhcp", ports := [(udp, some { first := 67, last := 68 })] },
  { name := "ntp", ports := [(udp, some (single 123))] },
  { name := "samba",
    ports := [(tcp, some (single 139)), (tcp, some (single 445)), (udp, some { first := 137, last := 138 })] },
  { name := "web", ports := [(tcp, some (single 80)), (tcp, some (single 443))] },
  { name := "ftp", ports := [(tcp, some (single 21))] },
  { name := "mail",
    ports := [(tcp, some (single 25)), (tcp, some (single 465)), (tcp, some (single 587))] },
  { name := "pop3", ports := [(tcp, some (single 110))] },
  { name := "imap", ports := [(tcp, some (single 143))] },
  { name := "imaps", ports := [(tcp, some (single 993))] }]

/-- The service with this name, where case and white space around it do not
    count. -/
def ofName? (name : String) : Option Service :=
  catalog.find? fun service => Text.sameIgnoringCase service.name (Text.trim name)

/-- The ports of a service; each remembers its name. -/
def servicePorts (service : Service) : List ServicePort :=
  service.ports.map fun (protocol, ports) => { protocol, ports, comment := service.name }

end Service

/-! ## Services of rules -/

/-- Why the service of a rule has no ports. -/
inductive ServiceError where
  | unknownService (name : String)
  | unknownProtocol (name : String)
  | badPort (text : String)
  deriving DecidableEq

namespace ServiceSpec

/-- One port value of a protocol. -/
def portOf (protocol : Protocol) (comment : String) (value : PortValue) :
    Except ServiceError ServicePort :=
  match PortRange.ofText? value.toText with
  | some range => .ok { protocol, ports := some range, comment }
  | none => .error (.badPort value.toText)

/-- The ports that a service stands for. -/
def resolve : ServiceSpec → Except ServiceError (List ServicePort)
  | named name =>
    match Service.ofName? name with
    | some service => .ok service.servicePorts
    | none => .error (.unknownService name)
  | ports name values comment =>
    match Protocol.ofText? name with
    | none => .error (.unknownProtocol (Protocol.canonical name))
    | some protocol =>
      if protocol.hasPorts then values.values.mapM (portOf protocol comment)
      else .error (.badPort s!"{protocol.name} has no ports")

theorem resolve_ports_eq_ok {name comment : String} {values : PortSpec}
    {entries : List ServicePort} :
    (ports name values comment).resolve = .ok entries ↔
      ∃ protocol, Protocol.ofText? name = some protocol ∧ protocol.hasPorts = true ∧
        values.values.mapM (portOf protocol comment) = .ok entries := by
  rw [resolve]
  cases Protocol.ofText? name with
  | none => simp
  | some protocol => cases hports : protocol.hasPorts <;> simp [hports]

end ServiceSpec

end NetworkSite
