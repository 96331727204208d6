/-
  Hosts and their interfaces.
-/
import NetworkSite.Site.Role
import NetworkSite.Site.Vlan

namespace NetworkSite

/-- How an interface gets its address of one family.  A fixed address stays
    text until the site is checked. -/
inductive AddressMode where
  | dhcp
  | slaac
  | fixed (text : String)
  deriving DecidableEq

namespace AddressMode

/-- The mode that a text names; case and white space around it do not count. -/
def ofText (s : String) : AddressMode :=
  let word := Text.lower (Text.trim s)
  if word == "dhcp" then dhcp
  else if word == "slaac" then slaac
  else fixed (Text.trim s)

def text : AddressMode → String
  | dhcp => "dhcp"
  | slaac => "slaac"
  | fixed s => s

end AddressMode

/-- The length of the prefix that a router asks for if it names none. -/
def defaultDelegationLength : Nat := 56

/-- An interface of a host: either it joins a switch, or it is an uplink out of
    the site. -/
structure Interface where
  name : Option String := none
  switch : Option String := none
  vlan : Option VlanRef := none
  /-- The physical interface of an uplink. -/
  uplink : Option String := none
  ipv4 : AddressMode := .dhcp
  /-- Prefix length of a fixed address on an uplink. -/
  ipv4Length : Option Nat := none
  ipv4Gateway : Option String := none
  ipv6 : Option AddressMode := none
  ipv6Disabled : Bool := false
  /-- Asks for a delegated prefix of this length. -/
  delegationLength : Option Nat := none
  asksForPrefix : Bool := false
  /-- The delegated prefix, where it is known in advance. -/
  delegatedPrefix : Option String := none
  mac : Option String := none
  firewallZone : Option String := none
  deriving DecidableEq

namespace Interface

def isUplink (i : Interface) : Bool :=
  i.uplink.isSome

/-- The length of the prefix that the interface asks for, if it does. -/
def requestedLength? (i : Interface) : Option Nat :=
  match i.delegationLength with
  | some n => some n
  | none => if i.asksForPrefix then some defaultDelegationLength else none

end Interface

/-- A host that the site provisions. -/
structure Host where
  hostname : String := ""
  roles : List Role := []
  isVm : Bool := false
  /-- The host that runs this virtual machine. -/
  vmhost : Option String := none
  vcpus : Nat := 1
  memoryMb : Nat := 128
  diskSizeMb : Nat := 256
  /-- Filters its own inbound traffic. -/
  localFirewall : Bool := true
  aliases : List String := []
  interfaces : List Interface := []
  deriving DecidableEq

namespace Host

/-- Every host has the generic role. -/
def hasRole (h : Host) (r : Role) : Bool :=
  r == .generic || h.roles.contains r

/-- Adds to `seen` the items that are not in it yet, in order. -/
def addNew (seen : List Role) : List Role → List Role
  | [] => seen
  | r :: rest => addNew (if seen.contains r then seen else seen ++ [r]) rest

/-- The generic role, then the declared roles without repetition. -/
def effectiveRoles (h : Host) : List Role :=
  addNew [.generic] h.roles

/-- The names of interfaces, where the unnamed ones are numbered from `n`. -/
def namesFrom (n : Nat) : List Interface → List String
  | [] => []
  | i :: rest =>
    match i.name with
    | some name => name :: namesFrom n rest
    | none => s!"eth{n}" :: namesFrom (n + 1) rest

/-- The names of the interfaces; unnamed ones become `eth0`, `eth1`, ... -/
def interfaceNames (h : Host) : List String :=
  namesFrom 0 h.interfaces

/-- The interfaces with their names. -/
def namedInterfaces (h : Host) : List (String × Interface) :=
  h.interfaceNames.zip h.interfaces

end Host

end NetworkSite
