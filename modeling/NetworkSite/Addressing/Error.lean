/-
  Addressing errors: why a site cannot be given its addresses.

  The errors of a site are reported together.  A lookup of claims between
  bounds that are crossed is no such error: it ends the run at once.
-/
import NetworkSite.Net.Network

namespace NetworkSite

/-- Why there is no address plan; each error is about one vlan. -/
inductive AddressingError where
  | badSubnet (vlan : String) (error : NetworkError)
  | conflict (vlan : String) (address : IpAddress) (owner other : String)
  /-- All addresses from `first` to `last` are taken. -/
  | poolExhausted (vlan : String) (first last : IpAddress)
  /-- The delegated prefix has fewer subnets than the index needs. -/
  | delegationOverflow (vlan : String) (index available length target : Nat)
  | badDelegationLength (vlan : String) (length target : Nat)
  /-- No uplink of a router asks for a prefix. -/
  | noDelegation (vlan : String)
  | sharedDelegationIndex (vlan other : String) (index : Nat)
  | ipv6Overlap (vlan subnet other otherSubnet : String)
  deriving DecidableEq

def AddressingError.message : AddressingError → String
  | badSubnet vlan error => s!"vlan '{vlan}': invalid subnet: {error.message}"
  | conflict vlan address owner other =>
    s!"vlan '{vlan}': address {address.text} for '{owner}' is already claimed by '{other}'"
  | poolExhausted vlan first last =>
    s!"vlan '{vlan}': DHCP pool {first.text}-{last.text} has no free addresses"
  | delegationOverflow vlan index available length target =>
    s!"vlan '{vlan}': prefix delegation index {index} exceeds the {available} /{target} subnets of a /{length}"
  | badDelegationLength vlan length target =>
    s!"vlan '{vlan}': cannot carve a /{target} out of a delegated /{length}"
  | noDelegation vlan =>
    s!"vlan '{vlan}' uses prefix delegation but no router uplink requests a delegated prefix"
  | sharedDelegationIndex vlan other index =>
    s!"vlans '{vlan}' and '{other}' both use prefix delegation index {index}"
  | ipv6Overlap vlan subnet other otherSubnet =>
    s!"vlan '{vlan}': IPv6 subnet {subnet} overlaps {otherSubnet} of vlan '{other}'"

/-- How the addressing of a site ends without a plan. -/
inductive AddressingFailure where
  /-- Everything that stands in the way of a plan. -/
  | errors (all : List AddressingError)
  /-- Claims were looked up from `first` to `last`, which lies before it. -/
  | crossed (first last : IpAddress)
  deriving DecidableEq

end NetworkSite
