/-
  Findings: what can be wrong with the definition of a site.
-/
import NetworkSite.Net.AddressText

namespace NetworkSite

/-- The part of a site that a finding is about. -/
inductive Place where
  | site
  | switch (name : String)
  | vlan (name : String)
  /-- The list of vlans that a vlan may reach. -/
  | accessOf (vlan : String)
  | host (hostname : String)
  | interface (hostname name : String)
  | staticHost (vlan hostname : String)
  | reservation (vlan hostname : String)
  /-- An address with its owner. -/
  | entry (vlan owner : String)
  | ipset (name : String)
  | rule (comment : String)
  /-- A rule without comment, by its number. -/
  | ruleNumber (n : Nat)
  deriving DecidableEq

def Place.text : Place → String
  | site => "site"
  | switch name => s!"vswitch '{name}'"
  | vlan name => s!"vlan '{name}'"
  | accessOf name => s!"vlan '{name}' access_vlans"
  | host hostname => s!"host '{hostname}'"
  | interface hostname name => s!"host '{hostname}' interface '{name}'"
  | staticHost name hostname => s!"vlan '{name}' static host '{hostname}'"
  | reservation name hostname => s!"vlan '{name}' reservation '{hostname}'"
  | entry name owner => s!"vlan '{name}' entry '{owner}'"
  | ipset name => s!"ipset '{name}'"
  | rule comment => s!"firewall rule '{comment}'"
  | ruleNumber n => s!"firewall rule #{n}"

/-- Something wrong with a site. -/
inductive Finding where
  | duplicateName (kind name : String)
  | unknownReference (place : Place) (kind name : String)
  | invalidField (place : Place) (field reason : String)
  | subnetOverlap (vlan subnet other otherSubnet : String)
  /-- The offsets of leased addresses do not fit a subnet. -/
  | poolOutOfSubnet (vlan subnet : String) (first last : Nat)
  /-- A fixed address lies among the leased ones. -/
  | addressInPool (vlan : String) (address : IpAddress) (owner : String) (first last : IpAddress)
  | duplicateAddress (address : IpAddress) (owner other : String)
  | addressOutsideSubnet (place : Place) (address : IpAddress) (subnet : String)
  | internetAddressInVlan (place : Place) (address : IpAddress) (vlan : String)
  | severalDefaultVlans (vlans : List String)
  | severalUntaggedVlans (switch : String)
  | duplicateVlanId (switch : String) (id : Nat)
  | severalRouters (hosts : List String)
  /-- Virtual machines that run on each other. -/
  | hostingCycle (hosts : List String)
  deriving DecidableEq

namespace Finding

def message : Finding → String
  | duplicateName kind name => s!"duplicate {kind} '{name}'"
  | unknownReference place kind name => s!"{place.text}: unknown {kind} '{name}'"
  | invalidField place field reason => s!"{place.text}: invalid {field}: {reason}"
  | subnetOverlap vlan subnet other otherSubnet =>
    s!"subnet {subnet} of vlan '{vlan}' overlaps {otherSubnet} of vlan '{other}'"
  | poolOutOfSubnet vlan subnet first last =>
    s!"vlan '{vlan}': DHCP pool offsets {first}-{last} do not fit inside {subnet}"
  | addressInPool vlan address owner first last =>
    s!"vlan '{vlan}': {address.text} of '{owner}' lies inside the DHCP pool {first.text}-{last.text}"
  | duplicateAddress address owner other =>
    s!"duplicate address {address.text} for '{owner}'; already claimed by '{other}'"
  | addressOutsideSubnet place address subnet =>
    s!"{place.text}: address {address.text} is outside subnet {subnet}"
  | internetAddressInVlan place address vlan =>
    s!"{place.text}: address {address.text} is in vlan '{vlan}', not on the internet"
  | severalDefaultVlans vlans => "more than one default vlan: " ++ ", ".intercalate vlans
  | severalUntaggedVlans switch => s!"vswitch '{switch}' has more than one untagged vlan"
  | duplicateVlanId switch id => s!"vswitch '{switch}' uses vlan id {id} more than once"
  | severalRouters hosts => "more than one router: " ++ ", ".intercalate hosts
  | hostingCycle hosts => "hosting cycle between hosts: " ++ ", ".intercalate hosts

/-- The finding, unless the condition holds. -/
def require (holds : Bool) (finding : Finding) : List Finding :=
  if holds then [] else [finding]

/-- The finding, if the condition holds. -/
def forbid (holds : Bool) (finding : Finding) : List Finding :=
  if holds then [finding] else []

@[simp]
theorem require_eq_nil {holds : Bool} {finding : Finding} :
    require holds finding = [] ↔ holds = true := by
  cases holds <;> simp [require]

@[simp]
theorem forbid_eq_nil {holds : Bool} {finding : Finding} :
    forbid holds finding = [] ↔ holds = false := by
  cases holds <;> simp [forbid]

end Finding

end NetworkSite
