/-
  Checks of switches and vlans: names, tags, domains and access lists.
-/
import NetworkSite.Check.Finding
import NetworkSite.Data.Earlier
import NetworkSite.Site.Basic
import NetworkSite.Text.Label

namespace NetworkSite

open Finding

namespace Vlan

/-- The tag is one that frames can carry, and no earlier vlan of the switch has
    it. -/
def idFindings (switch : Switch) (earlier : List Vlan) (v : Vlan) : List Finding :=
  match v.id with
  | none => []
  | some id =>
    require (1 ≤ id && id ≤ 4094) (.invalidField (.vlan v.name) "id" s!"{id} is not in 1-4094") ++
      forbid (earlier.any (·.id == some id)) (.duplicateVlanId switch.name id)

/-- The name stands for something else where locators use it. -/
def isReservedName (name : String) : Bool :=
  ["all", "internet", "firewall"].any (Text.sameIgnoringCase · name)

/-- The name is neither that of an earlier vlan, up to its case, nor reserved. -/
def nameFindings (earlier : List Vlan) (v : Vlan) : List Finding :=
  forbid (earlier.any fun w => Text.lower w.name == Text.lower v.name) (.duplicateName "vlan" v.name) ++
    forbid (isReservedName v.name)
      (.invalidField (.vlan v.name) "name" "name is reserved for firewall locators")

/-- The domain lies below the one of the site. -/
def domainFindings (s : Site) (v : Vlan) : List Finding :=
  if !Text.isDomain v.domain then
    [.invalidField (.vlan v.name) "domain" s!"'{v.domain}' is not a valid domain"]
  else
    require (v.domain.isEmpty || Text.isSubdomain v.domain s.domain)
      (.invalidField (.vlan v.name) "domain" s!"'{v.domain}' is not a subdomain of '{s.domain}'")

/-- The vlans that it may reach exist. -/
def accessFindings (s : Site) (v : Vlan) : List Finding :=
  v.accessVlans.flatMap fun ref =>
    require (ref.isAll || (s.lookupVlan? none ref).isSome)
      (.unknownReference (.accessOf v.name) "vlan" ref.text)

end Vlan

namespace Switch

/-- Findings on a switch itself; `before` are the switches in front of it. -/
def ownFindings (before : List Switch) (switch : Switch) : List Finding :=
  forbid (before.any (·.name == switch.name)) (.duplicateName "vswitch" switch.name) ++
    (match switch.uplink with
      | some uplink =>
        forbid (before.any (·.uplink == some uplink)) (.duplicateName "vswitch uplink" uplink)
      | none => []) ++
    forbid switch.vlans.isEmpty
      (.invalidField (.switch switch.name) "vlans" "at least one vlan is required")

/-- Findings on the vlans of a switch, each with those in front of it. -/
def vlanFindings (s : Site) (before : List Switch) (switch : Switch) : List Finding :=
  (withEarlier switch.vlans).flatMap fun (earlier, v) =>
    v.idFindings switch earlier ++ v.nameFindings (before.flatMap (·.vlans) ++ earlier) ++
      v.domainFindings s ++ v.accessFindings s

/-- A switch has at most one vlan without tag. -/
def untaggedFindings (switch : Switch) : List Finding :=
  forbid (1 < switch.vlans.countP (·.id.isNone)) (.severalUntaggedVlans switch.name)

end Switch

namespace Site

/-- At most one vlan is the default one. -/
def defaultFindings (s : Site) : List Finding :=
  let defaults := s.vlans.filter (·.2.isDefault)
  forbid (1 < defaults.length) (.severalDefaultVlans (defaults.map (·.2.name)))

/-- Findings on switches and vlans. -/
def switchFindings (s : Site) : List Finding :=
  forbid s.switches.isEmpty (.invalidField .site "vswitches" "at least one vswitch is required") ++
    ((withEarlier s.switches).flatMap fun (before, switch) =>
      switch.ownFindings before ++ switch.vlanFindings s before ++ switch.untaggedFindings) ++
    s.defaultFindings

end Site

end NetworkSite
