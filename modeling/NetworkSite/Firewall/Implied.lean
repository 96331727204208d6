/-
  Implied rules: what the settings of vlans and the roles of hosts open.

  * a vlan may reach the vlans of its access list and, if it is allowed to, the
    internet;
  * the router answers pings of all vlans, pings them, and may look around in
    the internet;
  * all vlans may use the servers for addresses, names and time.
-/
import NetworkSite.Site.Basic

namespace NetworkSite

/-- The roles that serve all vlans, with the names of their services. -/
def servingRoles : List (Role × String) :=
  [(.dhcp, "dhcp"), (.dns, "dns"), (.ntp, "ntp")]

namespace Vlan

/-- The rule for one item of the access list. -/
def accessRule (v : Vlan) (ref : VlanRef) : Rule :=
  let target := if ref.isAll then Locator.everywhere else { vlan := ref }
  .opening s!"{v.name} access to {ref.text}" (.ofVlan v.name) target

/-- The rules of a vlan. -/
def impliedRules (v : Vlan) : List Rule :=
  v.accessVlans.map v.accessRule ++
    if v.allowInternet then [.opening s!"{v.name} internet access" (.ofVlan v.name) .outside] else []

end Vlan

/-- The rules of a router. -/
def routerRules : List Rule := [
  .serving "router ping" .router [.everywhere] ["ping"],
  .serving "ping router" .everywhere [.router] ["ping"],
  .serving "router internet" .router [.outside] ["traceroute", "dns"]]

namespace Host

/-- The places where a server can be reached: its fixed IPv4 addresses on
    routable vlans. -/
def serverLocators (s : Site) (h : Host) : List Locator :=
  h.interfaces.filterMap fun i =>
    match i.ipv4, s.interfaceVlan? i with
    | .fixed _, some (_, v) => if v.routable then some (.ofHost v.name h.hostname) else none
    | _, _ => none

/-- The rule that opens a server, if it can be reached. -/
def serverRules (s : Site) (service : String) (h : Host) : List Rule :=
  match h.serverLocators s with
  | [] => []
  | locators => [.serving s!"{service} on {h.hostname}" .everywhere locators [service]]

end Host

/-- The implied rules of a site; a site without routable vlans has none. -/
def Site.impliedRules (s : Site) : List Rule :=
  if s.routableVlans.isEmpty then []
  else
    s.routableVlans.flatMap (·.2.impliedRules) ++
      (if s.router?.isSome then routerRules else []) ++
      servingRoles.flatMap fun (role, service) =>
        (s.hostsWithRole role).flatMap (·.serverRules s service)

end NetworkSite
