/-
  Checks of hosts: names, aliases, roles, and who runs whom.

  The hosting relation leads from a virtual machine to its host.
  `Site.hostingCycle?` follows it from one host until it ends or comes back to
  a host that was passed; every step passes one host more, so the walk ends.
-/
import NetworkSite.Check.Finding
import NetworkSite.Data.Count
import NetworkSite.Data.Earlier
import NetworkSite.Site.Basic
import NetworkSite.Text.Label

namespace NetworkSite

open Finding

/-- An alias is a DNS label and no name of a role. -/
def aliasFindings (place : Place) (name : String) : List Finding :=
  if !Text.isHostname name then
    [.invalidField place "alias" s!"'{name}' is not a valid DNS label"]
  else forbid (Role.isName name) (.invalidField place "alias" s!"'{name}' is a role name")

namespace Host

/-- Findings on a host itself; `before` are the hosts in front of it. -/
def ownFindings (before : List Host) (h : Host) : List Finding :=
  require (Text.isHostname h.hostname)
      (.invalidField (.host h.hostname) "hostname" "not a valid DNS label") ++
    forbid (before.any (·.hostname == h.hostname)) (.duplicateName "host" h.hostname) ++
    h.aliases.flatMap (aliasFindings (.host h.hostname)) ++
    forbid h.interfaces.isEmpty
      (.invalidField (.host h.hostname) "interfaces" "at least one interface is required")

/-- Exactly the virtual machines name a host that runs them, and that host has
    the role for it. -/
def vmhostFindings (s : Site) (h : Host) : List Finding :=
  match h.vmhost, h.isVm with
  | none, true => [.invalidField (.host h.hostname) "vmhost" "a VM must name its vmhost"]
  | some _, false => [.invalidField (.host h.hostname) "vmhost" "only VMs may name a vmhost"]
  | some vmhost, true =>
    match s.findHost? vmhost with
    | none => [.unknownReference (.host h.hostname) "vmhost" vmhost]
    | some target =>
      require (target.hasRole .vmhost)
        (.invalidField (.host h.hostname) "vmhost" s!"host '{vmhost}' does not have the vmhost role")
  | none, false => []

end Host

namespace Site

/-- Findings on hosts themselves; a site has at most one router. -/
def hostFindings (s : Site) : List Finding :=
  let routers := s.hostsWithRole .router
  ((withEarlier s.hosts).flatMap fun (before, h) => h.ownFindings before) ++
    forbid (1 < routers.length) (.severalRouters (routers.map (·.hostname)))

/-! ## Hosting -/

/-- The host that runs a virtual machine. -/
def vmhost? (s : Site) (h : Host) : Option Host :=
  h.vmhost.bind s.findHost?

/-- The number of hosts whose names are not in the chain. -/
def unpassed (s : Site) (chain : List String) : Nat :=
  s.hosts.countP fun h => !chain.contains h.hostname

theorem unpassed_lt {s : Site} {h parent : Host} {chain : List String} (hp : s.vmhost? h = some parent)
    (hc : chain.contains parent.hostname = false) :
    s.unpassed (chain ++ [parent.hostname]) < s.unpassed chain := by
  obtain ⟨name, _, hname⟩ := Option.bind_eq_some_iff.1 hp
  have hmem : parent ∈ s.hosts := List.mem_of_find?_eq_some hname
  refine countP_lt_countP (fun g _ hg => ?_) hmem ?_ ?_
  · simp only [List.contains_append, Bool.not_eq_true', Bool.or_eq_false_iff] at hg ⊢
    exact hg.1
  · simp
  · rw [hc]; rfl

/-- The hosts of the cycle into which the hosting relation leads from `h`, in
    ascending order; `chain` are the hosts passed on the way, `h` the last. -/
def hostingCycle? (s : Site) (h : Host) (chain : List String) : Option (List String) :=
  match _hp : s.vmhost? h with
  | none => none
  | some parent =>
    if _hc : chain.contains parent.hostname then
      some ((chain.dropWhile (· != parent.hostname)).mergeSort fun a b => decide (a ≤ b))
    else s.hostingCycle? parent (chain ++ [parent.hostname])
termination_by s.unpassed chain
decreasing_by exact unpassed_lt _hp (by simpa using _hc)

/-- Findings on the hosting relation; each cycle is reported once. -/
def hostingFindings (s : Site) : List Finding :=
  s.hosts.flatMap (·.vmhostFindings s) ++
    (firstOccurrences (s.hosts.filterMap fun h => s.hostingCycle? h [h.hostname])).map .hostingCycle

end Site

end NetworkSite
