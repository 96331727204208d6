/-
  Where connections are redirected to.

  Only declared rules redirect connections (`Site.tupleAction_of_mem_impliedRules`),
  and only to narrowed endpoints.  So the destination of a redirecting tuple is a
  host with addresses or an address, or it is a set that the rule names
  (`Site.forward_targets`); a set has no one address to redirect to
  (`Site.watched_cameras`).
-/
import NetworkSite.Proofs.Expansions
import NetworkSite.Proofs.RuleOrder

namespace NetworkSite

/-- An endpoint with an address for a connection. -/
inductive Endpoint.IsTarget : Endpoint → Prop
  | host {vlan hostname : String} {addresses : List IpAddress} (h : addresses ≠ []) :
      IsTarget (.host vlan hostname addresses)
  | address {zone : String} {a : IpAddress} : IsTarget (.address zone a)

variable {s : Site} {p : AddressPlan} {t : RuleTuple}

/-- A narrowed endpoint is a target, or it is a set that its locator names. -/
theorem Locator.StandsFor.isTarget_or {l : Locator} {e : SideEndpoint} (he : l.StandsFor s p e)
    (hn : e.endpoint.isNarrowed = true) : e.endpoint.IsTarget ∨
      ∃ zone name, e.endpoint = .ipset zone name ∧ l.ipset = some name ∧
        s.policy.hasIpSet name = true := by
  cases standsFor_iff.1 he with
  | routable | firewall => cases hn
  | whole hz =>
    cases hz with
    | internet | vlan => cases hn
  | narrowed hz hl =>
    cases hl with
    | ipset hl hs => exact .inr ⟨_, _, rfl, hl, hs⟩
    | address => exact .inl .address
  | host hw hl hname ha => exact .inl (.host ha)

/-! ## Redirecting rules -/

theorem Rule.tupleAction_of_forward_eq_nil {r : Rule} (h : r.forward = []) :
    r.tupleAction = .accept := by
  unfold tupleAction action
  rw [h]
  cases r.allowAll <;> cases r.allow.isEmpty <;> rfl

theorem Rule.isNarrowed_of_mem_tuples {r : Rule} (h : r.IsExpandable s p) (ht : t ∈ r.tuples s p)
    (ha : t.action = .forward) : r.tupleAction = .forward ∧ ∃ l ∈ r.destinations, ∃ f,
      l.StandsFor s p f ∧ f.endpoint = t.destination ∧ f.endpoint.isNarrowed = true := by
  obtain ⟨e, f, -, ⟨l, hl, hf⟩, -, port, -, rfl⟩ := mem_tuples.1 ht
  exact ⟨ha, l, hl, f, hf, rfl, h.targets ha l hl f hf⟩

namespace Site

/-- Implied rules redirect nothing. -/
theorem tupleAction_of_mem_impliedRules {r : Rule} (hr : r ∈ s.impliedRules) :
    r.tupleAction = .accept := by
  refine Rule.tupleAction_of_forward_eq_nil ?_
  rcases (mem_impliedRules.1 hr).2 with ⟨x, -, hr⟩ | ⟨-, hr⟩ | ⟨role, service, -, host, -, hr⟩
  · rcases List.mem_append.1 hr with hr | hr
    · obtain ⟨ref, -, rfl⟩ := List.mem_map.1 hr
      rfl
    · split at hr
      next =>
        rw [List.mem_singleton.1 hr]
        rfl
      next => cases hr
  · have hrules : ∀ r ∈ routerRules, r.forward = [] := by decide
    exact hrules r hr
  · unfold Host.serverRules at hr
    split at hr
    next => cases hr
    next =>
      rw [List.mem_singleton.1 hr]
      rfl

/-- **What connections are redirected to.**  A redirecting tuple is one of a
    declared rule that forwards services, and its destination is what one of
    the destinations of the rule stands for: a host with addresses, an address,
    or a set that the locator names. -/
theorem forward_targets {tuples : List RuleTuple} (h : s.expandRules p = .ok tuples)
    (ht : t ∈ tuples) (ha : t.action = .forward) :
    ∃ r ∈ s.policy.rules, t ∈ r.tuples s p ∧ (∃ services, r.action = .forward services) ∧
      ∃ l ∈ r.destinations, ∃ f, l.StandsFor s p f ∧ f.endpoint = t.destination ∧
        (t.destination.IsTarget ∨ ∃ zone name, t.destination = .ipset zone name ∧
          l.ipset = some name ∧ s.policy.hasIpSet name = true) := by
  obtain ⟨herrors, rfl⟩ := expandRules_eq_ok_iff.1 h
  have ht := RuleTuple.mem_of_mem_normalize ht
  rw [ruleTuples_eq] at ht
  rw [ruleErrors_eq_nil_iff, List.flatMap_eq_nil_iff] at herrors
  obtain ⟨r, hr, ht⟩ := List.mem_flatMap.1 ht
  obtain ⟨hforward, l, hl, f, hf, heq, hn⟩ :=
    Rule.isNarrowed_of_mem_tuples (Rule.faults_eq_nil_iff.1 (herrors r hr)) ht ha
  rcases List.mem_append.1 hr with hr | hr
  · refine ⟨r, hr, ht, Rule.tupleAction_eq_forward_iff.1 hforward, l, hl, f, hf, heq, ?_⟩
    rw [← heq]
    exact hf.isTarget_or hn
  · cases (tupleAction_of_mem_impliedRules hr).symm.trans hforward

/-- A site that redirects connections to a host and to a set. -/
def watched : Site where
  name := "home"
  domain := "example.net"
  switches := [{
    name := "sw"
    vlans := [{
      name := "lan", ipv4Subnet := "10.0.0.0/24", allowDhcp := false
      staticHosts := [{ hostname := "nas", ipv4 := "10.0.0.5" }] }] }]
  policy := {
    ipsets := [{ name := "cameras", addresses := ["10.0.0.20", "10.0.0.21"] }]
    rules := [
      { comment := "files", sources := [.outside], destinations := [.ofHost "lan" "nas"]
        forward := [.named "ssh"] },
      { comment := "watch", sources := [.outside]
        destinations := [{ vlan := .name "lan", ipset := some "cameras" }]
        forward := [.named "web"] }] }

def watchedPlan : AddressPlan where
  vlans := watched.planVlans
  hosts := watched.planHosts
  request := watched.prefixRequest?

theorem watched_expands : ∃ tuples, watched.expandRules watchedPlan = .ok tuples ∧
    ∀ t ∈ watched.ruleTuples watchedPlan, t ∈ tuples := by
  refine ⟨_, expandRules_eq_ok_iff.2 ⟨by decide, rfl⟩, fun t ht => ?_⟩
  exact RuleTuple.mem_normalize_of_nodup (by decide) ht

/-- The tuple for the host is redirected to a target. -/
theorem watched_nas : ∃ tuples, watched.expandRules watchedPlan = .ok tuples ∧ ∃ t ∈ tuples,
    t.action = .forward ∧ t.destination.IsTarget := by
  obtain ⟨tuples, h, hmem⟩ := watched_expands
  obtain ⟨t, ht, ha, hd⟩ : ∃ t ∈ watched.ruleTuples watchedPlan, t.action = .forward ∧
      t.destination = .host "lan" "nas" [.v4 (.ofNat 0x0a000005)] := by
    decide
  refine ⟨tuples, h, t, hmem t ht, ha, ?_⟩
  obtain ⟨-, -, -, -, -, -, -, -, -, htarget | ⟨zone, name, hset, -⟩⟩ :=
    forward_targets h (hmem t ht) ha
  · exact htarget
  · cases hd.symm.trans hset

/-- **A set is no target**, but connections to it are redirected. -/
theorem watched_cameras : watched.findings = [] ∧ watched.addressPlan = .ok watchedPlan ∧
    ∃ tuples, watched.expandRules watchedPlan = .ok tuples ∧ ∃ t ∈ tuples,
      t.action = .forward ∧ t.destination = .ipset "lan" "cameras" ∧ ¬t.destination.IsTarget := by
  have hp : watched.addressPlan = .ok watchedPlan :=
    addressPlan_eq_ok_iff.2 ⟨by decide, by decide, rfl⟩
  obtain ⟨tuples, h, hmem⟩ := watched_expands
  obtain ⟨t, ht, ha, hd⟩ : ∃ t ∈ watched.ruleTuples watchedPlan, t.action = .forward ∧
      t.destination = .ipset "lan" "cameras" := by
    decide
  refine ⟨by decide, hp, tuples, h, t, hmem t ht, ha, hd, fun htarget => ?_⟩
  rw [hd] at htarget
  cases htarget

end Site

end NetworkSite
