/-
  The rules that a host enforces itself.

  A host that is no router lets in what the rules allow for it.  It goes by the
  destination of a tuple: its own hostname, or a vlan that it is on.  A tuple for its
  hostname is one for its addresses, and the other way round, as an address of a
  planned host belongs to nobody else (`Site.hostname_of_holds`).  But a tuple for
  one address alone is left out, whoever has it (`Site.own_rules`), so that the router
  lets connections through that the host refuses (`Site.reachable_refused`).
-/
import NetworkSite.Proofs.Deduplication
import NetworkSite.Proofs.PublishedAddresses

namespace NetworkSite

/-- The planned host has the fixed address on the vlan. -/
def PlannedHost.Holds (g : PlannedHost) (vlan : String) (a : IpAddress) : Prop :=
  ∃ i ∈ g.interfaces, i.vlan = some vlan ∧ a ∈ i.fixedAddresses

/-- The endpoint takes in the host: it has one of its addresses, or it is a vlan that
    the host is on. -/
inductive Endpoint.Reaches (g : PlannedHost) : Endpoint → Prop
  | host {vlan hostname : String} {addresses : List IpAddress} {a : IpAddress}
      (ha : a ∈ addresses) (hg : g.Holds vlan a) : Reaches g (.host vlan hostname addresses)
  | address {zone : String} {a : IpAddress} (hg : g.Holds zone a) : Reaches g (.address zone a)
  | vlan {name : String} {i : PlannedInterface} (hi : i ∈ g.interfaces)
      (hv : i.vlan = some name) : Reaches g (.vlan name)

namespace Site

variable {s : Site} {p : AddressPlan} {host : Host} {g : PlannedHost} {t : RuleTuple}
  {a : IpAddress} {vlan hostname : String} {addresses : List IpAddress}

theorem uplink_eq_none_of_vlan {i : PlannedInterface}
    (hi : i ∈ (s.planHost s.outlines host).interfaces) (hv : i.vlan = some vlan) :
    i.uplink = none := by
  rcases List.mem_append.1 hi with hi | hi
  · exact (Host.uplink_eq_none_iff hi).2 ⟨vlan, hv⟩
  · split at hi
    · obtain ⟨y, -, rfl⟩ := List.mem_map.1 hi
      rfl
    · cases hi

/-- The vlan of a planned interface is one of the site, which has the fixed
    addresses of the interface. -/
theorem exists_outline_of_interface (h : s.findings = []) (hh : host ∈ s.hosts)
    {i : PlannedInterface} (hi : i ∈ (s.planHost s.outlines host).interfaces)
    (hv : i.vlan = some vlan) :
    ∃ x ∈ s.vlans, x.2.name = vlan ∧ ∃ w, s.vlanOutline? s.effectiveDelegation x.1 x.2 = some w ∧
      ∀ a ∈ i.fixedAddresses, s.Claims a host.hostname ∧ w.Covers a ∧
        (¬i.HidesBesideGateway (s.isRouter host) w a →
          ∃ e ∈ (s.completeVlan s.outlines s.claims w).entries, a ∈ e.addresses) := by
  obtain ⟨x, hx, w, hw, hname, hall⟩ :=
    exists_vlan_of_interface h hh hi (uplink_eq_none_of_vlan hi hv)
  rw [hv, name_of_vlanOutline? hw, Option.some.injEq] at hname
  exact ⟨x, hx, hname.symm, w, hw, hall⟩

theorem claims_of_holds (h : s.findings = []) (hh : host ∈ s.hosts)
    (hg : (s.planHost s.outlines host).Holds vlan a) : s.Claims a host.hostname := by
  obtain ⟨i, hi, hv, ha⟩ := hg
  obtain ⟨x, -, -, w, -, hall⟩ := exists_outline_of_interface h hh hi hv
  exact (hall a ha).1

theorem claims_of_denoted (h : s.findings = []) (hv : p.vlans = s.planVlans)
    (hd : Endpoint.Denoted p (.host vlan hostname addresses)) (ha : a ∈ addresses) :
    s.Claims a hostname := by
  cases hd with
  | host hw =>
    rw [hv] at hw
    obtain ⟨x, hx, w, ho, rfl⟩ := exists_of_mem_planVlans h hw
    obtain ⟨e, he, rfl, hae⟩ := PlannedVlan.mem_addressesOf.1 ha
    exact claims_of_mem_entries hx ho he hae

theorem hostname_of_holds {templates : List Template} {plan : BuildPlan}
    (h : s.compile templates = .ok plan) (hg : g ∈ plan.addresses.hosts) (ht : t ∈ plan.firewall)
    (hd : t.destination = .host vlan hostname addresses) (ha : a ∈ addresses)
    (hholds : g.Holds vlan a) : hostname = g.hostname := by
  obtain ⟨hf, hp⟩ := addresses_of_compile h
  have hv := vlans_of_addressPlan hp
  have hdenoted := (denoted_of_mem_ruleTuples hf hv (mem_ruleTuples_of_compile h ht)).2
  rw [hd] at hdenoted
  rw [hosts_of_addressPlan hp] at hg
  obtain ⟨host, hh, rfl⟩ := List.mem_map.1 hg
  exact claims_unique (claimErrors_eq_nil hf) (claims_of_denoted hf hv hdenoted ha)
    (claims_of_holds hf hh hholds)

/-- **The rules of a host** are those that reach it, except for those that lead to a
    single address. -/
theorem own_rules {templates : List Template} {plan : BuildPlan}
    (h : s.compile templates = .ok plan) (hg : g ∈ plan.addresses.hosts) (ht : t ∈ plan.firewall)
    (haction : t.action = .accept) (hr : t.destination.Reaches g) :
    t ∈ RuleTuple.rulesFor plan.firewall g false ↔ ∀ zone a, t.destination ≠ .address zone a := by
  have hmem : t ∈ RuleTuple.rulesFor plan.firewall g false ↔ t.concerns g = true := by
    simp [RuleTuple.rulesFor, ht]
  rw [hmem, RuleTuple.concerns, haction]
  cases hd : t.destination with
  | internet | firewall | ipset =>
    rw [hd] at hr
    cases hr
  | vlan name =>
    rw [hd] at hr
    cases hr with
    | vlan hi hv => simpa [PlannedHost.isOn] using ⟨_, hi, hv⟩
  | host vlan hostname addresses =>
    rw [hd] at hr
    cases hr with
    | host ha hholds => simpa using hostname_of_holds h hg ht hd ha hholds
  | address zone a => simp

/-- A site with a host and two rules for it, one for its hostname and one for its
    address. -/
def fileShare : Site where
  name := "home"
  domain := "example.net"
  switches := [{
    name := "sw"
    vlans := [{ name := "lan", ipv4Subnet := "10.0.0.0/24", allowDhcp := false }] }]
  policy := {
    rules := [
      { comment := "name", sources := [.outside], destinations := [.ofHost "lan" "nas"]
        allow := [.named "ssh"] },
      { comment := "address", sources := [.outside]
        destinations := [{ vlan := .name "lan", ipv4 := some "10.0.0.5" }]
        allow := [.named "ssh"] }] }
  hosts := [{
    hostname := "nas"
    interfaces := [{ switch := some "sw", ipv4 := .fixed "10.0.0.5" }] }]

theorem fileShare_compiles : ∃ plan, fileShare.compile [] = .ok plan ∧
    plan.addresses = fileShare.plannedAddresses ∧
      ∀ t ∈ fileShare.ruleTuples fileShare.plannedAddresses, t ∈ plan.firewall := by
  obtain ⟨plan, hc⟩ : ∃ plan, fileShare.compile [] = .ok plan :=
    exists_compile_nil (by with_unfolding_all decide) (by decide) (by decide) (by decide)
      (by with_unfolding_all decide) (by decide)
  obtain ⟨-, -, hp⟩ := addressPlan_eq_ok_iff.1 (addresses_of_compile hc).2
  refine ⟨plan, hc, hp, fun t ht => ?_⟩
  rw [firewall_eq_of_compile hc, hp]
  exact RuleTuple.mem_normalize_of_nodup (by decide) ht

theorem exists_fileShare_host : ∃ g ∈ fileShare.plannedAddresses.hosts,
    (∀ host ∈ fileShare.hosts, host.hasRole .router = false) ∧
      g.Holds "lan" (.v4 (.ofNat 0x0a000005)) := by
  unfold PlannedHost.Holds
  decide

/-- The host enforces the rule for its name. -/
theorem fileShare_enforced : ∃ plan g t, fileShare.compile [] = .ok plan ∧
    g ∈ plan.addresses.hosts ∧ t ∈ plan.firewall ∧ t.action = .accept ∧
    t.destination.Reaches g ∧ t ∈ RuleTuple.rulesFor plan.firewall g false := by
  obtain ⟨plan, hc, hp, hmem⟩ := fileShare_compiles
  obtain ⟨g, hg, -, hholds⟩ := exists_fileShare_host
  obtain ⟨t, ht, haction, hd⟩ : ∃ t ∈ fileShare.ruleTuples fileShare.plannedAddresses,
      t.action = .accept ∧ t.destination = .host "lan" "nas" [.v4 (.ofNat 0x0a000005)] := by
    decide
  have hr : t.destination.Reaches g := by
    rw [hd]
    exact .host (List.mem_singleton_self _) hholds
  rw [← hp] at hg
  refine ⟨plan, g, t, hc, hg, hmem t ht, haction, hr, ?_⟩
  refine (own_rules hc hg (hmem t ht) haction hr).2 fun zone a he => ?_
  cases hd.symm.trans he

/-- **A host may refuse what is allowed**: it leaves out the rule for its
    address. -/
theorem reachable_refused : ∃ plan, fileShare.compile [] = .ok plan ∧
    (∀ host ∈ fileShare.hosts, host.hasRole .router = false) ∧ ∃ g ∈ plan.addresses.hosts,
      ∃ t ∈ plan.firewall, t.action = .accept ∧ t.destination.Reaches g ∧
        t ∉ RuleTuple.rulesFor plan.firewall g false := by
  obtain ⟨plan, hc, hp, hmem⟩ := fileShare_compiles
  obtain ⟨g, hg, hrouter, hholds⟩ := exists_fileShare_host
  obtain ⟨t, ht, haction, hd⟩ : ∃ t ∈ fileShare.ruleTuples fileShare.plannedAddresses,
      t.action = .accept ∧ t.destination = .address "lan" (.v4 (.ofNat 0x0a000005)) := by
    decide
  rw [← hp] at hg
  refine ⟨plan, hc, hrouter, g, hg, t, hmem t ht, haction, ?_, fun hin => ?_⟩
  · rw [hd]
    exact .address hholds
  · have hconcerns := (List.mem_filter.1 hin).2
    rw [RuleTuple.concerns, hd, Bool.and_false] at hconcerns
    cases hconcerns

end Site

end NetworkSite
