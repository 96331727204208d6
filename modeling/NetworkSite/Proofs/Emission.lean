/-
  Build plans without templates.

  Every host defines the variables that its roles need, except that a router
  needs an uplink for one of them (`Blueprint.contains_eq_false_iff`).  Without
  templates nothing else can be missing, so that a site compiles as soon as the
  steps before succeed (`Site.exists_compile_nil`).
-/
import NetworkSite.Proofs.Rendering

namespace NetworkSite

theorem exists_ok_of_isOk {α ε : Type} {x : Except ε α} (h : x.isOk = true) : ∃ a, x = .ok a := by
  cases x with
  | error e => cases h
  | ok a => exact ⟨a, rfl⟩

/-- The variables of an interface are no others: their names begin in a way of
    their own. -/
theorem PlannedInterface.exists_tail_of_mem_variables {p : AddressPlan} {n : Nat}
    {i : PlannedInterface} {x : String × String} (hx : x ∈ i.variables p n) :
    ∃ tail, x.1 = "IFACE_" ++ tail := by
  obtain ⟨⟨name, value⟩, -, rfl⟩ := List.mem_map.1 hx
  refine ⟨toString n ++ "_" ++ name, ?_⟩
  simp [toString, String.append_assoc]

namespace Blueprint

variable {b : Blueprint} {host : Host} {r : Role} {name : String}

/-! ## Variables -/

/-- Only one name that a role needs depends on the host. -/
theorem mem_names_of_ne_uplink (hn : name ∈ r.variableNames) (hne : name ≠ "UPLINK_IFACE") :
    name ∈ (b.hostVariables host ++ b.roleVariables host r).map (·.1) := by
  have hsub : ∀ other ∈ r.variableNames, other = "UPLINK_IFACE" ∨
      other ∈ (b.hostVariables host ++ b.roleVariables host r).map (·.1) := by
    cases r with
    | router => simp [Role.variableNames, hostVariables, roleVariables, routerVariables]
    | _ =>
      simp [Role.variableNames, hostVariables, roleVariables, vmhostVariables, dnsVariables,
        dhcpVariables]
  exact (hsub name hn).resolve_left hne

/-- The uplink of a host has a name only if the host is a router and has one. -/
theorem uplink_mem_roleVariables_iff :
    "UPLINK_IFACE" ∈ (b.roleVariables host r).map (·.1) ↔
      r = .router ∧ (b.plannedHost host).interfaces.any (·.uplink.isSome) = true := by
  have hdelegation : "UPLINK_IFACE" ∉ (b.delegationVariables host).map (·.1) := by
    unfold delegationVariables
    split
    · split <;> simp
    · simp
  cases r with
  | router =>
    rw [roleVariables, routerVariables, List.map_append, List.map_append, List.mem_append,
      List.mem_append, or_iff_left hdelegation, List.any_eq_true, ← List.find?_isSome]
    unfold uplinkVariables
    split
    next i hi => simp [hi]
    next hi => simp [hi]
  | _ => simp [roleVariables, dhcpVariables, dnsVariables, vmhostVariables]

theorem not_mem_interfaceVariables (hn : name.toList.head? ≠ some 'I') :
    name ∉ (b.interfaceVariables host).map (·.1) := by
  intro hm
  obtain ⟨x, hx, hname⟩ := List.mem_map.1 hm
  obtain ⟨⟨i, n⟩, -, hx⟩ := List.mem_flatMap.1 hx
  obtain ⟨tail, htail⟩ := PlannedInterface.exists_tail_of_mem_variables hx
  rw [← hname, htail] at hn
  simp at hn

/-- **A host has a name for its uplink** exactly if it is a router with one. -/
theorem contains_uplink_iff :
    (b.environment host).contains "UPLINK_IFACE" = true ↔
      .router ∈ host.effectiveRoles ∧
        (b.plannedHost host).interfaces.any (·.uplink.isSome) = true := by
  have hown : "UPLINK_IFACE" ∉ (b.hostVariables host).map (·.1) := by
    simp [hostVariables]
  have hinterfaces : "UPLINK_IFACE" ∉ (b.interfaceVariables host).map (·.1) :=
    not_mem_interfaceVariables (by decide)
  rw [environment, Environment.contains_ofList, List.map_append, List.map_append, List.mem_append,
    List.mem_append, or_iff_right hown, or_iff_right hinterfaces, List.map_flatMap,
    List.mem_flatMap]
  simp only [uplink_mem_roleVariables_iff]
  constructor
  · rintro ⟨r, hr, rfl, hu⟩
    exact ⟨hr, hu⟩
  · rintro ⟨hr, hu⟩
    exact ⟨_, hr, rfl, hu⟩

/-- **A host lacks nothing that its roles need** but, if it is a router without
    an uplink, the name of that. -/
theorem contains_eq_false_iff (hr : r ∈ host.effectiveRoles) (hn : name ∈ r.variableNames) :
    (b.environment host).contains name = false ↔
      name = "UPLINK_IFACE" ∧ .router ∈ host.effectiveRoles ∧
        (b.plannedHost host).interfaces.any (·.uplink.isSome) = false := by
  by_cases hname : name = "UPLINK_IFACE"
  · -- Only routers need this name.
    subst hname
    have hrouter : r = .router := by
      cases r with
      | router => rfl
      | _ => simp [Role.variableNames] at hn
    subst hrouter
    rw [← Bool.not_eq_true, contains_uplink_iff]
    simp [hr]
  · refine iff_of_false ?_ (fun h => hname h.1)
    have hmem : name ∈ (b.hostVariables host ++ b.roleVariables host r).map (·.1) :=
      mem_names_of_ne_uplink hn hname
    rw [List.map_append, List.mem_append] at hmem
    have hdefined : (b.environment host).contains name = true := by
      rw [environment, Environment.contains_ofList, List.map_append, List.map_append,
        List.mem_append, List.mem_append]
      rcases hmem with hown | hrole
      · exact .inl (.inl hown)
      · obtain ⟨x, hx, rfl⟩ := List.mem_map.1 hrole
        exact .inr (List.mem_map_of_mem (List.mem_flatMap.2 ⟨r, hr, hx⟩))
    simp [hdefined]

/-! ## Plans -/

/-- Without templates a build plan is made if every router has an uplink. -/
theorem exists_emit_nil
    (hu : ∀ host ∈ b.site.hosts, .router ∈ host.effectiveRoles →
      (b.plannedHost host).interfaces.any (·.uplink.isSome) = true) :
    ∃ plan, b.emit [] = .ok plan := by
  refine exists_emit fun host hh name ⟨⟨r, hr, hneeds⟩, hlacks⟩ => ?_
  -- Nothing comes from templates.
  have hname : name ∈ r.variableNames := hneeds.resolve_right fun ⟨t, ht, _⟩ => by cases ht
  obtain ⟨-, hrouter, hnone⟩ := (contains_eq_false_iff hr hname).1 hlacks
  rw [hu host hh hrouter] at hnone
  cases hnone

end Blueprint

namespace Site

/-- **A valid site compiles without templates**, if it has its addresses, rules
    and stages, and every router an uplink. -/
theorem exists_compile_nil {s : Site} (hf : s.findings = []) (hc : s.crossedLookup? = none)
    (he : s.addressingErrors = [])
    (hr : (s.expandRules
      { vlans := s.planVlans, hosts := s.planHosts, request := s.prefixRequest? }).isOk = true)
    (hs : s.dependencies.schedule.isOk = true)
    (hu : ∀ host ∈ s.hosts, .router ∈ host.effectiveRoles →
      ((s.planHosts.find? (·.hostname == host.hostname)).any
        (·.interfaces.any (·.uplink.isSome))) = true) :
    ∃ plan, s.compile [] = .ok plan := by
  obtain ⟨rules, hr⟩ := exists_ok_of_isOk hr
  obtain ⟨schedule, hs⟩ := exists_ok_of_isOk hs
  obtain ⟨plan, hp⟩ := Blueprint.exists_emit_nil (b := {
    site := s
    addresses := { vlans := s.planVlans, hosts := s.planHosts, request := s.prefixRequest? }
    rules, graph := s.dependencies, schedule }) fun host hh hrole => by
      obtain ⟨g, hg, hi⟩ := (Option.any_eq_true _ _).1 (hu host hh hrole)
      rw [Blueprint.plannedHost, AddressPlan.host?, hg]
      exact hi
  exact ⟨plan, compile_eq_ok_iff.2 ⟨hf, _, rules, schedule,
    addressPlan_eq_ok_iff.2 ⟨hc, he, rfl⟩, hr, hs, hp⟩⟩

/-- A site with a prefix that is known in advance.  One vlan declares its
    IPv6 subnet, the others have shares of the prefix. -/
def home : Site where
  name := "home"
  domain := "example.net"
  switches := [{
    name := "sw"
    vlans := [
      { name := "lan", ipv4Subnet := "10.0.0.0/24", ipv6Subnet := some "fd00:1::/64"
        dhcp6Managed := true
        staticHosts := [{ hostname := "printer", ipv4 := "10.0.0.5", ipv6 := some "fd00:1::5" }] },
      { name := "lab", id := some 20, ipv4Subnet := "10.0.1.0/24", ipv6Delegated := true
        dhcp6Managed := true },
      { name := "dmz", id := some 30, ipv4Subnet := "10.0.2.0/24", ipv6Delegated := true
        allowDhcp := false }] }]
  hosts := [{
    hostname := "gw"
    roles := [.router]
    interfaces := [
      { uplink := some "wan0", delegationLength := some 56
        delegatedPrefix := some "2001:db8::/56" }] }]

-- The checks run through well-founded recursion, as that of the stages, which only a
-- reduction that unfolds everything sees through.
theorem home_compiles : ∃ plan, home.compile [] = .ok plan :=
  exists_compile_nil (by with_unfolding_all decide) (by decide) (by with_unfolding_all decide)
    (by decide) (by with_unfolding_all decide) (by decide)

end Site

end NetworkSite
