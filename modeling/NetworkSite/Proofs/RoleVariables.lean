/-
  Variables that roles need, against those that hosts define.

  What the hosts of a role have to define stands in one table; what they define
  is put together from the site, the host, its interfaces and its roles.  In a
  valid site both agree, but for one variable: a router without an uplink has no
  name for it (`Site.role_variables`).  Without templates nothing else can be
  missing from a build plan.
-/
import NetworkSite.Proofs.Emission
import NetworkSite.Proofs.Names

namespace NetworkSite

namespace Host

variable {host : Host}

theorem mem_addNew {r : Role} {seen rest : List Role} : r ∈ addNew seen rest ↔ r ∈ seen ∨ r ∈ rest := by
  induction rest generalizing seen with
  | nil => simp [addNew]
  | cons first rest ih =>
    rw [addNew, ih, List.mem_cons, ← or_assoc]
    refine or_congr_left ?_
    split
    next hc =>
      have hseen : first ∈ seen := List.contains_iff_mem.1 hc
      constructor
      · exact .inl
      · rintro (hr | rfl)
        · exact hr
        · exact hseen
    next => rw [List.mem_append, List.mem_singleton]

theorem mem_effectiveRoles {r : Role} : r ∈ host.effectiveRoles ↔ host.hasRole r = true := by
  simp [effectiveRoles, mem_addNew, hasRole]

end Host

namespace Site

variable {s : Site} {host router : Host}

/-! ## Uplinks -/

theorem exists_mem_planDeclared_of_isUplink {j : Interface} (hj : j ∈ host.interfaces)
    (hu : j.isUplink = true) :
    ∃ name, j.planUplink name (host.macOf s name j) ∈ host.planDeclared s s.outlines := by
  obtain ⟨name, hn⟩ := Host.exists_mem_namedInterfaces hj
  have hplan : host.planInterface? s s.outlines name j =
      some (j.planUplink name (host.macOf s name j)) := by
    rw [Host.planInterface?, if_pos hu]
  exact ⟨name, List.mem_filterMap.2 ⟨(name, j), hn, hplan⟩⟩

/-- A planned host has an uplink exactly if one is declared. -/
theorem any_uplink_planHost :
    (s.planHost s.outlines host).interfaces.any (·.uplink.isSome) =
      host.interfaces.any (·.isUplink) := by
  rw [Bool.eq_iff_iff, List.any_eq_true, List.any_eq_true]
  constructor
  · rintro ⟨i, hi, hu⟩
    rcases List.mem_append.1 hi with hi | hi
    · obtain ⟨⟨name, j⟩, hj, hplan⟩ := List.mem_filterMap.1 hi
      refine ⟨j, mem_interfaces_of_namedInterfaces hj, ?_⟩
      by_cases hup : j.isUplink = true
      · exact hup
      · simp only [Host.planInterface?, hup] at hplan
        obtain ⟨⟨switch, v, w⟩, -, rfl⟩ := Option.map_eq_some_iff.1 hplan
        cases hu
    · -- An interface of a gateway is on a vlan.
      split at hi
      · obtain ⟨x, -, rfl⟩ := List.mem_map.1 hi
        cases hu
      · cases hi
  · rintro ⟨j, hj, hup⟩
    obtain ⟨name, hplan⟩ := exists_mem_planDeclared_of_isUplink (s := s) hj hup
    exact ⟨_, List.mem_append_left _ hplan, hup⟩

/-- The router of a valid site is its only host with that role. -/
theorem router?_eq_some_iff (h : s.findings = []) :
    s.router? = some router ↔ router ∈ s.hosts ∧ router.hasRole .router = true := by
  constructor
  · intro hr
    have hh := mem_hosts_of_router? hr
    refine ⟨hh, ?_⟩
    rw [← isRouter_eq_hasRole h hh]
    exact isRouter_of_router? hr
  · rintro ⟨hh, hrole⟩
    rw [← isRouter_eq_hasRole h hh, isRouter] at hrole
    obtain ⟨other, ho, hname⟩ := (Option.any_eq_true _ _).1 hrole
    rw [ho, eq_of_key_eq (nodup_hostnames h) (mem_hosts_of_router? ho) hh (beq_iff_eq.1 hname)]

/-! ## What hosts lack -/

/-- The router has no uplink. -/
def LacksUplink (s : Site) (router : Host) : Prop :=
  s.router? = some router ∧ ∀ i ∈ router.interfaces, i.isUplink = false

section

variable {b : Blueprint}

theorem contains_environment_eq_false_iff (h : b.site.findings = [])
    (hp : b.addresses.hosts = b.site.planHosts) (hh : host ∈ b.site.hosts) {r : Role}
    (hr : r ∈ host.effectiveRoles) {name : String} (hn : name ∈ r.variableNames) :
    (b.environment host).contains name = false ↔
      name = "UPLINK_IFACE" ∧ host.hasRole .router = true ∧
        ∀ i ∈ host.interfaces, i.isUplink = false := by
  rw [Blueprint.contains_eq_false_iff hr hn, Host.mem_effectiveRoles, Blueprint.plannedHost,
    host?_planHosts h hp hh, Option.getD_some, any_uplink_planHost]
  simp

theorem LacksUplink.lacks (hrouter : b.site.LacksUplink router) (h : b.site.findings = [])
    (hp : b.addresses.hosts = b.site.planHosts) (templates : List Template) :
    router ∈ b.site.hosts ∧ b.Lacks templates router "UPLINK_IFACE" := by
  obtain ⟨hr, hnone⟩ := hrouter
  obtain ⟨hh, hrole⟩ := (router?_eq_some_iff h).1 hr
  have hr : .router ∈ router.effectiveRoles := Host.mem_effectiveRoles.2 hrole
  have hn : "UPLINK_IFACE" ∈ Role.router.variableNames := by simp [Role.variableNames]
  refine ⟨hh, ⟨.router, hr, .inl hn⟩, ?_⟩
  exact (contains_environment_eq_false_iff h hp hh hr hn).2 ⟨rfl, hrole, hnone⟩

theorem mem_missing_nil_iff (h : b.site.findings = []) (hp : b.addresses.hosts = b.site.planHosts)
    {m : MissingVariable} :
    m ∈ b.missing [] ↔ ∃ router, b.site.LacksUplink router ∧
      m = { host := router.hostname, name := "UPLINK_IFACE" } := by
  rw [Blueprint.mem_missing]
  constructor
  · rintro ⟨host, hh, hname, ⟨r, hr, hneeds⟩, hlacks⟩
    -- Nothing comes from templates.
    have hneeds : m.name ∈ r.variableNames := hneeds.resolve_right fun ⟨t, ht, _⟩ => by cases ht
    obtain ⟨huplink, hrole, hnone⟩ := (contains_environment_eq_false_iff h hp hh hr hneeds).1 hlacks
    refine ⟨host, ⟨(router?_eq_some_iff h).2 ⟨hh, hrole⟩, hnone⟩, ?_⟩
    rw [hname, ← huplink]
  · rintro ⟨router, hrouter, rfl⟩
    obtain ⟨hh, hlacks⟩ := hrouter.lacks h hp []
    exact ⟨router, hh, rfl, hlacks⟩

theorem missing_nil_eq (h : b.site.findings = []) (hp : b.addresses.hosts = b.site.planHosts)
    (hrouter : b.site.LacksUplink router) :
    b.missing [] = [{ host := router.hostname, name := "UPLINK_IFACE" }] := by
  have hm := (mem_missing_nil_iff h hp).2 ⟨router, hrouter, rfl⟩
  refine eq_singleton_of_nodup (Blueprint.nodup_missing (nodup_hostnames h)) hm ?_
  intro m hm
  obtain ⟨other, hother, rfl⟩ := (mem_missing_nil_iff h hp).1 hm
  rw [Option.some.inj (hrouter.1.symm.trans hother.1)]

theorem emit_nil_eq_error_iff (h : b.site.findings = [])
    (hp : b.addresses.hosts = b.site.planHosts) (missing : List MissingVariable) :
    b.emit [] = .error missing ↔ ∃ router, b.site.LacksUplink router ∧
      missing = [{ host := router.hostname, name := "UPLINK_IFACE" }] := by
  rw [Blueprint.emit_eq_error_iff]
  constructor
  · rintro ⟨rfl, hne⟩
    obtain ⟨m, hm⟩ := List.exists_mem_of_ne_nil _ hne
    obtain ⟨router, hrouter, -⟩ := (mem_missing_nil_iff h hp).1 hm
    exact ⟨router, hrouter, missing_nil_eq h hp hrouter⟩
  · rintro ⟨router, hrouter, rfl⟩
    exact ⟨missing_nil_eq h hp hrouter, List.cons_ne_nil _ _⟩

end

/-! ## Valid sites -/

/-- What the environments of a site are made from, with its addresses, rules and
    stages. -/
def blueprint (s : Site) (p : AddressPlan) (rules : List RuleTuple) (schedule : Schedule) :
    Blueprint where
  site := s
  addresses := p
  rules := rules
  graph := s.dependencies
  schedule := schedule

section

variable {p : AddressPlan} {rules : List RuleTuple} {schedule : Schedule}

/-- The run of a valid site with addresses, rules and stages ends as its
    emission does. -/
theorem compile_eq_emit {templates : List Template} (h : s.findings = [])
    (hp : s.addressPlan = .ok p) (hr : s.expandRules p = .ok rules)
    (hs : s.dependencies.schedule = .ok schedule) :
    s.compile templates =
      ((s.blueprint p rules schedule).emit templates).mapError .missing := by
  have hv : s.validate = .ok () := validate_eq_ok_iff.2 h
  rw [compile, hv, hp]
  show (s.expandRules p).mapError CompileError.firewall >>= _ = _
  rw [hr]
  show s.dependencies.schedule.mapError CompileError.cycle >>= _ = _
  rw [hs]
  rfl

/-- **Every host defines what its roles need**, in a valid site with addresses,
    rules and stages, except that a router without an uplink has no name for it.
    So without templates the site compiles, unless its router has no uplink; then
    the error has this variable and nothing else. -/
theorem role_variables (h : s.findings = []) (hp : s.addressPlan = .ok p)
    (hr : s.expandRules p = .ok rules) (hs : s.dependencies.schedule = .ok schedule) :
    (∀ host ∈ s.hosts, ∀ r ∈ host.effectiveRoles, ∀ name ∈ r.variableNames,
      ((s.blueprint p rules schedule).environment host).contains name = false ↔
        name = "UPLINK_IFACE" ∧ host.hasRole .router = true ∧
          ∀ i ∈ host.interfaces, i.isUplink = false) ∧
    ((∃ missing, s.compile [] = .error (.missing missing)) ↔
      ∃ router, s.router? = some router ∧ ∀ i ∈ router.interfaces, i.isUplink = false) ∧
    ∀ e, s.compile [] = .error e ↔ ∃ router, s.LacksUplink router ∧
      e = .missing [{ host := router.hostname, name := "UPLINK_IFACE" }] := by
  have hhosts := hosts_of_addressPlan hp
  have hemit := emit_nil_eq_error_iff (b := s.blueprint p rules schedule) h hhosts
  have herror : ∀ e, s.compile [] = .error e ↔ ∃ router, s.LacksUplink router ∧
      e = .missing [{ host := router.hostname, name := "UPLINK_IFACE" }] := by
    intro e
    rw [compile_eq_emit h hp hr hs, mapError_eq_error]
    constructor
    · rintro ⟨missing, hm, rfl⟩
      obtain ⟨router, hrouter, rfl⟩ := (hemit missing).1 hm
      exact ⟨router, hrouter, rfl⟩
    · rintro ⟨router, hrouter, rfl⟩
      exact ⟨_, (hemit _).2 ⟨router, hrouter, rfl⟩, rfl⟩
  refine ⟨?_, ?_, herror⟩
  · intro host hh r hrole name hn
    exact contains_environment_eq_false_iff (b := s.blueprint p rules schedule) h hhosts hh hrole hn
  · constructor
    · rintro ⟨missing, hm⟩
      obtain ⟨router, hrouter, -⟩ := (herror _).1 hm
      exact ⟨router, hrouter⟩
    · rintro ⟨router, hrouter⟩
      exact ⟨_, (herror _).2 ⟨router, hrouter, rfl⟩⟩

end

/-- A router without an uplink, which also gives out names and addresses. -/
def landlocked : Site where
  name := "home"
  domain := "example.net"
  switches := [{ name := "sw", vlans := [{ name := "lan", ipv4Subnet := "10.0.0.0/24" }] }]
  hosts := [{
    hostname := "gw"
    roles := [.router, .dhcp, .dns]
    interfaces := [{ switch := some "sw", ipv4 := .fixed "10.0.0.1" }] }]

/-- The site is valid and fails for want of this name; all others are defined. -/
theorem landlocked_role_variables : landlocked.findings = [] ∧
    landlocked.compile [] =
      .error (.missing [{ host := "gw", name := "UPLINK_IFACE" }]) := by
  have hf : landlocked.findings = [] := by with_unfolding_all decide
  have hp : landlocked.addressPlan = .ok {
      vlans := landlocked.planVlans
      hosts := landlocked.planHosts
      request := landlocked.prefixRequest? } :=
    addressPlan_eq_ok_iff.2 ⟨by decide, by with_unfolding_all decide, rfl⟩
  obtain ⟨rules, hr⟩ := exists_ok_of_isOk (by decide : (landlocked.expandRules {
      vlans := landlocked.planVlans
      hosts := landlocked.planHosts
      request := landlocked.prefixRequest? }).isOk = true)
  obtain ⟨schedule, hs⟩ :=
    exists_ok_of_isOk (by with_unfolding_all decide : landlocked.dependencies.schedule.isOk = true)
  refine ⟨hf, ((role_variables hf hp hr hs).2.2 _).2 ⟨_, ⟨rfl, ?_⟩, rfl⟩⟩
  decide

end Site

end NetworkSite
