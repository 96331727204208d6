/-
  The values of variables in the environments of hosts.

  An environment is made from a list in which the last value of a name counts,
  so that a variable has the value that all items with its name have
  (`Environment.get?_ofList`).  A host has its own variables as they are
  (`Blueprint.get?_of_mem_hostVariables`), so the lines of the rules that it
  enforces (`Blueprint.get?_firewallRules`), and a router the zones of its
  interfaces (`Blueprint.get?_firewallZones`).  The hosts of a build plan have these
  environments (`Site.forall₂_hostPlan`).
-/
import NetworkSite.Proofs.RoleVariables

namespace NetworkSite

namespace Environment

variable {values : List (String × String)} {name value : String}

/-- Values are those that were put in. -/
theorem mem_of_get?_ofList (h : (ofList values).get? name = some value) : (name, value) ∈ values := by
  suffices hfold : ∀ env : Environment,
      (values.foldl (fun env x => env.insert x.1 x.2) env).get? name = some value →
        env.get? name = some value ∨ (name, value) ∈ values by
    exact (hfold _ h).resolve_left nofun
  clear h
  induction values with
  | nil => exact fun env henv => .inl henv
  | cons x rest ih =>
    intro env henv
    rcases ih _ henv with hx | hrest
    · rw [SortedMap.get?_insert] at hx
      split at hx
      next hc =>
        obtain rfl := Std.LawfulEqOrd.eq_of_compare hc
        obtain rfl := Option.some.inj hx
        exact .inr List.mem_cons_self
      next => exact .inl hx
    · exact .inr (List.mem_cons_of_mem _ hrest)

theorem get?_ofList (hm : (name, value) ∈ values)
    (hu : ∀ x ∈ values, x.1 = name → x.2 = value) : (ofList values).get? name = some value := by
  have hc : (ofList values).contains name = true := contains_ofList.2 (List.mem_map_of_mem hm)
  obtain ⟨other, ho⟩ := Option.isSome_iff_exists.1 hc
  obtain rfl : other = value := hu _ (mem_of_get?_ofList ho) rfl
  exact ho

end Environment

namespace Blueprint

variable {b : Blueprint} {host : Host}

/-- A role defines nothing that hosts have of their own, and zones only as a
    router. -/
theorem value_of_mem_roleVariables {r : Role} {x : String × String}
    (hx : x ∈ b.roleVariables host r) : x.1 ∉ (b.hostVariables host).map (·.1) ∧
      (x.1 = "FIREWALL_ZONES" → x.2 = lines (b.zoneLines host)) := by
  revert x
  cases r with
  | router =>
    simp only [roleVariables, routerVariables, List.forall_mem_append]
    refine ⟨⟨by simp [hostVariables], ?_⟩, ?_⟩
    · unfold uplinkVariables
      split <;> simp [hostVariables]
    · unfold delegationVariables
      split
      next => split <;> simp [hostVariables]
      next => simp
  | _ => simp [hostVariables, roleVariables, vmhostVariables, dnsVariables, dhcpVariables]

/-- What holds of a name in the variables of the host, and in those of its
    roles, does so in its environment. -/
theorem get?_environment {name value : String} (hn : name.toList.head? ≠ some 'I')
    (hm : (name, value) ∈ b.hostVariables host ++ host.effectiveRoles.flatMap (b.roleVariables host))
    (hhost : ∀ x ∈ b.hostVariables host, x.1 = name → x.2 = value)
    (hroles : ∀ r, ∀ x ∈ b.roleVariables host r, x.1 = name → x.2 = value) :
    (b.environment host).get? name = some value := by
  refine Environment.get?_ofList ?_ fun x hx hname => ?_
  · rw [List.append_assoc]
    rcases List.mem_append.1 hm with hm | hm
    · exact List.mem_append_left _ hm
    · exact List.mem_append_right _ (List.mem_append_right _ hm)
  · rcases List.mem_append.1 hx with hx | hx
    · rcases List.mem_append.1 hx with hx | hx
      · exact hhost x hx hname
      · exact absurd (List.mem_map_of_mem hx) (hname ▸ not_mem_interfaceVariables hn)
    · obtain ⟨r, -, hx⟩ := List.mem_flatMap.1 hx
      exact hroles r x hx hname

theorem get?_of_mem_hostVariables {name value : String} (hn : name.toList.head? ≠ some 'I')
    (hm : (name, value) ∈ b.hostVariables host) : (b.environment host).get? name = some value := by
  have hnodup : ((b.hostVariables host).map (·.1)).Nodup := by simp [hostVariables]
  refine get?_environment hn (List.mem_append_left _ hm) (fun x hx hname => ?_)
    fun r x hx hname => ?_
  · rw [eq_of_key_eq hnodup hx hm hname]
  · have hown : x.1 ∈ (b.hostVariables host).map (·.1) := hname ▸ List.mem_map_of_mem hm
    exact absurd hown (value_of_mem_roleVariables hx).1

/-- The rules that a host enforces; a host without firewall has none. -/
def enforced (b : Blueprint) (host : Host) : List RuleTuple :=
  if host.hasRole .router || host.localFirewall then
    RuleTuple.rulesFor b.rules (b.plannedHost host) (host.hasRole .router)
  else []

theorem firewallRules_eq (b : Blueprint) (host : Host) :
    b.firewallRules host = lines ((b.enforced host).flatMap (·.lines)) := by
  dsimp only [firewallRules, enforced]
  split
  next => rfl
  next => rfl

/-- **Every host has its rules.** -/
theorem get?_firewallRules : (b.environment host).get? "FIREWALL_RULES" =
    some (lines ((b.enforced host).flatMap (·.lines))) := by
  rw [← firewallRules_eq]
  exact get?_of_mem_hostVariables (by decide) (by simp [hostVariables])

/-- **A router has the zones of its interfaces.** -/
theorem get?_firewallZones (hr : .router ∈ host.effectiveRoles) :
    (b.environment host).get? "FIREWALL_ZONES" = some (lines (b.zoneLines host)) := by
  refine get?_environment (by decide) (List.mem_append_right _ ?_) ?_ fun r x hx =>
    (value_of_mem_roleVariables hx).2
  · exact List.mem_flatMap.2 ⟨_, hr, List.mem_append_left _ (List.mem_append_left _ List.mem_cons_self)⟩
  · simp [hostVariables]

end Blueprint

namespace Site

variable {s : Site} {templates : List Template} {plan : BuildPlan}

/-- **The hosts of a build plan** are planned one by one, under the addresses,
    the rules and the stages of the plan. -/
theorem forall₂_hostPlan (h : s.compile templates = .ok plan) :
    s.dependencies.schedule = .ok plan.schedule ∧
      List.Forall₂ (fun host g =>
        (s.blueprint plan.addresses plan.firewall plan.schedule).hostPlan templates host = .ok g)
        s.hosts plan.hosts := by
  obtain ⟨-, p, rules, schedule, -, -, hs, he⟩ := compile_eq_ok_iff.1 h
  obtain ⟨-, hosts, hm, rfl⟩ := Blueprint.emit_eq_ok_iff.1 he
  exact ⟨hs, forall₂_of_mapM_eq_ok hm⟩

/-- **What the hosts of a build plan define** comes from the addresses and the
    rules of the plan. -/
theorem exists_blueprint (h : s.compile templates = .ok plan) :
    ∃ b : Blueprint, b.addresses = plan.addresses ∧ b.rules = plan.firewall ∧
      List.Forall₂ (fun host g => g.hostname = host.hostname ∧ g.environment = b.environment host)
        s.hosts plan.hosts := by
  refine ⟨s.blueprint plan.addresses plan.firewall plan.schedule, rfl, rfl,
    (forall₂_hostPlan h).2.imp fun host g hg => ?_⟩
  have hplan := Blueprint.isPlanOf_of_hostPlan hg
  exact ⟨hplan.hostname, hplan.environment⟩

end Site

end NetworkSite
