/-
  The faults of the rules of a valid site.

  An implied rule joins whole zones, or leads to a server by its name
  (`Site.isImplied_of_mem`).  Whole zones have endpoints; the name of a server
  may be an alias of an entry without addresses that comes first, and then the
  rule fails (`Site.mem_faults_iff_of_mem_impliedRules`).  Declared rules fail for
  other reasons as well, but with an unknown reference only where they ask for
  the router by its alias (`Site.rule_errors`).
-/
import NetworkSite.Proofs.Compilation
import NetworkSite.Proofs.References

namespace NetworkSite

namespace Locator

/-- The locator stands for a whole zone, which exists if it is a vlan. -/
def IsWhole (s : Site) (l : Locator) : Prop :=
  ∃ ref, l = { vlan := ref } ∧ ∀ r, l.scope = .vlan r → (s.lookupVlan? none r).isSome = true

/-- The locator names a host, but the first entry of the vlan that goes by this
    name is of somebody else, who has no addresses there. -/
def NamesNobody (p : AddressPlan) (l : Locator) : Prop :=
  ∃ vlan name w e, l = .ofHost vlan name ∧ p.vlan? vlan = some w ∧
    w.entries.find? (·.answersTo name) = some e ∧ e.hostname ≠ name ∧
      ∀ f ∈ w.entries, f.hostname = e.hostname → f.addresses = []

variable {s : Site} {p : AddressPlan} {l : Locator}

theorem eq_of_scope_eq_vlan {ref : VlanRef} (h : l.scope = .vlan ref) : ref = l.vlan := by
  unfold scope at h
  split at h
  next hn =>
    cases h
    exact hn.symm
  next hn =>
    split at h
    · cases h
    · split at h
      · cases h
      · split at h
        · cases h
        · cases h
          exact hn.symm

theorem isWhole_everywhere : everywhere.IsWhole s :=
  ⟨_, rfl, fun _ h => by cases (show everywhere.scope = .all from rfl).symm.trans h⟩

theorem isWhole_outside : outside.IsWhole s :=
  ⟨_, rfl, fun _ h => by cases (show outside.scope = .internet from rfl).symm.trans h⟩

theorem isWhole_router : router.IsWhole s :=
  ⟨_, rfl, fun _ h => by cases (show router.scope = .firewall from rfl).symm.trans h⟩

theorem IsWhole.not_namesNobody (h : l.IsWhole s) : ¬l.NamesNobody p := by
  obtain ⟨ref, rfl, -⟩ := h
  rintro ⟨vlan, name, w, e, hl, -⟩
  cases hl

end Locator

/-! ## The form of implied rules -/

/-- What all implied rules have in common. -/
structure Rule.IsImplied (s : Site) (r : Rule) : Prop where
  sources : ∀ l ∈ r.sources, l.IsWhole s
  destinations : ∀ l ∈ r.destinations, l.IsWhole s ∨ ∃ host ∈ s.hosts, l ∈ host.serverLocators s
  ports : errorsOf r.portResults = []
  accepts : r.tupleAction = .accept

namespace Rule

variable {s : Site} {comment : String} {source destination : Locator}

theorem isImplied_opening (hs : source.IsWhole s) (hd : destination.IsWhole s) :
    (opening comment source destination).IsImplied s where
  sources l hl := by
    rw [List.mem_singleton.1 hl]
    exact hs
  destinations l hl := by
    rw [List.mem_singleton.1 hl]
    exact .inl hd
  ports := rfl
  accepts := rfl

theorem isImplied_serving {destinations : List Locator} {service : String} {services : List String}
    (hs : source.IsWhole s)
    (hd : ∀ l ∈ destinations, l.IsWhole s ∨ ∃ host ∈ s.hosts, l ∈ host.serverLocators s)
    (hports : ∀ name ∈ service :: services, (Service.ofName? name).isSome = true) :
    (serving comment source destinations (service :: services)).IsImplied s where
  sources l hl := by
    rw [List.mem_singleton.1 hl]
    exact hs
  destinations := hd
  ports := by
    have hresults : (serving comment source destinations (service :: services)).portResults =
        portsOf ((service :: services).map .named) := rfl
    rw [hresults, List.eq_nil_iff_forall_not_mem]
    intro e he
    obtain ⟨spec, hm, he⟩ := List.mem_map.1 (mem_errorsOf.1 he)
    obtain ⟨name, hn, rfl⟩ := List.mem_map.1 hm
    obtain ⟨found, hf⟩ := Option.isSome_iff_exists.1 (hports name hn)
    simp [ServiceSpec.resolve, hf] at he
  accepts := rfl

theorem exists_expand_iff {p : AddressPlan} {r : Rule} :
    (∃ tuples, r.expand s p = .ok tuples) ↔ r.faults s p = [] := by
  unfold expand
  split
  next hf => exact iff_of_true ⟨_, rfl⟩ hf
  next hf => exact iff_of_false nofun hf

end Rule

/-- An interface with a fixed IPv4 address has an entry, unless it is the
    router's and the address that of the gateway. -/
theorem PlannedVlan.interfaceEntry?_of_fixed {w : PlannedVlan} {r : Bool} {n : String}
    {i : PlannedInterface} {b : Address .v4} (hb : i.ipv4.fixed? = some b) :
    (∃ e, w.interfaceEntry? r n i = some e ∧ e.hostname = n ∧ .v4 b ∈ e.addresses) ∨
      r = true ∧ w.gateway4 = some b := by
  cases hgate : r && some b == w.gateway4 with
  | false =>
    exact .inl ⟨_, if_pos (by simp [hb, hgate]), rfl, Entry.mem_addresses.2 (.inl ⟨b, hb, rfl⟩)⟩
  | true =>
    rw [Bool.and_eq_true, beq_iff_eq] at hgate
    exact .inr ⟨hgate.1, hgate.2.symm⟩

namespace Site

variable {s : Site} {p : AddressPlan} {x : Switch × Vlan} {w : PlannedVlan} {host : Host}
  {l : Locator} {r : Rule} {side : Side} {fault : RuleFault}

theorem isWhole_ofVlan (h : s.findings = []) (hx : x ∈ s.vlans) :
    (Locator.ofVlan x.2.name).IsWhole s := by
  refine ⟨_, rfl, fun ref href => ?_⟩
  rw [Locator.eq_of_scope_eq_vlan href]
  exact Option.isSome_iff_exists.2 ⟨x, lookupVlan?_name h hx⟩

theorem isImplied_of_mem_vlanRules (h : s.findings = []) (hx : x ∈ s.vlans)
    (hr : r ∈ x.2.impliedRules) : r.IsImplied s := by
  rcases List.mem_append.1 hr with hr | hr
  · obtain ⟨ref, href, rfl⟩ := List.mem_map.1 hr
    refine Rule.isImplied_opening (isWhole_ofVlan h hx) ?_
    split
    next => exact Locator.isWhole_everywhere
    next hall =>
      refine ⟨ref, rfl, fun r hscope => ?_⟩
      rw [Locator.eq_of_scope_eq_vlan hscope]
      exact isSome_lookupVlan?_of_mem_accessVlans h hx href (by simpa using hall)
  · split at hr
    · rw [List.mem_singleton.1 hr]
      exact Rule.isImplied_opening (isWhole_ofVlan h hx) Locator.isWhole_outside
    · cases hr

theorem isImplied_of_mem_routerRules (hr : r ∈ routerRules) : r.IsImplied s := by
  have hone : ∀ {l l' : Locator}, l'.IsWhole s → l ∈ [l'] →
      l.IsWhole s ∨ ∃ host ∈ s.hosts, l ∈ host.serverLocators s := by
    intro l l' hl' hl
    rw [List.mem_singleton.1 hl]
    exact .inl hl'
  simp only [routerRules, List.mem_cons, List.not_mem_nil, or_false] at hr
  rcases hr with rfl | rfl | rfl
  · exact Rule.isImplied_serving Locator.isWhole_router
      (fun _ => hone Locator.isWhole_everywhere) (by decide)
  · exact Rule.isImplied_serving Locator.isWhole_everywhere
      (fun _ => hone Locator.isWhole_router) (by decide)
  · exact Rule.isImplied_serving Locator.isWhole_router
      (fun _ => hone Locator.isWhole_outside) (by decide)

theorem isImplied_of_mem_serverRules (hh : host ∈ s.hosts) {service : String}
    (hs : (Service.ofName? service).isSome = true) (hr : r ∈ host.serverRules s service) :
    r.IsImplied s := by
  unfold Host.serverRules at hr
  split at hr
  next => cases hr
  next =>
    rw [List.mem_singleton.1 hr]
    refine Rule.isImplied_serving Locator.isWhole_everywhere
      (fun l hl => .inr ⟨host, hh, hl⟩) fun name hn => ?_
    rw [List.mem_singleton.1 hn]
    exact hs

/-- Implied rules are those of routable vlans, of a router and of servers. -/
theorem mem_impliedRules : r ∈ s.impliedRules ↔ s.routableVlans ≠ [] ∧
    ((∃ x ∈ s.routableVlans, r ∈ x.2.impliedRules) ∨
      s.router?.isSome = true ∧ r ∈ routerRules ∨
      ∃ role service, (role, service) ∈ servingRoles ∧
        ∃ host ∈ s.hostsWithRole role, r ∈ host.serverRules s service) := by
  unfold impliedRules
  by_cases hnil : s.routableVlans = []
  · simp [hnil]
  · rw [if_neg (by simpa using hnil)]
    simp [hnil]

/-- **Implied rules lead from whole zones to whole zones or servers**, with
    known services. -/
theorem isImplied_of_mem (h : s.findings = []) (hr : r ∈ s.impliedRules) :
    s.routableVlans ≠ [] ∧ r.IsImplied s := by
  obtain ⟨hne, hr⟩ := mem_impliedRules.1 hr
  refine ⟨hne, ?_⟩
  rcases hr with ⟨x, hx, hr⟩ | ⟨-, hr⟩ | ⟨role, service, hrole, host, hh, hr⟩
  · exact isImplied_of_mem_vlanRules h (List.mem_filter.1 hx).1 hr
  · exact isImplied_of_mem_routerRules hr
  · have hknown : ∀ y ∈ servingRoles, (Service.ofName? y.2).isSome = true := by decide
    exact isImplied_of_mem_serverRules (List.mem_filter.1 hh).1 (hknown _ hrole) hr

/-! ## Endpoints of whole zones -/

theorem exists_routable (hr : s.routableVlans ≠ []) : ∃ x ∈ s.vlans, x.2.routable = true := by
  obtain ⟨x, hx⟩ := List.exists_mem_of_ne_nil _ hr
  exact ⟨x, List.mem_filter.1 hx⟩

/-- A whole zone has endpoints. -/
theorem exists_endpoints_of_isWhole (h : s.findings = []) (hv : p.vlans = s.planVlans)
    (hr : s.routableVlans ≠ []) (hl : l.IsWhole s) :
    ∃ e rest, l.endpoints s p = .ok (e :: rest) := by
  obtain ⟨ref, rfl, hlookup⟩ := hl
  unfold Locator.endpoints
  cases hscope : ({ vlan := ref } : Locator).scope with
  | all =>
    obtain ⟨x, hx, hroutable⟩ := exists_routable hr
    obtain ⟨w, hw⟩ := exists_vlanOutline? (d := s.effectiveDelegation) h hx
    have hm : s.completeVlan s.outlines s.claims w ∈ p.vlans.filter (·.routable) := by
      rw [hv]
      refine List.mem_filter.2 ⟨completeVlan_mem_planVlans h hx hw, ?_⟩
      exact (routable_of_vlanOutline? hw).trans hroutable
    obtain ⟨first, rest, he⟩ := List.exists_cons_of_ne_nil (List.ne_nil_of_mem hm)
    rw [he]
    exact ⟨_, _, rfl⟩
  | internet => exact ⟨_, _, rfl⟩
  | firewall => exact ⟨_, _, rfl⟩
  | vlan ref =>
    obtain ⟨x, hx⟩ := Option.isSome_iff_exists.1 (hlookup ref hscope)
    obtain ⟨w, hw⟩ := exists_vlanOutline? (d := s.effectiveDelegation) h (mem_vlans_of_lookupVlan? hx).1
    dsimp only
    rw [vlanEndpoints_eq h hv hx hw]
    exact ⟨_, _, rfl⟩

theorem sideEndpoints_of_isWhole (h : s.findings = []) (hv : p.vlans = s.planVlans)
    (hr : s.routableVlans ≠ []) (hl : l.IsWhole s) : l.sideEndpoints s p side ≠ .error fault := by
  obtain ⟨e, rest, he⟩ := exists_endpoints_of_isWhole h hv hr hl
  rw [Ne, Locator.sideEndpoints_eq_error, he]
  rintro (he | ⟨he, -⟩) <;> cases he

/-! ## Endpoints of servers -/

theorem mem_serverLocators : l ∈ host.serverLocators s ↔
    ∃ i ∈ host.interfaces, ∃ text x, i.ipv4 = .fixed text ∧ s.interfaceVlan? i = some x ∧
      x.2.routable = true ∧ l = .ofHost x.2.name host.hostname := by
  rw [Host.serverLocators, List.mem_filterMap]
  refine exists_congr fun i => and_congr_right fun _ => ?_
  constructor
  · intro hl
    split at hl
    next text switch v ht hx =>
      obtain ⟨hr, hl⟩ := Option.ite_none_right_eq_some.1 hl
      exact ⟨text, (switch, v), ht, hx, hr, (Option.some.inj hl).symm⟩
    next => cases hl
  · rintro ⟨text, ⟨switch, v⟩, ht, hx, hr, rfl⟩
    simp only [ht, hx]
    exact if_pos hr

/-- A server has an entry with addresses on the vlan: that of its interface or,
    for the router, that of the gateway. -/
theorem exists_entry_of_interface (h : s.findings = []) (hh : host ∈ s.hosts) {i : Interface}
    (hi : i ∈ host.interfaces) {text : String} (ht : i.ipv4 = .fixed text)
    (hx : s.interfaceVlan? i = some x)
    (hw : s.vlanOutline? s.effectiveDelegation x.1 x.2 = some w) :
    ∃ e ∈ (s.completeVlan s.outlines s.claims w).entries,
      e.hostname = host.hostname ∧ ∃ a, a ∈ e.addresses := by
  obtain ⟨name, hn⟩ := Host.exists_mem_namedInterfaces hi
  have hmem := mem_vlans_of_interfaceVlan? hx
  obtain ⟨b, hb⟩ : ∃ b : Address .v4, Address.ofText? text = some b := by
    obtain ⟨hf, -⟩ := Interface.findings_of_shapeFindings (shapeFindings_of_mem h hh hn)
      (isUplink_eq_false h hh hi hx) hx
    simp only [Interface.vlan4Findings, ht] at hf
    split at hf
    next => cases hf
    next b hb => exact ⟨b, hb⟩
  obtain ⟨hplan, hv⟩ := (mem_planDeclared_iff h hh hmem hw).2
    ⟨name, i, (mem_interfacesOn h hmem).2 ⟨hi, hx⟩, hn, rfl⟩
  have hfixed : (host.planOnVlan s name i x.1 x.2 w).ipv4.fixed? = some b :=
    Interface.fixed?_ipv4On.2 ⟨text, ht, hb⟩
  rcases PlannedVlan.interfaceEntry?_of_fixed (w := w) (r := s.isRouter host)
      (n := host.hostname) hfixed with ⟨e, he, hname, ha⟩ | ⟨hr, hg⟩
  · rw [← name_of_vlanOutline? hw] at hv
    exact ⟨e, (mem_entries_completeVlan hw).2 (.inr (.inr ⟨host, hh, _, hplan, hv, he⟩)), hname,
      .v4 b, ha⟩
  · obtain ⟨router, hrouter, hname⟩ := (Option.any_eq_true _ _).1 hr
    have hroutable := ((gateway4_eq_some hw).1 hg).1
    exact ⟨_, (mem_entries_completeVlan hw).2 (.inl ⟨hroutable, router, hrouter, rfl⟩),
      beq_iff_eq.1 hname, .v4 b, Entry.mem_addresses.2 (.inl ⟨b, hg, rfl⟩)⟩

theorem namesNobody_ofHost {name : String} {e : Entry} (hv : p.vlan? x.2.name = some w)
    (he : w.entries.find? (·.answersTo name) = some e) :
    (Locator.ofHost x.2.name name).NamesNobody p ↔
      e.hostname ≠ name ∧ w.addressesOf e.hostname = [] := by
  rw [PlannedVlan.addressesOf_eq_nil]
  constructor
  · rintro ⟨vlan, name', w', e', hl, hw', he', hnone⟩
    cases hl
    obtain rfl := Option.some.inj (hv.symm.trans hw')
    obtain rfl := Option.some.inj (he.symm.trans he')
    exact hnone
  · exact fun hnone => ⟨_, _, _, e, rfl, hv, he, hnone⟩

theorem endpoints_ofHost (h : s.findings = []) (hv : p.vlans = s.planVlans) (hx : x ∈ s.vlans)
    (hw : s.vlanOutline? s.effectiveDelegation x.1 x.2 = some w) {name : String} :
    (Locator.ofHost x.2.name name).endpoints s p =
      Locator.hostEndpoints s p (s.completeVlan s.outlines s.claims w) name := by
  have hscope := scope_eq_vlan h hx (l := .ofHost x.2.name name) rfl
  rw [Locator.endpoints, hscope]
  exact vlanEndpoints_eq h hv (lookupVlan?_name h hx) hw

/-- The side of a server fails exactly if its name is taken by somebody without
    addresses. -/
theorem sideEndpoints_of_server (h : s.findings = []) (hv : p.vlans = s.planVlans)
    (hh : host ∈ s.hosts) (hl : l ∈ host.serverLocators s) :
    l.sideEndpoints s p side = .error fault ↔
      l.NamesNobody p ∧ fault = .noEndpoints side l.text := by
  obtain ⟨i, hi, text, x, ht, hx, -, rfl⟩ := mem_serverLocators.1 hl
  have hmem := mem_vlans_of_interfaceVlan? hx
  obtain ⟨w, hw⟩ := exists_vlanOutline? (d := s.effectiveDelegation) h hmem
  obtain ⟨e, he, hname, a, ha⟩ := exists_entry_of_interface h hh hi ht hx hw
  obtain ⟨f, hf⟩ : ∃ f, (s.completeVlan s.outlines s.claims w).entries.find?
      (·.answersTo host.hostname) = some f :=
    Option.isSome_iff_exists.1 (List.find?_isSome.2 ⟨e, he, by simp [Entry.answersTo, hname]⟩)
  have hsome : (s.completeVlan s.outlines s.claims w).hostnameOf? s p host.hostname =
      some f.hostname := by
    rw [PlannedVlan.hostnameOf?, hf]
  rw [Locator.sideEndpoints_eq_error, endpoints_ofHost h hv hmem hw,
    namesNobody_ofHost (vlan?_planVlans h hv hmem hw) hf, Locator.hostEndpoints, hsome]
  dsimp only
  split
  next hnil =>
    have hother : f.hostname ≠ host.hostname := by
      intro hsame
      rw [PlannedVlan.addressesOf_eq_nil.1 hnil e he (hname.trans hsame.symm)] at ha
      cases ha
    simp [hnil, hother]
  next hne => simpa using fun _ hnil => absurd hnil hne

/-! ## Faults -/

/-- **An implied rule fails exactly for the servers whose name stands for
    somebody else without addresses.** -/
theorem mem_faults_iff_of_mem_impliedRules (h : s.findings = []) (hv : p.vlans = s.planVlans)
    (hr : r ∈ s.impliedRules) :
    fault ∈ r.faults s p ↔
      ∃ l ∈ r.destinations, l.NamesNobody p ∧ fault = .noEndpoints .destination l.text := by
  obtain ⟨hroutable, hi⟩ := isImplied_of_mem h hr
  have hsources : .error fault ∉ r.sourceResults s p := by
    intro hm
    obtain ⟨l, hl, he⟩ := List.mem_map.1 hm
    exact sideEndpoints_of_isWhole h hv hroutable (hi.sources l hl) he
  have hdestinations : ∀ l ∈ r.destinations, l.sideEndpoints s p .destination = .error fault ↔
      l.NamesNobody p ∧ fault = .noEndpoints .destination l.text := by
    intro l hl
    rcases hi.destinations l hl with hw | ⟨host, hh, hs⟩
    · exact iff_of_false (sideEndpoints_of_isWhole h hv hroutable hw)
        fun hn => hw.not_namesNobody hn.1
    · exact sideEndpoints_of_server h hv hh hs
  have hforward : r.forwardFaults s p = [] := by
    rw [Rule.forwardFaults, hi.accepts]
  rw [Rule.faults, hi.ports, hforward]
  simp only [List.append_nil, List.mem_append, mem_errorsOf, hsources, false_or,
    Rule.destinationResults, List.mem_map]
  exact exists_congr fun l => and_congr_right fun hl => hdestinations l hl

theorem mem_ruleErrors {e : RuleError} :
    e ∈ s.ruleErrors p ↔
      (∃ r index, (r, index) ∈ s.policy.rules.zipIdx ∧ e.rule = r.label index ∧
        e.fault ∈ r.faults s p) ∨
      ∃ r ∈ s.impliedRules, e.rule = r.comment ∧ e.fault ∈ r.faults s p := by
  simp only [ruleErrors, labelledRules, List.mem_flatMap, List.mem_append, List.mem_map,
    Prod.exists, or_and_right, exists_or]
  constructor
  · rintro (⟨_, r, ⟨_, index, hr, he⟩, fault, hf, rfl⟩ | ⟨_, r, ⟨_, hr, he⟩, fault, hf, rfl⟩)
    · cases he
      exact .inl ⟨r, index, hr, rfl, hf⟩
    · cases he
      exact .inr ⟨r, hr, rfl, hf⟩
  · rintro (⟨r, index, hr, hl, hf⟩ | ⟨r, hr, hl, hf⟩)
    · exact .inl ⟨_, _, ⟨r, index, hr, rfl⟩, e.fault, hf, by rw [← hl]⟩
    · exact .inr ⟨_, _, ⟨r, hr, rfl⟩, e.fault, hf, by rw [← hl]⟩

theorem expandRules_eq_error_iff {errors : List RuleError} :
    s.expandRules p = .error errors ↔ s.ruleErrors p = errors ∧ errors ≠ [] := by
  unfold expandRules
  split
  next he => simp [he, eq_comm]
  next hne =>
    rw [Except.error.injEq]
    exact ⟨fun he => ⟨he, he ▸ hne⟩, fun he => he.1⟩

theorem exists_expandRules_error_iff {e : RuleError} :
    (∃ errors, s.expandRules p = .error errors ∧ e ∈ errors) ↔ e ∈ s.ruleErrors p := by
  simp only [expandRules_eq_error_iff]
  constructor
  · rintro ⟨_, ⟨rfl, -⟩, he⟩
    exact he
  · exact fun he => ⟨_, ⟨rfl, List.ne_nil_of_mem he⟩, he⟩

/-- **The check and the expansion agree on references, but for two names.**  In
    a valid site with an address plan, the unknown references are those to the
    router by its alias on a vlan without gateway.  An implied rule fails only
    for a server whose name stands for somebody else without addresses. -/
theorem rule_errors (h : s.findings = []) (hp : s.addressPlan = .ok p) :
    (∀ label kind name, (∃ errors, s.expandRules p = .error errors ∧
        { rule := label, fault := .unknownReference kind name } ∈ errors) ↔
      ∃ r index, (r, index) ∈ s.policy.rules.zipIdx ∧ label = r.label index ∧ kind = "host" ∧
        ∃ l ∈ r.sources ++ r.destinations, ∃ x asked, l.MissesRouter s x asked ∧
          name = s!"{x.2.name}/{asked}") ∧
    ∀ r ∈ s.impliedRules,
      ((∃ tuples, r.expand s p = .ok tuples) ↔ ∀ l ∈ r.destinations, ¬l.NamesNobody p) ∧
      ∀ fault, fault ∈ r.faults s p ↔
        ∃ l ∈ r.destinations, l.NamesNobody p ∧ fault = .noEndpoints .destination l.text := by
  have hv := vlans_of_addressPlan hp
  have hh := hosts_of_addressPlan hp
  refine ⟨fun label kind name => ?_, fun r hr => ⟨?_, fun fault => ?_⟩⟩
  · rw [exists_expandRules_error_iff, mem_ruleErrors]
    constructor
    · rintro (⟨r, index, hr, hl, hf⟩ | ⟨r, hr, -, hf⟩)
      · exact ⟨r, index, hr, hl, (unknownReference_mem_faults_iff h hv hh hr).1 hf⟩
      · obtain ⟨l, -, -, hf⟩ := (mem_faults_iff_of_mem_impliedRules h hv hr).1 hf
        cases hf
    · rintro ⟨r, index, hr, hl, hf⟩
      exact .inl ⟨r, index, hr, hl, (unknownReference_mem_faults_iff h hv hh hr).2 hf⟩
  · rw [Rule.exists_expand_iff, List.eq_nil_iff_forall_not_mem]
    simp only [mem_faults_iff_of_mem_impliedRules h hv hr]
    constructor
    · exact fun hnone l hl hn => hnone _ ⟨l, hl, hn, rfl⟩
    · rintro hall fault ⟨l, hl, hn, -⟩
      exact hall l hl hn
  · exact mem_faults_iff_of_mem_impliedRules h hv hr

/-- A rule for the router on a vlan. -/
def backup : Rule where
  comment := "backup"
  sources := [.ofHost "storage" "router"]
  destinations := [.outside]
  allow := [.named "ssh"]

/-- A site with that rule, where the vlan has no gateway, and with a server
    whose name is an alias of a reservation without addresses. -/
def nicknamed : Site where
  name := "home"
  domain := "example.net"
  switches := [{
    name := "sw"
    vlans := [
      { name := "lan", ipv4Subnet := "10.0.0.0/24", allowDhcp := false
        reservations := [{ hostname := "tv", mac := "aa:bb:cc:dd:ee:01", aliases := ["infra"] }] },
      { name := "storage", id := some 20, ipv4Subnet := "10.0.9.0/24", routable := false
        allowDhcp := false }] }]
  policy := { rules := [backup] }
  hosts := [
    { hostname := "gw", roles := [.router]
      interfaces := [
        { uplink := some "wan0" },
        { switch := some "sw", vlan := some (.name "storage"), ipv4 := .fixed "10.0.9.1" }] },
    { hostname := "infra", roles := [.dns]
      interfaces := [{ switch := some "sw", ipv4 := .fixed "10.0.0.2" }] }]

theorem exists_nicknamed_plan : nicknamed.findings = [] ∧ ∃ p, nicknamed.addressPlan = .ok p :=
  ⟨by with_unfolding_all decide, _, addressPlan_eq_ok_iff.2 ⟨by decide, by decide, rfl⟩⟩

/-- Its rule has an unknown reference, and those of the router have no fault. -/
theorem nicknamed_rules : nicknamed.findings = [] ∧ ∃ p, nicknamed.addressPlan = .ok p ∧
    (∃ errors, nicknamed.expandRules p = .error errors ∧
      { rule := "backup", fault := .unknownReference "host" "storage/router" } ∈ errors) ∧
    ∀ r ∈ routerRules, ∃ tuples, r.expand nicknamed p = .ok tuples := by
  obtain ⟨hf, p, hp⟩ := exists_nicknamed_plan
  obtain ⟨hdeclared, himplied⟩ := rule_errors hf hp
  refine ⟨hf, p, hp, (hdeclared _ _ _).2 ?_, fun r hr => (himplied r ?_).1.2 fun l hl => ?_⟩
  · have hx : ∃ x, nicknamed.lookupVlan? none (.name "storage") = some x ∧ x.2.name = "storage" ∧
        x.2.routable = false ∧ x.2.entries = [] ∧
        ∀ host ∈ nicknamed.hosts, host.isCalled "router" = false := by
      exact ⟨_, rfl, rfl, rfl, rfl, by decide⟩
    obtain ⟨x, hx, hname, hr, he, hh⟩ := hx
    refine ⟨backup, 0, List.mem_cons_self, rfl, rfl, _, List.mem_cons_self, x, "router",
      ⟨_, rfl, hx, rfl, hr, by decide, by simp [he], fun host hm _ => hh host hm⟩, ?_⟩
    rw [hname]
    rfl
  · revert r
    decide
  · have hnone : ∀ r ∈ routerRules, ∀ l ∈ r.destinations, l.hostname = none := by decide
    rintro ⟨vlan, name, w, e, rfl, -⟩
    cases hnone r hr _ hl

/-- **The check accepts names that the expansion does not**: the rule has an
    unknown reference, and the implied rule for the server fails as well. -/
theorem nicknamed_errors : nicknamed.findings = [] ∧ ∃ p, nicknamed.addressPlan = .ok p ∧
    nicknamed.expandRules p = .error [
      { rule := "backup", fault := .unknownReference "host" "storage/router" },
      { rule := "dns on infra", fault := .noEndpoints .destination "lan/infra" }] ∧
    ∃ r ∈ nicknamed.impliedRules, ¬∃ tuples, r.expand nicknamed p = .ok tuples := by
  obtain ⟨hf, p, hp⟩ := exists_nicknamed_plan
  obtain ⟨-, -, hplan⟩ := addressPlan_eq_ok_iff.1 hp
  refine ⟨hf, p, hp, expandRules_eq_error_iff.2 ⟨?_, List.cons_ne_nil _ _⟩,
    .serving "dns on infra" .everywhere [.ofHost "lan" "infra"] ["dns"], by decide, ?_⟩
  · rw [hplan]
    decide
  · rw [Rule.exists_expand_iff, hplan]
    decide

end Site

end NetworkSite
