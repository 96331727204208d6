/-
  The references of a checked policy.

  The check and the expansion look up the references of locators on their own.
  A set, an address or a vlan that the check accepts is found again, and so is a
  name on a vlan, except for the alias of the router where the vlan has no
  gateway (`Site.endpoints_eq_error_iff`).  Nothing else makes a declared rule
  fail with an unknown reference (`Site.unknownReference_mem_faults_iff`).
-/
import NetworkSite.Proofs.Names

namespace NetworkSite

open Finding

theorem mem_errorsOf {ε α : Type} {results : List (Except ε (List α))} {e : ε} :
    e ∈ errorsOf results ↔ .error e ∈ results := by
  rw [errorsOf, List.mem_filterMap]
  constructor
  · rintro ⟨result, hr, he⟩
    cases result with
    | error e' =>
      cases he
      exact hr
    | ok values => cases he
  · exact fun he => ⟨_, he, rfl⟩

theorem IpAddress.exists_ofText?_of_isAddress {f : Family} {text : String}
    (h : f.isAddress text = true) : ∃ a, ofText? text = some a := by
  obtain ⟨a, ha⟩ := Option.isSome_iff_exists.1 h
  unfold ofText?
  split
  next b hb => exact ⟨_, rfl⟩
  next hb =>
    cases f with
    | v4 => cases hb.symm.trans ha
    | v6 => exact ⟨.v6 a, by rw [ha]; rfl⟩

namespace Locator

variable {s : Site} {p : AddressPlan} {l : Locator} {place : Place} {fault : RuleFault}

/-! ## Endpoints -/

/-- What a checked locator is narrowed to can be read. -/
theorem exists_narrowedEndpoint (h : l.narrowingFindings s place = []) (zone : String) :
    ∃ e, l.narrowedEndpoint s zone = .ok e := by
  simp only [narrowingFindings, addressFindings, List.append_eq_nil_iff, List.flatMap_eq_nil_iff,
    Option.mem_toList, require_eq_nil] at h
  obtain ⟨⟨⟨-, hset⟩, h4⟩, h6⟩ := h
  unfold narrowedEndpoint
  split
  next name hn =>
    rw [if_pos (hset name hn)]
    exact ⟨_, rfl⟩
  next =>
    split
    next => exact ⟨_, rfl⟩
    next text ht =>
      have ha : ∃ a, IpAddress.ofText? text = some a := by
        rcases Option.or_eq_some_iff.1 ht with ht | ⟨-, ht⟩
        · exact IpAddress.exists_ofText?_of_isAddress (h4 text ht)
        · exact IpAddress.exists_ofText?_of_isAddress (h6 text ht)
      obtain ⟨a, ha⟩ := ha
      rw [ha]
      exact ⟨_, rfl⟩

theorem exists_zoneEndpoint (h : l.narrowingFindings s place = []) (zone : String)
    (whole : Endpoint) : ∃ e, l.zoneEndpoint s zone whole = .ok [e] := by
  obtain ⟨e?, he⟩ := exists_narrowedEndpoint h zone
  rw [zoneEndpoint, he]
  cases e? with
  | none => exact ⟨_, rfl⟩
  | some e => exact ⟨_, rfl⟩

theorem hostEndpoints_eq_error {w : PlannedVlan} {name : String} :
    hostEndpoints s p w name = .error fault ↔
      w.hostnameOf? s p name = none ∧ fault = .unknownReference "host" s!"{w.name}/{name}" := by
  unfold hostEndpoints
  split
  next hn => simp [hn, eq_comm]
  next hostname hn => split <;> simp [hn]

/-- A side of a rule has the faults of its locator, and one more if that stands
    for nothing. -/
theorem sideEndpoints_eq_error {side : Side} :
    l.sideEndpoints s p side = .error fault ↔
      l.endpoints s p = .error fault ∨
      l.endpoints s p = .ok [] ∧ fault = .noEndpoints side l.text := by
  unfold sideEndpoints
  split
  next he => simp [he, eq_comm]
  next hne => exact ⟨.inl, fun he => he.resolve_right fun hnil => hne hnil.1⟩

/-- The locator asks for the router by its alias on a vlan without gateway,
    where nobody else goes by that name. -/
def MissesRouter (s : Site) (l : Locator) (x : Switch × Vlan) (name : String) : Prop :=
  ∃ ref, l.scope = .vlan ref ∧ s.lookupVlan? l.switch ref = some x ∧ l.hostname = some name ∧
    s.OnlyRouterAlias x.2 name

end Locator

namespace Site

variable {s : Site} {p : AddressPlan} {l : Locator} {place : Place} {fault : RuleFault}

/-- A vlan that the check finds is in the plan. -/
theorem vlanEndpoints_eq (h : s.findings = []) (hv : p.vlans = s.planVlans) {ref : VlanRef}
    {x : Switch × Vlan} (hx : s.lookupVlan? l.switch ref = some x) {w : PlannedVlan}
    (hw : s.vlanOutline? s.effectiveDelegation x.1 x.2 = some w) :
    l.vlanEndpoints s p ref =
      match l.hostname with
      | some name => Locator.hostEndpoints s p (s.completeVlan s.outlines s.claims w) name
      | none => l.zoneEndpoint s x.2.name (.vlan x.2.name) := by
  have hplan := vlan?_planVlans h hv (mem_vlans_of_lookupVlan? hx).1 hw
  cases hn : l.hostname with
  | none => simp only [Locator.vlanEndpoints, hx, Option.bind_some, hplan, hn, name_completeVlan hw]
  | some name => simp only [Locator.vlanEndpoints, hx, Option.bind_some, hplan, hn]

theorem vlanEndpoints_eq_error_iff (h : s.findings = []) (hv : p.vlans = s.planVlans)
    (hp : p.hosts = s.planHosts) {ref : VlanRef} (hl : l.narrowingFindings s place = [])
    (hf : l.vlanFindings s place ref = []) :
    l.vlanEndpoints s p ref = .error fault ↔ ∃ x name, s.lookupVlan? l.switch ref = some x ∧
      l.hostname = some name ∧ s.OnlyRouterAlias x.2 name ∧
      fault = .unknownReference "host" s!"{x.2.name}/{name}" := by
  unfold Locator.vlanFindings at hf
  split at hf
  next => cases hf
  next switch v hx =>
    have hmem := (mem_vlans_of_lookupVlan? hx).1
    obtain ⟨w, hw⟩ := exists_vlanOutline? (d := s.effectiveDelegation) h hmem
    rw [List.append_eq_nil_iff] at hf
    rw [vlanEndpoints_eq h hv hx hw]
    simp only [hx, Option.some.injEq]
    cases hn : l.hostname with
    | none =>
      obtain ⟨e, he⟩ := Locator.exists_zoneEndpoint hl v.name (.vlan v.name)
      simp [he]
    | some name =>
      have hknown : s.hasNameOn v name = true := by simpa [hn] using hf.1
      simp only [Locator.hostEndpoints_eq_error, hostnameOf?_eq_none_iff h hp hmem hw hknown,
        name_completeVlan hw, Option.some.injEq]
      constructor
      · rintro ⟨halias, he⟩
        exact ⟨_, _, rfl, rfl, halias, he⟩
      · rintro ⟨_, _, rfl, rfl, halias, he⟩
        exact ⟨halias, he⟩

/-- **What makes a checked locator fail** is the alias of the router, asked for
    where the router has no gateway. -/
theorem endpoints_eq_error_iff (h : s.findings = []) (hv : p.vlans = s.planVlans)
    (hp : p.hosts = s.planHosts) (hl : l.findings s place = []) :
    l.endpoints s p = .error fault ↔ ∃ x name, l.MissesRouter s x name ∧
      fault = .unknownReference "host" s!"{x.2.name}/{name}" := by
  rw [Locator.findings, List.append_eq_nil_iff] at hl
  unfold Locator.endpoints Locator.MissesRouter
  cases hscope : l.scope with
  | all => simp
  | firewall => simp
  | internet =>
    obtain ⟨e, he⟩ := Locator.exists_zoneEndpoint hl.1 internetZone .internet
    simp [he]
  | vlan ref =>
    rw [hscope] at hl
    simp only [vlanEndpoints_eq_error_iff h hv hp hl.1 hl.2, Scope.vlan.injEq, exists_eq_left',
      and_assoc]

/-! ## Rules -/

theorem exists_mem_zipIdx {r : Rule} (hr : r ∈ s.policy.rules) :
    ∃ index, (r, index) ∈ s.policy.rules.zipIdx := by
  obtain ⟨index, hindex, rfl⟩ := List.mem_iff_getElem.1 hr
  exact ⟨index, List.mk_mem_zipIdx_iff_getElem?.2 (List.getElem?_eq_getElem hindex)⟩

theorem ruleFindings_of_mem (h : s.findings = []) {r : Rule} {index : Nat}
    (hr : (r, index) ∈ s.policy.rules.zipIdx) : r.findings s index = [] := by
  have hf := (findings_eq_nil.1 h).2.2.2.2.2.2.2
  simp only [policyFindings, List.append_eq_nil_iff, List.flatMap_eq_nil_iff] at hf
  exact hf.2 _ hr

theorem locatorFindings_of_mem (h : s.findings = []) {r : Rule} {index : Nat}
    (hr : (r, index) ∈ s.policy.rules.zipIdx) (hl : l ∈ r.sources ++ r.destinations) :
    l.findings s (r.place index) = [] := by
  have hrule := ruleFindings_of_mem h hr
  simp only [Rule.findings, List.append_eq_nil_iff, List.flatMap_eq_nil_iff] at hrule
  exact hrule.2 l hl

end Site

namespace Rule

variable {s : Site} {p : AddressPlan} {r : Rule} {kind name : String}

/-- Unknown references are those of locators. -/
theorem unknownReference_mem_faults :
    .unknownReference kind name ∈ r.faults s p ↔
      ∃ l ∈ r.sources ++ r.destinations, l.endpoints s p = .error (.unknownReference kind name) := by
  have hside : ∀ side, ∀ locators : List Locator,
      .error (.unknownReference kind name) ∈ locators.map (·.sideEndpoints s p side) ↔
        ∃ l ∈ locators, l.endpoints s p = .error (.unknownReference kind name) := by
    intro side locators
    simp [Locator.sideEndpoints_eq_error]
  have hports : .error (.unknownReference kind name) ∉ r.portResults := by
    have hservices : ∀ services, .error (.unknownReference kind name) ∉ portsOf services := by
      intro services hm
      obtain ⟨service, -, he⟩ := List.mem_map.1 hm
      split at he <;> cases he
    unfold portResults
    split
    · simp
    · exact hservices _
    · exact hservices _
    · simp
  have hforward : .unknownReference kind name ∉ r.forwardFaults s p := by
    unfold forwardFaults
    split <;> simp
  simp only [faults, List.mem_append, mem_errorsOf, sourceResults, destinationResults, hside,
    hports, hforward, or_false, or_and_right, exists_or]

end Rule

namespace Site

variable {s : Site} {p : AddressPlan} {kind name : String}

/-- **The only unknown reference of a declared rule** is the alias of the router
    on a vlan without gateway. -/
theorem unknownReference_mem_faults_iff (h : s.findings = []) (hv : p.vlans = s.planVlans)
    (hp : p.hosts = s.planHosts) {r : Rule} {index : Nat}
    (hr : (r, index) ∈ s.policy.rules.zipIdx) :
    .unknownReference kind name ∈ r.faults s p ↔ kind = "host" ∧
      ∃ l ∈ r.sources ++ r.destinations, ∃ x asked, l.MissesRouter s x asked ∧
        name = s!"{x.2.name}/{asked}" := by
  rw [Rule.unknownReference_mem_faults]
  constructor
  · rintro ⟨l, hl, he⟩
    obtain ⟨x, asked, hm, he⟩ :=
      (endpoints_eq_error_iff h hv hp (locatorFindings_of_mem h hr hl)).1 he
    cases he
    exact ⟨rfl, l, hl, x, asked, hm, rfl⟩
  · rintro ⟨rfl, l, hl, x, asked, hm, rfl⟩
    exact ⟨l, hl, (endpoints_eq_error_iff h hv hp (locatorFindings_of_mem h hr hl)).2
      ⟨x, asked, hm, rfl⟩⟩

end Site

end NetworkSite
