/-
  The zones of what locators lead to.

  A locator for a vlan leads to the vlan that it finds, or to something there
  (`Locator.StandsFor.zone_eq_iff`).  If it names a switch, the vlan is one of this
  switch.  Nobody looks at the switch of a locator for all vlans, for the router or
  for everything outside, neither the check nor the expansion, so these lead off
  the switch (`Site.keepsTo_iff`).
-/
import NetworkSite.Proofs.ImpliedTuples

namespace NetworkSite

/-! ## Zones of locators -/

namespace Locator

variable {s : Site} {p : AddressPlan} {l : Locator} {e : SideEndpoint} {x : Switch × Vlan}

/-- The locator leads to a vlan or to something on it. -/
def IsAt (s : Site) (x : Switch × Vlan) (l : Locator) : Prop :=
  ∃ ref, l.scope = .vlan ref ∧ s.lookupVlan? l.switch ref = some x

theorem IsIn.zone_eq {zone : String} {whole : Endpoint} (h : l.IsIn s p zone whole) :
    whole.zone = zone := by
  cases h <;> rfl

theorem Narrows.zone_eq {zone : String} {e : Endpoint} (h : l.Narrows s zone e) :
    e.zone = zone := by
  cases h <;> rfl

theorem standsFor_of_scope_all (h : s.findings = []) (hv : p.vlans = s.planVlans)
    (hs : l.scope = .all) : l.StandsFor s p e ↔
      ∃ x ∈ s.routableVlans, e = { endpoint := .vlan x.2.name, fromAll := true } := by
  have heq : l.endpoints s p = everywhere.endpoints s p := by
    rw [endpoints, hs]
    rfl
  have hiff : l.StandsFor s p e ↔ everywhere.StandsFor s p e := by rw [StandsFor, StandsFor, heq]
  simp only [hiff, standsFor_everywhere h hv, Site.routableVlans, List.mem_filter, and_assoc]

theorem IsOn.exists_isAt (h : s.findings = []) (hv : p.vlans = s.planVlans) {w : PlannedVlan}
    (hw : l.IsOn s p w) : ∃ y, l.IsAt s y ∧ y ∈ s.vlans ∧ w.name = y.2.name := by
  obtain ⟨ref, y, hs, hy, hw⟩ := hw
  have hmem := (Site.mem_vlans_of_lookupVlan? hy).1
  obtain ⟨o, ho⟩ := Site.exists_vlanOutline? (d := s.effectiveDelegation) h hmem
  obtain rfl := Option.some.inj ((Site.vlan?_planVlans h hv hmem ho).symm.trans hw)
  exact ⟨y, ⟨ref, hs, hy⟩, hmem, Site.name_completeVlan ho⟩

theorem IsAt.unique {y : Switch × Vlan} (hx : l.IsAt s x) (hy : l.IsAt s y) : x = y := by
  obtain ⟨ref, hs, hx⟩ := hx
  obtain ⟨ref', hs', hy⟩ := hy
  obtain rfl := Scope.vlan.inj (hs.symm.trans hs')
  exact Option.some.inj (hx.symm.trans hy)

section

variable (h : s.findings = []) (hv : p.vlans = s.planVlans) (hx : x ∈ s.vlans)

include h hv hx

theorem IsOn.name_eq_iff {w : PlannedVlan} (hw : l.IsOn s p w) :
    w.name = x.2.name ↔ l.IsAt s x := by
  obtain ⟨y, hy, hmem, hname⟩ := hw.exists_isAt h hv
  rw [hname]
  constructor
  · intro hn
    rwa [← Site.eq_of_name_eq h hmem hx hn]
  · intro hat
    rw [hy.unique hat]

theorem IsIn.eq_name_iff {zone : String} {whole : Endpoint} (hz : l.IsIn s p zone whole) :
    zone = x.2.name ↔ l.IsAt s x := by
  cases hz with
  | internet hs =>
    refine iff_of_false (Site.name_ne_of_mem_vlans h hx).1.symm ?_
    rintro ⟨ref, hvlan, -⟩
    cases hs.symm.trans hvlan
  | vlan hw => exact hw.name_eq_iff h hv hx

/-- The endpoints of a locator other than that of all vlans are in the zone of a
    vlan if the locator leads there. -/
theorem StandsFor.zone_eq_iff (he : l.StandsFor s p e) (hs : l.scope ≠ .all) :
    e.endpoint.zone = x.2.name ↔ l.IsAt s x := by
  cases standsFor_iff.1 he with
  | routable hall => exact absurd hall hs
  | firewall hfirewall =>
    refine iff_of_false (Site.name_ne_of_mem_vlans h hx).2.symm ?_
    rintro ⟨ref, hvlan, -⟩
    cases hfirewall.symm.trans hvlan
  | whole hz =>
    rw [hz.zone_eq]
    exact hz.eq_name_iff h hv hx
  | narrowed hz hl =>
    rw [hl.zone_eq]
    exact hz.eq_name_iff h hv hx
  | host hw => exact hw.name_eq_iff h hv hx

end

theorem exists_isAt_of_scope {ref : VlanRef} (hs : l.scope = .vlan ref) (he : l.StandsFor s p e) :
    ∃ y, l.IsAt s y := by
  obtain ⟨es, hes, -⟩ := he
  rw [endpoints, hs] at hes
  dsimp only [vlanEndpoints] at hes
  cases hy : s.lookupVlan? l.switch ref with
  | none =>
    rw [hy] at hes
    cases hes
  | some y => exact ⟨y, ref, hs, hy⟩

/-- A checked locator for no vlan stands for something all the same. -/
theorem exists_standsFor_of_outside {place : Place} (hl : l.findings s place = [])
    (hs : l.scope = .firewall ∨ l.scope = .internet) : ∃ e, l.StandsFor s p e := by
  unfold StandsFor endpoints
  rcases hs with hs | hs
  · rw [hs]
    exact ⟨_, _, rfl, List.mem_singleton_self _⟩
  · rw [hs]
    have hnarrowing : l.narrowingFindings s place = [] := (List.append_eq_nil_iff.1 hl).1
    obtain ⟨e, he⟩ := exists_zoneEndpoint hnarrowing internetZone .internet
    exact ⟨e, _, he, List.mem_singleton_self e⟩

/-! ## Switches of locators -/

/-- All that the locator stands for is in the zones of vlans of the switch. -/
def KeepsTo (s : Site) (p : AddressPlan) (switch : String) (l : Locator) : Prop :=
  ∀ e, l.StandsFor s p e → ∃ x ∈ s.vlans, x.1.name = switch ∧ e.endpoint.zone = x.2.name

theorem IsAt.switch_eq {switch : String} (hx : l.IsAt s x) (hs : l.switch = some switch) :
    x.1.name = switch := by
  obtain ⟨ref, -, hx⟩ := hx
  rw [hs, Site.lookupVlan?] at hx
  obtain ⟨found, hfound, hx⟩ := Option.bind_eq_some_iff.1 hx
  obtain ⟨v, -, rfl⟩ := Option.map_eq_some_iff.1 hx
  exact beq_iff_eq.1 (List.find?_some (p := fun y : Switch => y.name == switch) hfound)

section

variable (h : s.findings = []) (hv : p.vlans = s.planVlans) {switch : String}

include h hv

theorem keepsTo_of_vlan {ref : VlanRef} (hscope : l.scope = .vlan ref)
    (hs : l.switch = some switch) : l.KeepsTo s p switch := by
  intro e he
  obtain ⟨y, hy⟩ := exists_isAt_of_scope hscope he
  have hmem : y ∈ s.vlans := by
    obtain ⟨_, -, hfound⟩ := hy
    exact (Site.mem_vlans_of_lookupVlan? hfound).1
  refine ⟨y, hmem, hy.switch_eq hs, (he.zone_eq_iff h hv hmem ?_).2 hy⟩
  rw [hscope]
  exact nofun

theorem keepsTo_iff_of_all (hscope : l.scope = .all) :
    l.KeepsTo s p switch ↔ ∀ x ∈ s.routableVlans, x.1.name = switch := by
  constructor
  · intro hkeeps x hx
    obtain ⟨y, hy, hswitch, hzone⟩ :=
      hkeeps _ ((standsFor_of_scope_all h hv hscope).2 ⟨x, hx, rfl⟩)
    rw [Site.eq_of_name_eq h (List.mem_filter.1 hx).1 hy hzone]
    exact hswitch
  · intro hall e he
    obtain ⟨x, hx, rfl⟩ := (standsFor_of_scope_all h hv hscope).1 he
    exact ⟨x, (List.mem_filter.1 hx).1, hall x hx, rfl⟩

theorem not_keepsTo_of_outside {place : Place} (hl : l.findings s place = [])
    (hs : l.scope = .firewall ∨ l.scope = .internet) : ¬l.KeepsTo s p switch := by
  intro hkeeps
  obtain ⟨e, he⟩ := exists_standsFor_of_outside hl hs
  obtain ⟨x, hx, -, hzone⟩ := hkeeps e he
  have hall : l.scope ≠ .all := by rcases hs with hs | hs <;> simp [hs]
  obtain ⟨ref, hvlan, -⟩ := (he.zone_eq_iff h hv hx hall).1 hzone
  rw [hvlan] at hs
  simp at hs

end

end Locator

namespace Site

variable {s : Site} {p : AddressPlan} {r : Rule} {l : Locator} {switch : String}

/-- **Which locators keep to their switch**: those for a vlan do.  One for all vlans
    does not, unless all routable vlans are on this switch, and one for the router or
    for everything outside never does. -/
theorem keepsTo_iff (h : s.findings = []) (hp : s.addressPlan = .ok p) (hr : r ∈ s.policy.rules)
    (hl : l ∈ r.sources ++ r.destinations) (hs : l.switch = some switch) :
    l.KeepsTo s p switch ↔
      (∃ ref, l.scope = .vlan ref) ∨ l.scope = .all ∧ ∀ x ∈ s.routableVlans, x.1.name = switch := by
  have hv := vlans_of_addressPlan hp
  obtain ⟨index, hindex⟩ := exists_mem_zipIdx hr
  have hfindings := locatorFindings_of_mem h hindex hl
  cases hscope : l.scope with
  | all => simp [Locator.keepsTo_iff_of_all h hv hscope]
  | internet => simp [Locator.not_keepsTo_of_outside h hv hfindings (.inr hscope)]
  | firewall => simp [Locator.not_keepsTo_of_outside h hv hfindings (.inl hscope)]
  | vlan ref => simp [Locator.keepsTo_of_vlan h hv hscope hs]

/-- A rule from a vlan and from all vlans, both with the same switch. -/
def branchRule : Rule where
  comment := "web"
  sources := [
    { vlan := .name "lan", switch := some "core" },
    { vlan := .name "all", switch := some "core" }]
  destinations := [.outside]
  allow := [.named "ssh"]

/-- A site with a vlan on each of two switches. -/
def branches : Site where
  name := "home"
  domain := "example.net"
  switches := [
    { name := "core"
      vlans := [{ name := "lan", ipv4Subnet := "10.0.0.0/24", allowDhcp := false }] },
    { name := "edge"
      vlans := [{ name := "guest", ipv4Subnet := "10.0.1.0/24", allowDhcp := false }] }]
  policy := { rules := [branchRule] }

theorem addressPlan_branches : branches.addressPlan = .ok branches.plannedAddresses :=
  addressPlan_eq_ok (by decide) (by decide)

/-- The locator for a vlan keeps to its switch. -/
theorem branches_kept : branches.findings = [] ∧
    branches.addressPlan = .ok branches.plannedAddresses ∧
    ∃ r ∈ branches.policy.rules, ∃ l ∈ r.sources ++ r.destinations, l.switch = some "core" ∧
      l.KeepsTo branches branches.plannedAddresses "core" := by
  have hf : branches.findings = [] := by decide
  have hr : branchRule ∈ branches.policy.rules := List.mem_singleton_self _
  have hl : { vlan := .name "lan", switch := some "core" } ∈
    branchRule.sources ++ branchRule.destinations := List.mem_cons_self
  exact ⟨hf, addressPlan_branches, _, hr, _, hl, rfl,
    (keepsTo_iff hf addressPlan_branches hr hl rfl).2 (.inl ⟨_, rfl⟩)⟩

/-- **Switches are ignored.**  The locator for all vlans leads to the vlan of the
    other switch. -/
theorem branches_left : branches.findings = [] ∧
    branches.addressPlan = .ok branches.plannedAddresses ∧
    ∃ r ∈ branches.policy.rules, ∃ l ∈ r.sources ++ r.destinations, l.switch = some "core" ∧
      ¬l.KeepsTo branches branches.plannedAddresses "core" := by
  have hr : branchRule ∈ branches.policy.rules := List.mem_singleton_self _
  have hl : { vlan := .name "all", switch := some "core" } ∈
    branchRule.sources ++ branchRule.destinations := by decide
  refine ⟨by decide, addressPlan_branches, _, hr, _, hl, rfl, fun hkeeps => ?_⟩
  obtain ⟨x, hx, hswitch, hzone⟩ :=
    hkeeps { endpoint := .vlan "guest", fromAll := true } ⟨_, rfl, by decide⟩
  have hcore : ∀ x ∈ branches.vlans, x.1.name = "core" → x.2.name ≠ "guest" := by decide
  exact hcore x hx hswitch hzone.symm

end Site

end NetworkSite
