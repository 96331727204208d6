/-
  Declared rules that open nothing.

  Every side of a checked rule has locators, and a rule with a locator for nothing
  cannot be expanded.  So a rule has no tuples in two cases only
  (`Site.opens_nothing_iff`): all its services list no ports, or it leads from all
  vlans to a single one and this is the only one that all vlans stand for, as the
  locator of all vlans pairs none with itself.  Neither is a fault
  (`Site.lonely_rules`).
-/
import NetworkSite.Proofs.Expansions
import NetworkSite.Proofs.LocatorZones

namespace NetworkSite

/-! ## Ports -/

/-- The service is a protocol with an empty list of ports. -/
def ServiceSpec.ListsNoPorts (service : ServiceSpec) : Prop :=
  ∃ protocol comment, service = .ports protocol (.many []) comment

/-- None of the services of an action lists a port. -/
inductive RuleAction.ListsNoPorts : RuleAction → Prop
  | allow {services : List ServiceSpec} (h : ∀ service ∈ services, service.ListsNoPorts) :
      ListsNoPorts (.allow services)
  | forward {services : List ServiceSpec} (h : ∀ service ∈ services, service.ListsNoPorts) :
      ListsNoPorts (.forward services)

theorem Service.servicePorts_ne_nil {name : String} {service : Service}
    (h : ofName? name = some service) : service.servicePorts ≠ [] := by
  have hcatalog : ∀ service ∈ catalog, service.ports ≠ [] := by decide
  rw [servicePorts, ne_eq, List.map_eq_nil_iff]
  exact hcatalog service (List.mem_of_find?_eq_some h)

namespace ServiceSpec

theorem eq_nil_iff_of_resolve {service : ServiceSpec} {ports : List ServicePort}
    (h : service.resolve = .ok ports) : ports = [] ↔ service.ListsNoPorts := by
  cases service with
  | named name =>
    refine iff_of_false ?_ (by rintro ⟨_, _, hne⟩; cases hne)
    rw [resolve] at h
    split at h
    next found hfound =>
      obtain rfl := Except.ok.inj h
      exact Service.servicePorts_ne_nil hfound
    next => cases h
  | ports name values comment =>
    obtain ⟨protocol, -, -, hvalues⟩ := resolve_ports_eq_ok.1 h
    have hlength := (forall₂_of_mapM_eq_ok hvalues).length_eq
    rw [← List.length_eq_zero_iff, ← hlength, List.length_eq_zero_iff]
    cases values with
    | one value =>
      exact iff_of_false (List.cons_ne_nil value []) (by rintro ⟨_, _, hne⟩; cases hne)
    | many values =>
      constructor
      · rintro rfl
        exact ⟨name, comment, rfl⟩
      · rintro ⟨_, _, heq⟩
        cases heq
        rfl

theorem flatten_eq_nil_iff {services : List ServiceSpec} {ports : List (List ServicePort)}
    (h : services.mapM resolve = .ok ports) :
    ports.flatten = [] ↔ ∀ service ∈ services, service.ListsNoPorts := by
  have hports := forall₂_of_mapM_eq_ok h
  clear h
  induction hports with
  | nil => simp
  | cons hab _ ih =>
    rw [List.flatten_cons, List.append_eq_nil_iff, List.forall_mem_cons]
    exact and_congr (eq_nil_iff_of_resolve hab) ih

end ServiceSpec

theorem RuleAction.Opens.flatten_eq_nil_iff {action : RuleAction} {ports : List (List ServicePort)}
    (h : action.Opens ports) : ports.flatten = [] ↔ action.ListsNoPorts := by
  cases h with
  | allowAll => exact iff_of_false nofun nofun
  | allow h =>
    rw [ServiceSpec.flatten_eq_nil_iff h]
    exact ⟨.allow, fun | .allow h => h⟩
  | forward h =>
    rw [ServiceSpec.flatten_eq_nil_iff h]
    exact ⟨.forward, fun | .forward h => h⟩

/-! ## Zones of locators -/

namespace Locator

variable {s : Site} {p : AddressPlan} {l : Locator} {e : SideEndpoint} {x : Switch × Vlan}

/-- What the locators of one list stand for is in the zone of what those of the
    other list stand for. -/
def ShareZone (s : Site) (p : AddressPlan) (locators others : List Locator) : Prop :=
  ∀ l ∈ locators, ∀ e, l.StandsFor s p e → ∀ k ∈ others, ∀ f, k.StandsFor s p f →
    e.endpoint.zone = f.endpoint.zone

theorem ShareZone.symm {locators others : List Locator} (h : ShareZone s p locators others) :
    ShareZone s p others locators :=
  fun k hk f hf l hl e he => (h l hl e he k hk f hf).symm

/-- All that there is at the only routable vlan is in its zone. -/
theorem StandsFor.zone_eq (h : s.findings = []) (hv : p.vlans = s.planVlans)
    (hx : s.routableVlans = [x]) (hl : l.scope = .all ∨ l.IsAt s x) (he : l.StandsFor s p e) :
    e.endpoint.zone = x.2.name := by
  by_cases hs : l.scope = .all
  · obtain ⟨y, hy, rfl⟩ := (standsFor_of_scope_all h hv hs).1 he
    rw [hx] at hy
    rw [List.mem_singleton.1 hy]
    rfl
  · have hmem : x ∈ s.routableVlans := hx ▸ List.mem_singleton_self x
    exact (he.zone_eq_iff h hv (List.mem_filter.1 hmem).1 hs).2 (hl.resolve_left hs)

theorem routableVlans_eq_singleton (h : s.findings = []) (hx : x ∈ s.routableVlans)
    (hnames : ∀ y ∈ s.routableVlans, y.2.name = x.2.name) : s.routableVlans = [x] := by
  have hnodup : s.routableVlans.Nodup := (((Site.nodup_names h).of_map _).of_map _).filter _
  refine eq_singleton_of_nodup hnodup hx fun y hy => ?_
  exact Site.eq_of_name_eq h (List.mem_filter.1 hy).1 (List.mem_filter.1 hx).1 (hnames y hy)

/-- The locator of all vlans shares the zone of others if there is only one vlan
    that it stands for, and they lead there. -/
theorem shareZone_iff (h : s.findings = []) (hv : p.vlans = s.planVlans)
    {locators others : List Locator} (hall : ∀ l ∈ locators, l.scope = .all)
    (hl : ∃ l ∈ locators, ∃ e, l.StandsFor s p e) (ho : others ≠ [])
    (hothers : ∀ k ∈ others, ∃ f, k.StandsFor s p f) :
    ShareZone s p locators others ↔
      ∃ x, s.routableVlans = [x] ∧ ∀ k ∈ others, k.scope = .all ∨ k.IsAt s x := by
  constructor
  · intro hshare
    obtain ⟨l, hl, e, he⟩ := hl
    obtain ⟨x, hx, rfl⟩ := (standsFor_of_scope_all h hv (hall l hl)).1 he
    refine ⟨x, routableVlans_eq_singleton h hx fun y hy => ?_, fun k hk => ?_⟩
    · obtain ⟨k, hk⟩ := List.exists_mem_of_ne_nil others ho
      obtain ⟨f, hf⟩ := hothers k hk
      have he' := (standsFor_of_scope_all h hv (hall l hl)).2 ⟨y, hy, rfl⟩
      exact (hshare l hl _ he' k hk f hf).trans (hshare l hl _ he k hk f hf).symm
    · by_cases hs : k.scope = .all
      · exact .inl hs
      · obtain ⟨f, hf⟩ := hothers k hk
        have hzone := (hshare l hl _ he k hk f hf).symm
        exact .inr ((hf.zone_eq_iff h hv (List.mem_filter.1 hx).1 hs).1 hzone)
  · rintro ⟨x, hx, hat⟩ l hl e he k hk f hf
    rw [he.zone_eq h hv hx (.inl (hall l hl)), hf.zone_eq h hv hx (hat k hk)]

end Locator

/-! ## Rules -/

namespace Rule

variable {s : Site} {p : AddressPlan} {r : Rule}

/-- The rule leads from all vlans to a vlan, or from there to all vlans, and this
    is the only vlan that is routable. -/
def StaysOn (s : Site) (x : Switch × Vlan) (r : Rule) : Prop :=
  s.routableVlans = [x] ∧
    ((∀ l ∈ r.sources, l.scope = .all) ∧ (∀ k ∈ r.destinations, k.scope = .all ∨ k.IsAt s x) ∨
      (∀ k ∈ r.destinations, k.scope = .all) ∧ ∀ l ∈ r.sources, l.scope = .all ∨ l.IsAt s x)

/-- All pairs of a source and a destination are skipped. -/
def SkipsAll (s : Site) (p : AddressPlan) (r : Rule) : Prop :=
  ∀ l ∈ r.sources, ∀ e, l.StandsFor s p e → ∀ k ∈ r.destinations, ∀ f, k.StandsFor s p f →
    isSkipped e f = true

theorem tuples_eq_nil_iff :
    r.tuples s p = [] ↔ valuesOf r.portResults = [] ∨ r.SkipsAll s p := by
  constructor
  · intro hnil
    by_cases hports : valuesOf r.portResults = []
    · exact .inl hports
    · obtain ⟨port, hport⟩ := List.exists_mem_of_ne_nil _ hports
      refine .inr fun l hl e he k hk f hf => ?_
      by_contra hskip
      have hmem := mem_tuples.2 ⟨e, f, ⟨l, hl, he⟩, ⟨k, hk, hf⟩, Bool.eq_false_iff.2 hskip,
        port, hport, rfl⟩
      rw [hnil] at hmem
      cases hmem
  · intro hnone
    refine List.eq_nil_iff_forall_not_mem.2 fun t ht => ?_
    obtain ⟨e, f, ⟨l, hl, he⟩, ⟨k, hk, hf⟩, hskip, port, hport, -⟩ := mem_tuples.1 ht
    rcases hnone with hports | hall
    · rw [hports] at hport
      cases hport
    · cases hskip.symm.trans (hall l hl e he k hk f hf)

/-- All pairs are skipped if one side is all vlans and both are in one zone. -/
theorem skipsAll_iff (hs : ∀ l ∈ r.sources, ∃ e, l.StandsFor s p e)
    (hd : ∀ k ∈ r.destinations, ∃ f, k.StandsFor s p f) : r.SkipsAll s p ↔
      ((∀ l ∈ r.sources, l.scope = .all) ∨ ∀ k ∈ r.destinations, k.scope = .all) ∧
        Locator.ShareZone s p r.sources r.destinations := by
  have hpair : ∀ {l k : Locator} {e f : SideEndpoint}, l.StandsFor s p e → k.StandsFor s p f →
      (isSkipped e f = true ↔
        (l.scope = .all ∨ k.scope = .all) ∧ e.endpoint.zone = f.endpoint.zone) := by
    intro l k e f he hf
    rw [isSkipped, Bool.and_eq_true, Bool.or_eq_true, he.fromAll_iff, hf.fromAll_iff, beq_iff_eq]
  constructor
  · intro hskip
    refine ⟨?_, fun l hl e he k hk f hf => ((hpair he hf).1 (hskip l hl e he k hk f hf)).2⟩
    by_contra! hboth
    obtain ⟨⟨l, hl, hlall⟩, k, hk, hkall⟩ := hboth
    obtain ⟨e, he⟩ := hs l hl
    obtain ⟨f, hf⟩ := hd k hk
    rcases ((hpair he hf).1 (hskip l hl e he k hk f hf)).1 with hall | hall
    · exact hlall hall
    · exact hkall hall
  · rintro ⟨hall, hshare⟩ l hl e he k hk f hf
    exact (hpair he hf).2 ⟨hall.imp (· l hl) (· k hk), hshare l hl e he k hk f hf⟩

theorem skipsAll_iff_staysOn (h : s.findings = []) (hv : p.vlans = s.planVlans)
    (hr : r.IsExpandable s p) (hs : r.sources ≠ []) (hd : r.destinations ≠ []) :
    r.SkipsAll s p ↔ ∃ x, r.StaysOn s x := by
  have hsources := fun l hl => hr.locators l (List.mem_append_left r.destinations hl)
  have hdestinations := fun l hl => hr.locators l (List.mem_append_right r.sources hl)
  obtain ⟨l, hl⟩ := List.exists_mem_of_ne_nil _ hs
  obtain ⟨k, hk⟩ := List.exists_mem_of_ne_nil _ hd
  have hfrom := fun hall =>
    Locator.shareZone_iff h hv hall ⟨l, hl, hsources l hl⟩ hd hdestinations
  have hto := fun hall =>
    Locator.shareZone_iff h hv hall ⟨k, hk, hdestinations k hk⟩ hs hsources
  rw [skipsAll_iff hsources hdestinations]
  constructor
  · rintro ⟨hall | hall, hshare⟩
    · obtain ⟨x, hx, hat⟩ := (hfrom hall).1 hshare
      exact ⟨x, hx, .inl ⟨hall, hat⟩⟩
    · obtain ⟨x, hx, hat⟩ := (hto hall).1 hshare.symm
      exact ⟨x, hx, .inr ⟨hall, hat⟩⟩
  · rintro ⟨x, hx, ⟨hall, hat⟩ | ⟨hall, hat⟩⟩
    · exact ⟨.inl hall, (hfrom hall).2 ⟨x, hx, hat⟩⟩
    · exact ⟨.inr hall, ((hto hall).2 ⟨x, hx, hat⟩).symm⟩

end Rule

namespace Site

open Finding

variable {s : Site} {p : AddressPlan} {r : Rule} {tuples : List RuleTuple}

theorem sides_ne_nil (h : s.findings = []) (hr : r ∈ s.policy.rules) :
    r.sources ≠ [] ∧ r.destinations ≠ [] := by
  obtain ⟨index, hindex⟩ := exists_mem_zipIdx hr
  have hrule := ruleFindings_of_mem h hindex
  simp only [Rule.findings, List.append_eq_nil_iff, forbid_eq_nil,
    List.isEmpty_eq_false_iff] at hrule
  exact hrule.1

/-- **When a declared rule opens nothing** although nothing stands in its way: if its
    services list no ports, or if it leads from all vlans to the only one that is
    routable or back. -/
theorem opens_nothing_iff (h : s.findings = []) (hp : s.addressPlan = .ok p)
    (hr : r ∈ s.policy.rules) (ht : r.expand s p = .ok tuples) :
    tuples = [] ↔ r.action.ListsNoPorts ∨ ∃ x, r.StaysOn s x := by
  obtain ⟨hexpandable, rfl⟩ := Rule.expand_eq_ok_iff.1 ht
  obtain ⟨ports, hports⟩ := Rule.exists_opens hexpandable.services hexpandable.acts
  obtain ⟨hsources, hdestinations⟩ := sides_ne_nil h hr
  rw [Rule.tuples_eq_nil_iff, Rule.valuesOf_portResults hports, hports.flatten_eq_nil_iff,
    Rule.skipsAll_iff_staysOn h (vlans_of_addressPlan hp) hexpandable hsources hdestinations]

/-- The rules of a site with two routable vlans open something. -/
theorem backups_open : (backups "lab").findings = [] ∧
    (backups "lab").addressPlan = .ok (backupsPlan "lab") ∧
    ∀ r ∈ (backups "lab").policy.rules, ∃ tuples,
      r.expand (backups "lab") (backupsPlan "lab") = .ok tuples ∧ tuples ≠ [] := by
  have hf : (backups "lab").findings = [] := by decide
  have hp : (backups "lab").addressPlan = .ok (backupsPlan "lab") :=
    addressPlan_eq_ok_iff.2 ⟨by decide, by decide, rfl⟩
  refine ⟨hf, hp, fun r hr => ?_⟩
  have hfaults : ∀ r ∈ (backups "lab").policy.rules,
      r.faults (backups "lab") (backupsPlan "lab") = [] ∧ r.action = .allow [.named "ssh"] := by
    decide
  obtain ⟨hnone, haction⟩ := hfaults r hr
  have ht := Rule.expand_eq_ok_iff.2 ⟨Rule.faults_eq_nil_iff.1 hnone, rfl⟩
  refine ⟨_, ht, (opens_nothing_iff hf hp hr ht).not.2 ?_⟩
  rintro (hports | ⟨x, hx, -⟩)
  · rw [haction] at hports
    cases hports with
    | allow h =>
      obtain ⟨_, _, hssh⟩ := h _ List.mem_cons_self
      cases hssh
  · have htwo : (backups "lab").routableVlans.length = 2 := by decide
    rw [hx] at htwo
    cases htwo

/-- A site with one vlan, a rule without ports and a rule from all vlans to all
    vlans. -/
def lonely : Site where
  name := "home"
  domain := "example.net"
  switches := [{
    name := "sw"
    vlans := [{ name := "lan", ipv4Subnet := "10.0.0.0/24", allowDhcp := false }] }]
  policy := {
    rules := [
      { comment := "idle", sources := [.ofVlan "lan"], destinations := [.outside]
        allow := [.ports "tcp" (.many []) ""] },
      { comment := "circle", sources := [.everywhere], destinations := [.everywhere]
        allow := [.named "ssh"] }] }

def lonelyPlan : AddressPlan where
  vlans := lonely.planVlans
  hosts := lonely.planHosts
  request := lonely.prefixRequest?

/-- **Rules may vanish.**  Neither rule of the site has a fault, and neither opens
    anything. -/
theorem lonely_rules : lonely.findings = [] ∧ lonely.addressPlan = .ok lonelyPlan ∧
    lonely.policy.rules ≠ [] ∧ ∀ r ∈ lonely.policy.rules, r.expand lonely lonelyPlan = .ok [] := by
  have hp : lonely.addressPlan = .ok lonelyPlan :=
    addressPlan_eq_ok_iff.2 ⟨by decide, by decide, rfl⟩
  exact ⟨by decide, hp, by decide, by decide⟩

end Site

end NetworkSite
