/-
  What is left of the tuples of rules.

  Of the tuples with one key one is left (`RuleTuple.exists_mem_normalize`).  A
  key has the names of the endpoints, so tuples with one key agree in all but
  their comments unless a vlan is called like another zone with a colon and more
  (`Site.rules_kept`).  Then a tuple may be lost (`Site.backups_lost`).
-/
import NetworkSite.Proofs.EndpointNames
import NetworkSite.Proofs.ImpliedRules

namespace NetworkSite

/-! ## Keys -/

theorem Protocol.rank_inj {a b : Protocol} (h : a.rank = b.rank) : a = b := by
  revert h
  cases a <;> cases b <;> decide

theorem TupleAction.rank_inj {a b : TupleAction} (h : a.rank = b.rank) : a = b := by
  revert h
  cases a <;> cases b <;> decide

namespace RuleTuple

variable {t u : RuleTuple} {tuples : List RuleTuple}

theorem portRanks_inj {a b : Option PortRange} (h : portRanks a = portRanks b) : a = b := by
  cases a with
  | none =>
    cases b with
    | none => rfl
    | some r =>
      have hzero : 0 = r.first := (List.cons.inj h).1
      exact absurd hzero (Nat.ne_of_lt r.first_pos)
  | some q =>
    cases b with
    | none =>
      have hzero : q.first = 0 := (List.cons.inj h).1
      exact absurd hzero.symm (Nat.ne_of_lt q.first_pos)
    | some r =>
      obtain ⟨hfirst, hrest⟩ := List.cons.inj h
      exact congrArg some (PortRange.ext hfirst (List.cons.inj hrest).1)

/-- A key tells everything but the endpoints behind their names, and the
    comment. -/
theorem key_eq_iff : t.key = u.key ↔
    t.source.name = u.source.name ∧ t.destination.name = u.destination.name ∧
      t.protocol = u.protocol ∧ t.ports = u.ports ∧ t.action = u.action := by
  constructor
  · intro hk
    obtain ⟨hs, hd, hranks⟩ := RuleKey.mk.inj hk
    obtain ⟨hprotocol, hrest⟩ := List.cons.inj hranks
    obtain ⟨hports, haction⟩ := List.append_inj' hrest rfl
    exact ⟨hs, hd, Protocol.rank_inj hprotocol, portRanks_inj hports,
      TupleAction.rank_inj (List.cons.inj haction).1⟩
  · rintro ⟨hs, hd, hprotocol, hports, haction⟩
    rw [key, key, hs, hd, hprotocol, hports, haction]

/-! ## Dropping repeats -/

theorem mem_of_mem_dropRepeats (ht : t ∈ dropRepeats tuples) : t ∈ tuples := by
  fun_induction dropRepeats tuples with
  | case1 => exact ht
  | case2 => exact ht
  | case3 a b rest hk ih =>
    rcases List.mem_cons.1 (ih ht) with rfl | hr
    · exact List.mem_cons_self
    · exact List.mem_cons_of_mem _ (List.mem_cons_of_mem _ hr)
  | case4 a b rest hk ih =>
    rcases List.mem_cons.1 ht with rfl | hr
    · exact List.mem_cons_self
    · exact List.mem_cons_of_mem _ (ih hr)

/-- A tuple with each key stays. -/
theorem exists_mem_dropRepeats (ht : t ∈ tuples) : ∃ u ∈ dropRepeats tuples, u.key = t.key := by
  fun_induction dropRepeats tuples generalizing t with
  | case1 => cases ht
  | case2 a => exact ⟨t, ht, rfl⟩
  | case3 a b rest hk ih =>
    rcases List.mem_cons.1 ht with rfl | ht
    · exact ih List.mem_cons_self
    · rcases List.mem_cons.1 ht with rfl | ht
      · rw [← hk]
        exact ih List.mem_cons_self
      · exact ih (List.mem_cons_of_mem _ ht)
  | case4 a b rest hk ih =>
    rcases List.mem_cons.1 ht with rfl | ht
    · exact ⟨t, List.mem_cons_self, rfl⟩
    · obtain ⟨u, hu, hk⟩ := ih ht
      exact ⟨u, List.mem_cons_of_mem _ hu, hk⟩

theorem mem_of_mem_normalize (ht : t ∈ normalize tuples) : t ∈ tuples :=
  List.mem_mergeSort.1 (mem_of_mem_dropRepeats ht)

theorem exists_mem_normalize (ht : t ∈ tuples) : ∃ u ∈ normalize tuples, u.key = t.key :=
  exists_mem_dropRepeats (List.mem_mergeSort.2 ht)

theorem mem_normalize_of_nodup (hn : (tuples.map (·.key)).Nodup) (ht : t ∈ tuples) :
    t ∈ normalize tuples := by
  obtain ⟨u, hu, hk⟩ := exists_mem_normalize ht
  obtain rfl := eq_of_key_eq hn (mem_of_mem_normalize hu) ht hk
  exact hu

end RuleTuple

/-! ## The endpoints of rules -/

theorem mem_valuesOf {ε α : Type} {results : List (Except ε (List α))} {a : α} :
    a ∈ valuesOf results ↔ ∃ values, .ok values ∈ results ∧ a ∈ values := by
  rw [valuesOf, List.mem_flatMap]
  constructor
  · rintro ⟨result, hr, ha⟩
    cases result with
    | error => cases ha
    | ok values => exact ⟨values, hr, ha⟩
  · rintro ⟨values, hr, ha⟩
    exact ⟨.ok values, hr, ha⟩

open Endpoint

variable {s : Site} {p : AddressPlan} {t u : RuleTuple} {e f : Endpoint}

theorem Locator.endpoints_of_sideEndpoints {l : Locator} {side : Side} {es : List SideEndpoint}
    (hl : l.sideEndpoints s p side = .ok es) : l.endpoints s p = .ok es := by
  unfold sideEndpoints at hl
  split at hl
  next => cases hl
  next => exact hl

theorem Locator.mem_sideEndpoints {side : Side} {locators : List Locator} {e : SideEndpoint} :
    e ∈ valuesOf (locators.map (·.sideEndpoints s p side)) ↔
      ∃ l ∈ locators, l.StandsFor s p e := by
  simp only [mem_valuesOf, List.mem_map]
  constructor
  · rintro ⟨es, ⟨l, hl, hes⟩, he⟩
    exact ⟨l, hl, es, endpoints_of_sideEndpoints hes, he⟩
  · rintro ⟨l, hl, es, hes, he⟩
    refine ⟨es, ⟨l, hl, ?_⟩, he⟩
    unfold sideEndpoints
    split
    next hnil =>
      obtain rfl := Except.ok.inj (hnil.symm.trans hes)
      cases he
    next => exact hes

/-- A tuple of a rule is for one source, one destination and one port. -/
theorem Rule.mem_tuples {r : Rule} : t ∈ r.tuples s p ↔
    ∃ e f, (∃ l ∈ r.sources, l.StandsFor s p e) ∧ (∃ l ∈ r.destinations, l.StandsFor s p f) ∧
      isSkipped e f = false ∧ ∃ port ∈ valuesOf r.portResults, t = r.tuple e f port := by
  simp only [tuples, List.mem_flatMap, sourceResults, destinationResults, Locator.mem_sideEndpoints]
  constructor
  · rintro ⟨e, he, f, hf, ht⟩
    split at ht
    next => cases ht
    next hs =>
      obtain ⟨port, hport, rfl⟩ := List.mem_map.1 ht
      exact ⟨e, f, he, hf, by simpa using hs, port, hport, rfl⟩
  · rintro ⟨e, f, he, hf, hs, port, hport, rfl⟩
    refine ⟨e, he, f, hf, ?_⟩
    rw [hs]
    exact List.mem_map_of_mem hport

theorem Rule.denoted_of_mem_tuples (h : s.findings = []) (hv : p.vlans = s.planVlans) {r : Rule}
    (ht : t ∈ r.tuples s p) : Denoted p t.source ∧ Denoted p t.destination := by
  obtain ⟨e, f, ⟨l, -, he⟩, ⟨k, -, hf⟩, -, port, -, rfl⟩ := mem_tuples.1 ht
  exact ⟨he.denoted h hv, hf.denoted h hv⟩

namespace Site

theorem map_snd_labelledRules (s : Site) :
    s.labelledRules.map (·.2) = s.policy.rules ++ s.impliedRules := by
  rw [labelledRules, List.map_append, List.map_map, List.map_map]
  congr 1
  · exact List.zipIdx_map_fst 0 s.policy.rules
  · exact List.map_id _

theorem ruleTuples_eq (s : Site) (p : AddressPlan) :
    s.ruleTuples p = (s.policy.rules ++ s.impliedRules).flatMap (·.tuples s p) := by
  rw [← map_snd_labelledRules, List.flatMap_map]
  rfl

theorem denoted_of_mem_ruleTuples (h : s.findings = []) (hv : p.vlans = s.planVlans)
    (ht : t ∈ s.ruleTuples p) : Denoted p t.source ∧ Denoted p t.destination := by
  obtain ⟨⟨label, r⟩, -, ht⟩ := List.mem_flatMap.1 ht
  exact Rule.denoted_of_mem_tuples h hv ht

/-- A vlan is called like another zone with a colon and more. -/
def NestsZones (s : Site) : Prop :=
  ∃ x ∈ s.vlans, ∃ zone rest, (zone = internetZone ∨ ∃ y ∈ s.vlans, y.2.name = zone) ∧
    rest ≠ "" ∧ x.2.name = zone ++ ":" ++ rest

theorem not_nestsZones (hc : ∀ x ∈ s.vlans, ':' ∉ x.2.name.toList) : ¬s.NestsZones := by
  rintro ⟨x, hx, zone, rest, -, -, hname⟩
  refine hc x hx ?_
  rw [hname]
  simp

theorem nestsZones_of_shadows (h : s.findings = []) (hv : p.vlans = s.planVlans)
    (he : Denoted p e) (hf : Denoted p f) (hs : e.Shadows f) : s.NestsZones := by
  obtain ⟨hn, rest, hrest, hzone⟩ := hs
  obtain ⟨w, hw, hname⟩ := hf.exists_vlan (by rw [hzone]; simp)
  rw [hv] at hw
  obtain ⟨x, hx, hxname⟩ := exists_of_name_planVlans h hw
  refine ⟨x, hx, e.zone, rest, ?_, hrest, by rw [← hxname, hname, hzone]⟩
  rcases he.isZone hn with hi | ⟨v, hvlan, hvname⟩
  · exact .inl hi
  · rw [hv] at hvlan
    obtain ⟨y, hy, hyname⟩ := exists_of_name_planVlans h hvlan
    exact .inr ⟨y, hy, by rw [← hyname, hvname]⟩

theorem eq_of_agree (h : s.findings = []) (hv : p.vlans = s.planVlans) (hs : ¬s.NestsZones)
    (he : Denoted p e) (hf : Denoted p f) (ha : e.Agree f) : e = f := by
  rcases ha with heq | hef | hfe
  · exact heq
  · exact absurd (nestsZones_of_shadows h hv he hf hef) hs
  · exact absurd (nestsZones_of_shadows h hv hf he hfe) hs

theorem expandRules_eq_ok_iff {tuples : List RuleTuple} :
    s.expandRules p = .ok tuples ↔
      s.ruleErrors p = [] ∧ tuples = RuleTuple.normalize (s.ruleTuples p) := by
  unfold expandRules
  split
  next he => simp [he, eq_comm]
  next hne => exact iff_of_false nofun fun h => hne h.1

theorem firewall_eq_of_compile {templates : List Template} {plan : BuildPlan}
    (h : s.compile templates = .ok plan) :
    plan.firewall = RuleTuple.normalize (s.ruleTuples plan.addresses) :=
  (expandRules_eq_ok_iff.1 (firewall_of_compile h)).2

theorem mem_ruleTuples_of_compile {templates : List Template} {plan : BuildPlan}
    (h : s.compile templates = .ok plan) (ht : t ∈ plan.firewall) :
    t ∈ s.ruleTuples plan.addresses := by
  rw [firewall_eq_of_compile h] at ht
  exact RuleTuple.mem_of_mem_normalize ht

/-- **What is left of distinct rules.**  In a valid site with an address plan,
    tuples with one key have the same protocol, ports and action, and their
    endpoints are the same unless the zone of the one is called like that of the
    other with a colon and more.  A tuple with each key is left, and every tuple
    is left up to its comment where no vlan is called in that way. -/
theorem rules_kept {tuples : List RuleTuple} (h : s.findings = []) (hp : s.addressPlan = .ok p)
    (hr : s.expandRules p = .ok tuples) :
    (∀ t ∈ s.ruleTuples p, ∀ u ∈ s.ruleTuples p, t.key = u.key →
      t.protocol = u.protocol ∧ t.ports = u.ports ∧ t.action = u.action ∧
        t.source.Agree u.source ∧ t.destination.Agree u.destination) ∧
    (∀ t ∈ s.ruleTuples p, ∃ u ∈ tuples, u ∈ s.ruleTuples p ∧ u.key = t.key) ∧
    (¬s.NestsZones → ∀ t ∈ s.ruleTuples p, ∃ comment, { t with comment } ∈ tuples) := by
  have hv := vlans_of_addressPlan hp
  obtain ⟨-, rfl⟩ := expandRules_eq_ok_iff.1 hr
  have hagree : ∀ t ∈ s.ruleTuples p, ∀ u ∈ s.ruleTuples p, t.key = u.key →
      t.protocol = u.protocol ∧ t.ports = u.ports ∧ t.action = u.action ∧
        t.source.Agree u.source ∧ t.destination.Agree u.destination := by
    intro t ht u hu hk
    obtain ⟨hs, hd, hprotocol, hports, haction⟩ := RuleTuple.key_eq_iff.1 hk
    have hts := denoted_of_mem_ruleTuples h hv ht
    have hus := denoted_of_mem_ruleTuples h hv hu
    exact ⟨hprotocol, hports, haction, agree_of_name_eq h hv hts.1 hus.1 hs,
      agree_of_name_eq h hv hts.2 hus.2 hd⟩
  have hkept : ∀ t ∈ s.ruleTuples p,
      ∃ u ∈ RuleTuple.normalize (s.ruleTuples p), u ∈ s.ruleTuples p ∧ u.key = t.key := by
    intro t ht
    obtain ⟨u, hu, hk⟩ := RuleTuple.exists_mem_normalize ht
    exact ⟨u, hu, RuleTuple.mem_of_mem_normalize hu, hk⟩
  refine ⟨hagree, hkept, fun hnest t ht => ?_⟩
  obtain ⟨u, hu, hmem, hk⟩ := hkept t ht
  obtain ⟨hprotocol, hports, haction, hsource, hdestination⟩ := hagree t ht u hmem hk.symm
  have hts := denoted_of_mem_ruleTuples h hv ht
  have hus := denoted_of_mem_ruleTuples h hv hmem
  have hs := eq_of_agree h hv hnest hts.1 hus.1 hsource
  have hd := eq_of_agree h hv hnest hts.2 hus.2 hdestination
  refine ⟨u.comment, ?_⟩
  rw [hs, hd, hprotocol, hports, haction]
  exact hu

/-- A site with a vlan of some name beside `lan`, a rule for this vlan and one
    for a host on `lan`. -/
def backups (vlan : String) : Site where
  name := "home"
  domain := "example.net"
  switches := [{
    name := "sw"
    vlans := [
      { name := "lan", ipv4Subnet := "10.0.0.0/24", allowDhcp := false
        staticHosts := [{ hostname := "nas", ipv4 := "10.0.0.5" }] },
      { name := vlan, id := some 20, ipv4Subnet := "10.0.1.0/24", allowDhcp := false }] }]
  policy := {
    rules := [
      { comment := "zone", sources := [{ vlan := .name vlan }], destinations := [.outside]
        allow := [.named "ssh"] },
      { comment := "host", sources := [.ofHost "lan" "nas"], destinations := [.outside]
        allow := [.named "ssh"] }] }

def backupsPlan (vlan : String) : AddressPlan where
  vlans := (backups vlan).planVlans
  hosts := (backups vlan).planHosts
  request := (backups vlan).prefixRequest?

/-- With an ordinary name of the vlan all tuples are kept. -/
theorem backups_kept : (backups "lab").findings = [] ∧
    (backups "lab").addressPlan = .ok (backupsPlan "lab") ∧ ∃ tuples,
    (backups "lab").expandRules (backupsPlan "lab") = .ok tuples ∧
    ∀ t ∈ (backups "lab").ruleTuples (backupsPlan "lab"), ∃ comment, { t with comment } ∈ tuples := by
  have hf : (backups "lab").findings = [] := by decide
  have hp : (backups "lab").addressPlan = .ok (backupsPlan "lab") :=
    addressPlan_eq_ok_iff.2 ⟨by decide, by decide, rfl⟩
  have hr := expandRules_eq_ok_iff.2
    ⟨(by decide : (backups "lab").ruleErrors (backupsPlan "lab") = []), rfl⟩
  exact ⟨hf, hp, _, hr, (rules_kept hf hp hr).2.2 (not_nestsZones (by decide))⟩

/-- The tuple of the rule for the vlan. -/
def zoneTuple : RuleTuple where
  source := .vlan "lan:nas"
  destination := .internet
  protocol := .tcp
  ports := PortRange.between? 22 22
  action := .accept
  comment := "zone"

/-- The tuple of the rule for the host. -/
def hostTuple : RuleTuple where
  source := .host "lan" "nas" [.v4 (.ofNat 0x0A000005)]
  destination := .internet
  protocol := .tcp
  ports := PortRange.between? 22 22
  action := .accept
  comment := "host"

/-- **A rule is lost**: the vlan is called like the host on the other vlan, and
    of the tuples for both only the first one is left. -/
theorem backups_lost : (backups "lan:nas").findings = [] ∧
    (backups "lan:nas").addressPlan = .ok (backupsPlan "lan:nas") ∧
    (backups "lan:nas").ruleTuples (backupsPlan "lan:nas") = [zoneTuple, hostTuple] ∧
    zoneTuple.key = hostTuple.key ∧ zoneTuple.source ≠ hostTuple.source ∧
    (backups "lan:nas").expandRules (backupsPlan "lan:nas") = .ok [zoneTuple] ∧
    ∀ comment, { hostTuple with comment } ∉ [zoneTuple] := by
  have hkey : zoneTuple.key = hostTuple.key := by decide
  have hsource : zoneTuple.source ≠ hostTuple.source := by decide
  have hp : (backups "lan:nas").addressPlan = .ok (backupsPlan "lan:nas") :=
    addressPlan_eq_ok_iff.2 ⟨by decide, by decide, rfl⟩
  have ht : (backups "lan:nas").ruleTuples (backupsPlan "lan:nas") = [zoneTuple, hostTuple] := by
    decide
  have hr : (backups "lan:nas").expandRules (backupsPlan "lan:nas") = .ok [zoneTuple] := by
    refine expandRules_eq_ok_iff.2 ⟨by decide, ?_⟩
    rw [ht, RuleTuple.normalize, List.mergeSort_of_pairwise (by decide), RuleTuple.dropRepeats,
      if_pos hkey, RuleTuple.dropRepeats]
  refine ⟨by decide, hp, ht, hkey, hsource, hr, fun comment hm => ?_⟩
  exact hsource (congrArg RuleTuple.source (List.mem_singleton.1 hm)).symm

end Site

end NetworkSite
