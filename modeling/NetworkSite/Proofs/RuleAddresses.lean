/-
  The addresses that rules are narrowed to.

  The check looks at the declared subnets of vlans only.  So an address on a vlan
  lies in a subnet of it, and one outside the site in no subnet of any vlan, as
  far as IPv4 and declared IPv6 subnets go (`Site.rule_addresses`).  An IPv6
  address is not checked on a vlan that declares no IPv6 subnet, be it that the
  vlan has none at all, and neither against the subnets that come out of a
  delegated prefix (`Site.stray_addresses`).
-/
import NetworkSite.Proofs.AddressTexts
import NetworkSite.Proofs.Coverage
import NetworkSite.Proofs.Deduplication
import NetworkSite.Proofs.Emission

namespace NetworkSite

variable {s : Site} {p : AddressPlan} {x : Switch × Vlan} {w : PlannedVlan} {a : IpAddress}
  {l : Locator} {e : SideEndpoint} {zone : String} {t : RuleTuple}

/-! ## Addresses of locators -/

namespace Locator

/-- A locator stands for an address only if it writes it. -/
theorem StandsFor.exists_text (he : l.StandsFor s p e) (ha : e.endpoint = .address zone a) :
    (∃ whole, l.IsIn s p zone whole) ∧
      ∃ text, l.ipv4.or l.ipv6 = some text ∧ IpAddress.ofText? text = some a := by
  cases standsFor_iff.1 he with
  | routable | firewall | host => cases ha
  | whole hz =>
    subst ha
    cases hz
  | narrowed hz hl =>
    subst ha
    cases hl with
    | address _ ht hread => exact ⟨⟨_, hz⟩, _, ht, hread⟩

/-- Nothing that an implied rule leads to is an address. -/
theorem not_address_of_isImplied {r : Rule} (hr : r.IsImplied s) (hl : l ∈ r.sources ++ r.destinations)
    (he : l.StandsFor s p e) : e.endpoint ≠ .address zone a := by
  intro ha
  have hnone : l.ipv4 = none ∧ l.ipv6 = none := by
    have hwhole : l.IsWhole s ∨ ∃ host ∈ s.hosts, l ∈ host.serverLocators s := by
      rcases List.mem_append.1 hl with hl | hl
      · exact .inl (hr.sources l hl)
      · exact hr.destinations l hl
    rcases hwhole with ⟨ref, rfl, -⟩ | ⟨host, -, hserver⟩
    · exact ⟨rfl, rfl⟩
    · obtain ⟨i, -, text, x, -, -, -, rfl⟩ := Site.mem_serverLocators.1 hserver
      exact ⟨rfl, rfl⟩
  obtain ⟨-, text, ht, -⟩ := he.exists_text ha
  rw [hnone.1, hnone.2] at ht
  cases ht

/-- The address that a checked locator writes is the one that the check looks
    at. -/
theorem mem_addresses {place : Place} (hl : l.narrowingFindings s place = []) {text : String}
    (ht : l.ipv4.or l.ipv6 = some text) (ha : IpAddress.ofText? text = some a) :
    a ∈ l.addresses := by
  simp only [narrowingFindings, addressFindings, List.append_eq_nil_iff, List.flatMap_eq_nil_iff,
    Option.mem_toList, Finding.require_eq_nil] at hl
  obtain ⟨⟨-, h4⟩, h6⟩ := hl
  rw [addresses, List.mem_append, Option.mem_toList, Option.mem_toList]
  rcases Option.or_eq_some_iff.1 ht with ht | ⟨-, ht⟩
  · obtain ⟨b, hb⟩ := Option.isSome_iff_exists.1 (h4 text ht)
    obtain rfl := Option.some.inj ((IpAddress.ofText?_of_v4 hb).symm.trans ha)
    exact .inl (by rw [ht, Option.bind_some, hb]; rfl)
  · obtain ⟨b, hb⟩ := Option.isSome_iff_exists.1 (h6 text ht)
    obtain rfl := Option.some.inj ((IpAddress.ofText?_of_v6 hb).symm.trans ha)
    exact .inr (by rw [ht, Option.bind_some, hb]; rfl)

end Locator

/-! ## Declared subnets and those of the plan -/

namespace Site

/-- What the check accepts on a vlan lies in it, unless it is an IPv6 address and
    the vlan declares no IPv6 subnet. -/
theorem covers_or_of_insideFindings (h : s.findings = []) (hx : x ∈ s.vlans)
    (hw : s.vlanOutline? s.effectiveDelegation x.1 x.2 = some w) {place : Place}
    (hf : Interface.insideFindings place x.2 a = []) :
    w.Covers a ∨ a.isV4 = false ∧ ∀ n, w.ipv6 ≠ .fixed n := by
  cases hs : x.2.subnetText? a with
  | some text =>
    exact .inl (covers_of_holds h hx hw (Vlan.holds_of_insideFindings hf (by rw [hs]; rfl)))
  | none =>
    cases a with
    | v4 b =>
      rw [Vlan.subnetText?, subnet4_of_vlanOutline? hw] at hs
      cases hs
    | v6 b =>
      refine .inr ⟨rfl, fun n hn => ?_⟩
      rw [ipv6_of_vlanOutline? hw, ipv6Mode_eq_fixed h hx] at hn
      rw [Vlan.subnetText?, hn] at hs
      cases hs

/-- What lies in a vlan but in no subnet that it declares is an IPv6 address out
    of the delegated prefix. -/
theorem delegated_of_covers (h : s.findings = []) (hx : x ∈ s.vlans)
    (hw : s.vlanOutline? s.effectiveDelegation x.1 x.2 = some w) (hc : w.Covers a)
    (ha : x.2.holds a = false) : a.isV4 = false ∧ ∃ share, w.ipv6 = .delegated share := by
  cases a with
  | v4 b =>
    rw [Vlan.holds_v4.2 ⟨_, subnet4_of_vlanOutline? hw, hc⟩] at ha
    cases ha
  | v6 b =>
    obtain ⟨n, hn, hb⟩ := hc
    rw [ipv6_of_vlanOutline? hw, subnet?_ipv6Mode h hx] at hn
    rcases hn with hn | ⟨hnone, share, hs, -⟩
    · rw [Vlan.holds_v6.2 ⟨n, hn, hb⟩] at ha
      cases ha
    · rw [ipv6_of_vlanOutline? hw]
      exact ⟨rfl, share, ipv6Mode_eq_delegated.2 ⟨hnone, hs⟩⟩

/-- What the check accepts outside the site lies in no declared subnet. -/
theorem not_holds_of_outsideFindings (h : s.findings = []) {place : Place}
    (hl : l.outsideFindings s place = []) (ha : a ∈ l.addresses) (hx : x ∈ s.vlans) :
    x.2.holds a = false := by
  rw [Locator.outsideFindings, List.append_eq_nil_iff, List.flatMap_eq_nil_iff] at hl
  have hfind := hl.2 a ha
  split at hfind
  next => cases hfind
  next hnone =>
    have hnot : ¬(s.namesake x.2).holds a = true := List.find?_eq_none.1 hnone x hx
    rw [namesake_eq h hx] at hnot
    exact Bool.eq_false_iff.2 hnot

/-- What is checked of an address in a zone. -/
def Checked (s : Site) (zone : String) (a : IpAddress) : Prop :=
  (zone = internetZone ∧ ∀ w ∈ s.planVlans,
    w.Covers a → a.isV4 = false ∧ ∃ share, w.ipv6 = .delegated share) ∨
  ∃ w ∈ s.planVlans, w.name = zone ∧ (w.Covers a ∨ a.isV4 = false ∧ ∀ n, w.ipv6 ≠ .fixed n)

/-- An address that a checked locator stands for. -/
theorem checked_of_standsFor (h : s.findings = []) (hv : p.vlans = s.planVlans) {place : Place}
    (hl : l.findings s place = []) (he : l.StandsFor s p e) (ha : e.endpoint = .address zone a) :
    s.Checked zone a := by
  obtain ⟨⟨whole, hzone⟩, text, ht, hread⟩ := he.exists_text ha
  rw [Locator.findings, List.append_eq_nil_iff] at hl
  obtain ⟨hnarrow, hl⟩ := hl
  have haddr := Locator.mem_addresses hnarrow ht hread
  cases hzone with
  | internet hscope =>
    refine .inl ⟨rfl, fun w hw hc => ?_⟩
    obtain ⟨x, hx, w, ho, rfl⟩ := exists_of_mem_planVlans h hw
    rw [covers_completeVlan] at hc
    rw [ipv6_completeVlan]
    rw [hscope] at hl
    exact delegated_of_covers h hx ho hc (not_holds_of_outsideFindings h hl haddr hx)
  | vlan hw =>
    obtain ⟨ref, x, hscope, hx, hw⟩ := hw
    have hmem := (mem_vlans_of_lookupVlan? hx).1
    obtain ⟨o, ho⟩ := exists_vlanOutline? (d := s.effectiveDelegation) h hmem
    obtain rfl := Option.some.inj ((vlan?_planVlans h hv hmem ho).symm.trans hw)
    refine .inr ⟨_, ?_, rfl, ?_⟩
    · exact completeVlan_mem_planVlans h hmem ho
    · simp only [hscope, Locator.vlanFindings, hx, List.append_eq_nil_iff,
        List.flatMap_eq_nil_iff] at hl
      have hinside := hl.2 a haddr
      rw [namesake_eq h hmem] at hinside
      have hcovers := covers_or_of_insideFindings h hmem ho hinside
      rwa [covers_completeVlan]

/-- The addresses of tuples are those of checked locators. -/
theorem checked_of_mem_ruleTuples (h : s.findings = []) (hv : p.vlans = s.planVlans)
    (ht : t ∈ s.ruleTuples p)
    (he : t.source = .address zone a ∨ t.destination = .address zone a) : s.Checked zone a := by
  rw [ruleTuples_eq] at ht
  obtain ⟨r, hr, ht⟩ := List.mem_flatMap.1 ht
  obtain ⟨l, e, hl, hs, ha⟩ : ∃ l e, l ∈ r.sources ++ r.destinations ∧ l.StandsFor s p e ∧
      e.endpoint = .address zone a := by
    obtain ⟨e, f, ⟨l, hl, hle⟩, ⟨k, hk, hkf⟩, -, port, -, rfl⟩ := Rule.mem_tuples.1 ht
    rcases he with he | he
    · exact ⟨l, e, List.mem_append_left _ hl, hle, he⟩
    · exact ⟨k, f, List.mem_append_right _ hk, hkf, he⟩
  rcases List.mem_append.1 hr with hr | hr
  · obtain ⟨index, hindex⟩ := exists_mem_zipIdx hr
    exact checked_of_standsFor h hv (locatorFindings_of_mem h hindex hl) hs ha
  · exact absurd ha (Locator.not_address_of_isImplied (isImplied_of_mem h hr).2 hl hs)

/-- **Where the addresses of rules lie.**  In a build plan an address is in a
    vlan or outside the site.  On a vlan it lies in a subnet of the vlan, unless
    it is an IPv6 address and the vlan declares no IPv6 subnet.  Outside it lies
    in no vlan, unless it is an IPv6 address and the subnet of the vlan is out of
    the delegated prefix. -/
theorem rule_addresses {templates : List Template} {plan : BuildPlan}
    (hc : s.compile templates = .ok plan) (ht : t ∈ plan.firewall)
    (he : t.source = .address zone a ∨ t.destination = .address zone a) :
    (zone = internetZone ∨ ∃ w ∈ plan.addresses.vlans, w.name = zone) ∧
    (∀ w ∈ plan.addresses.vlans, w.name = zone →
      w.Covers a ∨ a.isV4 = false ∧ ∀ n, w.ipv6 ≠ .fixed n) ∧
    (zone = internetZone → ∀ w ∈ plan.addresses.vlans,
      w.Covers a → a.isV4 = false ∧ ∃ share, w.ipv6 = .delegated share) := by
  obtain ⟨h, hp⟩ := addresses_of_compile hc
  have hv := vlans_of_addressPlan hp
  rw [(expandRules_eq_ok_iff.1 (firewall_of_compile hc)).2] at ht
  have hchecked := checked_of_mem_ruleTuples h hv (RuleTuple.mem_of_mem_normalize ht) he
  rw [hv]
  rcases hchecked with ⟨rfl, hout⟩ | ⟨w, hw, rfl, hin⟩
  · refine ⟨.inl rfl, fun w hw hname => ?_, fun _ => hout⟩
    exact absurd hname (name_ne_of_mem_planVlans h hw).1
  · refine ⟨.inr ⟨w, hw, rfl⟩, fun w' hw' hname => ?_, fun hname => ?_⟩
    · obtain rfl := eq_of_key_eq (nodup_name_planVlans h) hw' hw hname
      exact hin
    · exact absurd hname (name_ne_of_mem_planVlans h hw).1

/-- A site with a vlan without IPv6 and one whose subnet is out of a known
    prefix.  Its rules are narrowed to an address outside the prefix on either
    vlan, to one in the prefix outside the site, and to one that is checked. -/
def stray : Site where
  name := "home"
  domain := "example.net"
  switches := [{
    name := "sw"
    vlans := [
      { name := "lan", ipv4Subnet := "10.0.0.0/24" },
      { name := "lab", id := some 20, ipv4Subnet := "10.0.1.0/24", ipv6Delegated := true }] }]
  policy := {
    rules := [
      { comment := "none", sources := [.outside], allowAll := true
        destinations := [{ vlan := .name "lan", ipv6 := some "2001:db8:1::1" }] },
      { comment := "delegated", sources := [.outside], allowAll := true
        destinations := [{ vlan := .name "lab", ipv6 := some "2001:db8:1::1" }] },
      { comment := "internet", sources := [{ vlan := .name "internet", ipv6 := some "2001:db8::5" }]
        destinations := [.ofVlan "lan"], allowAll := true },
      { comment := "checked", sources := [.outside], allowAll := true
        destinations := [{ vlan := .name "lan", ipv4 := some "10.0.0.9" }] }] }
  hosts := [{
    hostname := "gw"
    roles := [.router]
    interfaces := [
      { uplink := some "wan0", delegationLength := some 56
        delegatedPrefix := some "2001:db8::/56" }] }]

def strayPlan : AddressPlan where
  vlans := stray.planVlans
  hosts := stray.planHosts
  request := stray.prefixRequest?

theorem stray_compiles : ∃ plan, stray.compile [] = .ok plan ∧ plan.addresses = strayPlan ∧
    ∀ t ∈ stray.ruleTuples strayPlan, t ∈ plan.firewall := by
  obtain ⟨plan, hc⟩ : ∃ plan, stray.compile [] = .ok plan :=
    exists_compile_nil (by with_unfolding_all decide) (by decide) (by with_unfolding_all decide)
      (by decide) (by with_unfolding_all decide) (by decide)
  obtain ⟨-, -, hp⟩ := addressPlan_eq_ok_iff.1 (addresses_of_compile hc).2
  refine ⟨plan, hc, hp, fun t ht => ?_⟩
  rw [(expandRules_eq_ok_iff.1 (firewall_of_compile hc)).2, hp]
  exact RuleTuple.mem_normalize_of_nodup (by decide) ht

/-- The IPv4 address of a rule lies on the vlan. -/
theorem stray_checked : ∃ plan, stray.compile [] = .ok plan ∧ ∃ t ∈ plan.firewall,
    t.destination = .address "lan" (.v4 (.ofNat 0x0a000009)) ∧
    ∀ w ∈ plan.addresses.vlans, w.name = "lan" → w.Covers (.v4 (.ofNat 0x0a000009)) := by
  obtain ⟨plan, hc, -, hmem⟩ := stray_compiles
  obtain ⟨t, ht, hd⟩ : ∃ t ∈ stray.ruleTuples strayPlan,
      t.destination = .address "lan" (.v4 (.ofNat 0x0a000009)) := by decide
  obtain ⟨-, hin, -⟩ := rule_addresses hc (hmem t ht) (.inr hd)
  refine ⟨plan, hc, t, hmem t ht, hd, fun w hw hname => ?_⟩
  rcases hin w hw hname with hcovers | ⟨hfamily, -⟩
  · exact hcovers
  · cases hfamily

/-- The address `2001:db8:1::1` outside the prefix. -/
def strayAddress : IpAddress :=
  .v6 (.ofNat 0x20010db8000100000000000000000001)

/-- The address `2001:db8::5` in the prefix. -/
def prefixAddress : IpAddress :=
  .v6 (.ofNat 0x20010db8000000000000000000000005)

/-- **Addresses of rules may be astray**: one on a vlan that has no IPv6, one on a
    vlan with a known IPv6 subnet in which it does not lie, and one outside the
    site that lies in this subnet. -/
theorem stray_addresses : ∃ plan, stray.compile [] = .ok plan ∧
    (∃ t ∈ plan.firewall, t.destination = .address "lan" strayAddress ∧
      ∃ w ∈ plan.addresses.vlans, w.name = "lan" ∧ w.ipv6 = .none ∧ ¬w.Covers strayAddress) ∧
    (∃ t ∈ plan.firewall, t.destination = .address "lab" strayAddress ∧
      ∃ w ∈ plan.addresses.vlans, w.name = "lab" ∧ w.ipv6.subnet?.isSome = true ∧
        ¬w.Covers strayAddress) ∧
    ∃ t ∈ plan.firewall, t.source = .address internetZone prefixAddress ∧
      ∃ w ∈ plan.addresses.vlans, w.Covers prefixAddress := by
  obtain ⟨plan, hc, hp, hmem⟩ := stray_compiles
  refine ⟨plan, hc, ?_⟩
  rw [hp]
  have hfind : ∀ P : RuleTuple → Prop, (∃ t ∈ stray.ruleTuples strayPlan, P t) →
      ∃ t ∈ plan.firewall, P t := by
    rintro P ⟨t, ht, hP⟩
    exact ⟨t, hmem t ht, hP⟩
  refine ⟨hfind _ ?_, hfind _ ?_, hfind _ ?_⟩
  all_goals decide

end Site

end NetworkSite
