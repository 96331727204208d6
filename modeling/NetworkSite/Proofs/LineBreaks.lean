/-
  Line breaks in rules.

  The texts of addresses, ports and hostnames have no line breaks, so that those
  in the lines of rules come from the site: from comments, and from the names of
  vlans and sets.  Where these have none, each line of a rule is one line of its
  text (`Site.isLine_of_mem_lines`).
-/
import NetworkSite.Proofs.Deduplication
import NetworkSite.Proofs.ImpliedRules
import NetworkSite.Proofs.RuleLines

namespace NetworkSite

/-! ## Texts -/

namespace Text

variable {a b : String}

/-- The text has no line break. -/
def IsLine (a : String) : Prop :=
  '\n' ∉ a.toList

instance : Decidable (IsLine a) :=
  inferInstanceAs (Decidable ('\n' ∉ a.toList))

theorem isLine_append : IsLine (a ++ b) ↔ IsLine a ∧ IsLine b := by
  simp [IsLine, not_or]

theorem isLine_intercalate {sep : String} (hs : IsLine sep) {items : List String}
    (h : ∀ item ∈ items, IsLine item) : IsLine (sep.intercalate items) := by
  intro hc
  rcases mem_intercalate hc with hc | ⟨item, hi, hc⟩
  · exact hs hc
  · exact h item hi hc

theorem isLine_toString (n : Nat) : IsLine (toString n) := by
  intro hc
  have hdigits : '\n' ∈ Nat.toDigits 10 n := by simpa using hc
  obtain ⟨d, hd⟩ := exists_digit_of_mem_toDigits (by decide) hdigits
  exact Nat.digitChar_ne '\n' (by decide) hd

theorem isLine_of_isHostname (h : isHostname a = true) : IsLine a :=
  fun hc => absurd (isLabelChar_of_isLabel h hc) (by decide)

theorem IsLine.of_sameIgnoringCase (ha : IsLine a) (h : sameIgnoringCase a b = true) : IsLine b := by
  intro hb
  have hm := (mem_map_toLower_iff (by decide)).2 hb
  rw [← sameIgnoringCase_iff.1 h] at hm
  exact ha ((mem_map_toLower_iff (by decide)).1 hm)

end Text

open Text

theorem IpAddress.isLine_text (a : IpAddress) : IsLine a.text :=
  a.not_mem_text (by decide) (by decide) fun _ => Nat.digitChar_ne '\n' (by decide)

theorem PortRange.isLine_text (r : PortRange) : IsLine r.text := by
  unfold text
  split
  next => exact isLine_toString _
  next =>
    exact isLine_append.2
      ⟨isLine_append.2 ⟨isLine_toString r.first, by decide⟩, isLine_toString r.last⟩

/-! ## Endpoints -/

namespace Endpoint

variable {e : Endpoint} {text : String}

theorem isLine_addressesText {zone : String} (hz : IsLine zone) (addresses : List IpAddress) :
    IsLine (addressesText zone addresses) := by
  refine isLine_append.2 ⟨isLine_append.2 ⟨hz, by decide⟩, ?_⟩
  refine isLine_intercalate (by decide) fun item hi => ?_
  obtain ⟨a, -, rfl⟩ := List.mem_map.1 hi
  exact a.isLine_text

theorem Shows.isLine (h : e.Shows text) (hz : e ≠ .firewall → IsLine e.zone)
    (hi : ∀ zone name, e = .ipset zone name → IsLine name) : IsLine text := by
  rcases h.cases with ⟨-, rfl⟩ | ⟨hf, rfl | ⟨addresses, rfl⟩ | ⟨name, he, rfl⟩⟩
  · decide
  · exact hz hf
  · exact isLine_addressesText (hz hf) addresses
  · exact isLine_append.2 ⟨isLine_append.2 ⟨hz hf, by decide⟩, hi _ _ he⟩

end Endpoint

/-- Only declared sets are stood for. -/
theorem Locator.StandsFor.hasIpSet {s : Site} {p : AddressPlan} {l : Locator} {e : SideEndpoint}
    (he : l.StandsFor s p e) {zone name : String} (hset : e.endpoint = .ipset zone name) :
    s.policy.hasIpSet name = true := by
  cases standsFor_iff.1 he with
  | routable | firewall | host => cases hset
  | whole hz =>
    cases hz with
    | internet | vlan => cases hset
  | narrowed _ hl =>
    cases hl with
    | ipset _ hs =>
      cases hset
      exact hs
    | address => cases hset

theorem RuleTuple.isLine_line {t : RuleTuple} {source destination : String} (hs : IsLine source)
    (hd : IsLine destination) (hc : IsLine t.comment) : IsLine (t.line source destination) := by
  have haction : IsLine t.action.word := by cases t.action <;> decide
  have hprotocol : IsLine t.protocol.name := by cases t.protocol <;> decide
  have hports : IsLine t.portsText := by
    unfold portsText
    split
    next ports _ => exact ports.isLine_text
    next => decide
  rw [line_eq]
  refine isLine_intercalate (by decide) (List.forall_mem_append.2 ⟨?_, ?_⟩)
  · simp only [fields, List.forall_mem_cons, List.not_mem_nil, false_imp_iff, implies_true, and_true]
    exact ⟨haction, hs, hd, hprotocol, hports⟩
  · unfold commentColumn
    split
    next => exact nofun
    next =>
      intro column hm
      rw [List.mem_singleton.1 hm]
      exact isLine_append.2 ⟨by decide, hc⟩

/-! ## Comments -/

namespace ServiceSpec

/-- The comment that a service has of its own. -/
def comment : ServiceSpec → String
  | named _ => ""
  | ports _ _ comment => comment

theorem isLine_of_portOf {protocol : Protocol} {comment : String} {value : PortValue}
    {port : ServicePort} (h : portOf protocol comment value = .ok port) (hc : IsLine comment) :
    IsLine port.comment := by
  unfold portOf at h
  split at h
  next =>
    cases h
    exact hc
  next => cases h

/-- Ports have the comment of their service, or its name. -/
theorem isLine_of_resolve {spec : ServiceSpec} {ports : List ServicePort}
    (h : spec.resolve = .ok ports) (hc : IsLine spec.comment) :
    ∀ port ∈ ports, IsLine port.comment := by
  cases spec with
  | named name =>
    have hcatalog : ∀ service ∈ Service.catalog, IsLine service.name := by decide
    rw [resolve] at h
    split at h
    next service hs =>
      cases h
      intro port hp
      obtain ⟨x, -, rfl⟩ := List.mem_map.1 hp
      exact hcatalog service (List.mem_of_find?_eq_some hs)
    next => cases h
  | ports name values comment =>
    obtain ⟨protocol, -, -, hvalues⟩ := resolve_ports_eq_ok.1 h
    have hown : List.Forall₂ (fun port value => IsLine port.comment ∧
        portOf protocol comment value = .ok port) ports values.values :=
      ((forall₂_of_mapM_eq_ok hvalues).imp fun value port hv =>
        ⟨isLine_of_portOf hv hc, hv⟩).flip
    exact ((List.forall₂_and_left _ _).1 hown).1

end ServiceSpec

namespace Rule

variable {r : Rule} {s : Site} {p : AddressPlan} {t : RuleTuple}

/-- The comments of the rule and of its services have no line breaks. -/
def IsSingleLine (r : Rule) : Prop :=
  IsLine r.comment ∧ ∀ spec ∈ r.allow ++ r.forward, IsLine spec.comment

instance : Decidable r.IsSingleLine :=
  inferInstanceAs (Decidable (_ ∧ _))

theorem isLine_of_mem_portsOf {services : List ServiceSpec}
    (hs : ∀ spec ∈ services, IsLine spec.comment) {port : ServicePort}
    (hp : port ∈ valuesOf (portsOf services)) : IsLine port.comment := by
  obtain ⟨ports, hm, hp⟩ := mem_valuesOf.1 hp
  obtain ⟨spec, hspec, hresolve⟩ := List.mem_map.1 hm
  split at hresolve
  next hr =>
    cases hresolve
    exact ServiceSpec.isLine_of_resolve hr (hs spec hspec) port hp
  next => cases hresolve

theorem IsSingleLine.isLine_of_mem_portResults (hr : r.IsSingleLine) {port : ServicePort}
    (hp : port ∈ valuesOf r.portResults) : IsLine port.comment := by
  obtain ⟨hallow, hforward⟩ := List.forall_mem_append.1 hr.2
  rw [portResults_eq] at hp
  split at hp
  next =>
    rw [List.mem_singleton.1 hp]
    exact (by decide : IsLine "")
  next =>
    split at hp
    next => exact isLine_of_mem_portsOf hallow hp
    next =>
      split at hp
      next => exact isLine_of_mem_portsOf hforward hp
      next => cases hp

/-- The comment of a tuple is that of its rule, or of the service. -/
theorem IsSingleLine.isLine_comment (hr : r.IsSingleLine) (ht : t ∈ r.tuples s p) :
    IsLine t.comment := by
  obtain ⟨e, f, -, -, -, port, hp, rfl⟩ := mem_tuples.1 ht
  unfold tuple
  dsimp only
  split
  next => exact hr.isLine_of_mem_portResults hp
  next => exact hr.1

theorem isSingleLine_opening {comment : String} (hc : IsLine comment)
    (source destination : Locator) : (opening comment source destination).IsSingleLine :=
  ⟨hc, nofun⟩

theorem isSingleLine_serving {comment : String} (hc : IsLine comment) (source : Locator)
    (destinations : List Locator) (services : List String) :
    (serving comment source destinations services).IsSingleLine := by
  refine ⟨hc, fun spec hs => ?_⟩
  rw [serving, List.append_nil] at hs
  obtain ⟨name, -, rfl⟩ := List.mem_map.1 hs
  exact (by decide : IsLine "")

end Rule

/-! ## Sites -/

namespace Site

open Endpoint

variable {s : Site} {p : AddressPlan} {x : Switch × Vlan} {r : Rule} {t : RuleTuple}

/-- No comment, and no name of a vlan or of a set, has a line break. -/
structure IsSingleLine (s : Site) : Prop where
  rules : ∀ r ∈ s.policy.rules, r.IsSingleLine
  vlans : ∀ x ∈ s.vlans, IsLine x.2.name
  ipsets : ∀ set ∈ s.policy.ipsets, IsLine set.name

namespace IsSingleLine

variable (hs : s.IsSingleLine)

include hs

/-- What the access list of a vlan refers to is called like a vlan, or stands for
    all of them. -/
theorem isLine_ref (h : s.findings = []) (hx : x ∈ s.vlans) {ref : VlanRef}
    (hr : ref ∈ x.2.accessVlans) : IsLine ref.text := by
  cases ref with
  | id n => exact isLine_toString n
  | name name =>
    cases hall : sameIgnoringCase name "all" with
    | true =>
      rw [sameIgnoringCase_comm] at hall
      exact IsLine.of_sameIgnoringCase (by decide) hall
    | false =>
      obtain ⟨y, hy⟩ :=
        Option.isSome_iff_exists.1 (isSome_lookupVlan?_of_mem_accessVlans h hx hr hall)
      obtain ⟨hy, hnamed⟩ := mem_vlans_of_lookupVlan? hy
      exact (hs.vlans y hy).of_sameIgnoringCase hnamed

theorem isSingleLine_impliedRule (h : s.findings = []) (hr : r ∈ s.impliedRules) :
    r.IsSingleLine := by
  obtain ⟨-, ⟨x, hx, hr⟩ | ⟨-, hr⟩ | ⟨role, service, hrole, host, hh, hr⟩⟩ := mem_impliedRules.1 hr
  · have hx := (List.mem_filter.1 hx).1
    have hname := hs.vlans x hx
    rcases List.mem_append.1 hr with hr | hr
    · obtain ⟨ref, href, rfl⟩ := List.mem_map.1 hr
      refine Rule.isSingleLine_opening ?_ _ _
      exact isLine_append.2 ⟨isLine_append.2 ⟨hname, by decide⟩, hs.isLine_ref h hx href⟩
    · split at hr
      next =>
        rw [List.mem_singleton.1 hr]
        exact Rule.isSingleLine_opening (isLine_append.2 ⟨hname, by decide⟩) _ _
      next => cases hr
  · have hall : ∀ r ∈ routerRules, r.IsSingleLine := by decide
    exact hall r hr
  · have hservices : ∀ y ∈ servingRoles, IsLine y.2 := by decide
    unfold Host.serverRules at hr
    split at hr
    next => cases hr
    next =>
      rw [List.mem_singleton.1 hr]
      have hname := isLine_of_isHostname (isHostname_of_mem_hosts h (List.mem_filter.1 hh).1)
      refine Rule.isSingleLine_serving ?_ _ _ _
      exact isLine_append.2 ⟨isLine_append.2 ⟨hservices _ hrole, by decide⟩, hname⟩

theorem isLine_comment (h : s.findings = []) (ht : t ∈ s.ruleTuples p) : IsLine t.comment := by
  rw [ruleTuples_eq] at ht
  obtain ⟨r, hr, ht⟩ := List.mem_flatMap.1 ht
  rcases List.mem_append.1 hr with hr | hr
  · exact (hs.rules r hr).isLine_comment ht
  · exact (hs.isSingleLine_impliedRule h hr).isLine_comment ht

theorem isLine_of_hasIpSet {name : String} (hn : s.policy.hasIpSet name = true) : IsLine name := by
  obtain ⟨set, hset, he⟩ := List.any_eq_true.1 hn
  rw [← beq_iff_eq.1 he]
  exact hs.ipsets set hset

theorem isLine_zone (h : s.findings = []) (hv : p.vlans = s.planVlans) {zone : String}
    (hz : IsZone p zone) : IsLine zone := by
  rcases eq_internetZone_or_of_isZone h hv hz with rfl | ⟨x, hx, rfl⟩
  · decide
  · exact hs.vlans x hx

theorem isLine_of_shows (h : s.findings = []) (hv : p.vlans = s.planVlans) {l : Locator}
    {e : SideEndpoint} (he : l.StandsFor s p e) {text : String} (ht : e.endpoint.Shows text) :
    IsLine text := by
  refine ht.isLine (fun hf => hs.isLine_zone h hv ((he.denoted h hv).isZone_of_ne hf)) ?_
  intro zone name hset
  exact hs.isLine_of_hasIpSet (he.hasIpSet hset)

/-- **The lines of rules are lines**, where the site has no line breaks. -/
theorem isLine_of_mem_lines (h : s.findings = []) (hv : p.vlans = s.planVlans)
    (ht : t ∈ s.ruleTuples p) {line : String} (hl : line ∈ t.lines) : IsLine line := by
  have hcomment := hs.isLine_comment h ht
  rw [ruleTuples_eq] at ht
  obtain ⟨r, -, ht⟩ := List.mem_flatMap.1 ht
  obtain ⟨e, f, ⟨l, -, he⟩, ⟨k, -, hf⟩, -, port, -, rfl⟩ := Rule.mem_tuples.1 ht
  rw [RuleTuple.lines_eq] at hl
  obtain ⟨x, hx, rfl⟩ := List.mem_map.1 hl
  obtain ⟨hsource, hdestination⟩ := shows_of_mem_texts hx
  have hsource := hs.isLine_of_shows h hv he hsource
  have hdestination := hs.isLine_of_shows h hv hf hdestination
  exact RuleTuple.isLine_line hsource hdestination hcomment

end IsSingleLine

end Site

end NetworkSite
