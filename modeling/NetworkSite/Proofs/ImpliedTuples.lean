/-
  What a site opens that declares no rules.

  Everything is closed but what the settings of routable vlans open
  (`Site.Opens`), pings between the router and vlans, what the router itself
  needs of the internet, and servers (`RuleTuple.IsBasic`).  Nothing comes in
  from the internet, and nothing is redirected (`Site.implied_policy`).
-/
import NetworkSite.Proofs.Deduplication
import NetworkSite.Proofs.Emission

namespace NetworkSite

/-! ## What is open -/

/-- An item of the access list of a vlan opens all of an endpoint. -/
def Site.Accesses (s : Site) (x : Switch × Vlan) (ref : VlanRef) (destination : Endpoint) : Prop :=
  (ref.isAll = true ∧
    ∃ y ∈ s.vlans, y.2.routable = true ∧ y ≠ x ∧ destination = .vlan y.2.name) ∨
  ∃ y, s.lookupVlan? none ref = some y ∧ destination = .vlan y.2.name

/-- The settings of a routable vlan open all of an endpoint to it. -/
def Site.Opens (s : Site) (source destination : Endpoint) : Prop :=
  ∃ x ∈ s.vlans, x.2.routable = true ∧ source = .vlan x.2.name ∧
    (x.2.allowInternet = true ∧ destination = .internet ∨
      ∃ ref ∈ x.2.accessVlans, s.Accesses x ref destination)

/-- The tuple opens a port of a service of the catalog. -/
def RuleTuple.IsOf (t : RuleTuple) (name : String) : Prop :=
  ∃ service ∈ Service.catalog, service.name = name ∧ (t.protocol, t.ports) ∈ service.ports

/-- What is open whatever the settings of vlans are. -/
inductive RuleTuple.IsBasic (s : Site) (t : RuleTuple) : Prop
  /-- The router pings a vlan. -/
  | ping {x : Switch × Vlan} (hx : x ∈ s.vlans) (hr : x.2.routable = true)
      (hs : t.source = .firewall) (hd : t.destination = .vlan x.2.name)
      (hp : t.protocol = .icmp) (hn : t.ports = none)
  /-- A vlan pings the router. -/
  | pong {x : Switch × Vlan} (hx : x ∈ s.vlans) (hr : x.2.routable = true)
      (hs : t.source = .vlan x.2.name) (hd : t.destination = .firewall)
      (hp : t.protocol = .icmp) (hn : t.ports = none)
  /-- The router looks around in the internet. -/
  | outside {name : String} (hs : t.source = .firewall) (hd : t.destination = .internet)
      (hn : name ∈ ["traceroute", "dns"]) (hp : t.IsOf name)
  /-- A vlan uses a server. -/
  | server {x y : Switch × Vlan} {hostname name : String} {addresses : List IpAddress}
      (hx : x ∈ s.vlans) (hr : x.2.routable = true) (hs : t.source = .vlan x.2.name)
      (hy : y ∈ s.vlans) (hr' : y.2.routable = true)
      (hd : t.destination = .host y.2.name hostname addresses)
      (hn : name ∈ ["dhcp", "dns", "ntp"]) (hp : t.IsOf name)

variable {s : Site} {p : AddressPlan} {x y : Switch × Vlan} {t u : RuleTuple} {e : SideEndpoint}

/-! ## Names of vlans in locators -/

namespace Site

theorem isAll_of_lookupVlan? (h : s.findings = []) {switch : Option String} {ref : VlanRef}
    (hx : s.lookupVlan? switch ref = some x) : ref.isAll = false := by
  cases ref with
  | id n => rfl
  | name name =>
    have hr := isReservedName_of_lookupVlan? h hx
    simp only [Vlan.isReservedName, List.any_cons, Bool.or_eq_false_iff] at hr
    rw [VlanRef.isAll, Text.sameIgnoringCase_comm]
    exact hr.1

end Site

/-! ## What the locators of implied rules stand for -/

namespace Locator

theorem standsFor_outside : outside.StandsFor s p e ↔ e = { endpoint := .internet } := by
  have hes : outside.endpoints s p = .ok [{ endpoint := .internet }] := rfl
  rw [standsFor_of_endpoints hes, List.mem_singleton]

theorem standsFor_router : router.StandsFor s p e ↔ e = { endpoint := .firewall } := by
  have hes : router.endpoints s p = .ok [{ endpoint := .firewall }] := rfl
  rw [standsFor_of_endpoints hes, List.mem_singleton]

theorem standsFor_everywhere (h : s.findings = []) (hv : p.vlans = s.planVlans) :
    everywhere.StandsFor s p e ↔
      ∃ x ∈ s.vlans, x.2.routable = true ∧ e = { endpoint := .vlan x.2.name, fromAll := true } := by
  have hes : everywhere.endpoints s p = .ok ((p.vlans.filter (·.routable)).map fun w =>
      { endpoint := .vlan w.name, fromAll := true }) := rfl
  rw [standsFor_of_endpoints hes, List.mem_map]
  constructor
  · rintro ⟨w, hw, rfl⟩
    obtain ⟨hw, hr⟩ := List.mem_filter.1 hw
    rw [hv] at hw
    obtain ⟨x, hx, w, ho, rfl⟩ := Site.exists_of_mem_planVlans h hw
    refine ⟨x, hx, ?_, by rw [Site.name_completeVlan ho]⟩
    rw [← Site.routable_of_vlanOutline? ho]
    exact hr
  · rintro ⟨x, hx, hr, rfl⟩
    obtain ⟨w, ho⟩ := Site.exists_vlanOutline? (d := s.effectiveDelegation) h hx
    refine ⟨s.completeVlan s.outlines s.claims w, List.mem_filter.2 ⟨?_, ?_⟩, ?_⟩
    · rw [hv, Site.planVlans_eq h]
      exact List.mem_map_of_mem (Site.mem_outlines hx ho)
    · exact (Site.routable_of_vlanOutline? ho).trans hr
    · rw [Site.name_completeVlan ho]

theorem standsFor_ref (h : s.findings = []) (hv : p.vlans = s.planVlans) {ref : VlanRef}
    (hx : s.lookupVlan? none ref = some x) :
    ({ vlan := ref } : Locator).StandsFor s p e ↔ e = { endpoint := .vlan x.2.name } := by
  obtain ⟨w, hw⟩ :=
    Site.exists_vlanOutline? (d := s.effectiveDelegation) h (Site.mem_vlans_of_lookupVlan? hx).1
  have hes : ({ vlan := ref } : Locator).endpoints s p = .ok [{ endpoint := .vlan x.2.name }] := by
    rw [endpoints, Site.scope_of_lookupVlan? h hx rfl]
    exact Site.vlanEndpoints_eq h hv hx hw
  rw [standsFor_of_endpoints hes, List.mem_singleton]

theorem standsFor_ofVlan (h : s.findings = []) (hv : p.vlans = s.planVlans) (hx : x ∈ s.vlans) :
    (ofVlan x.2.name).StandsFor s p e ↔ e = { endpoint := .vlan x.2.name } :=
  standsFor_ref h hv (Site.lookupVlan?_name h hx)

/-- A server stands for a host on a routable vlan. -/
theorem exists_host_of_standsFor (h : s.findings = []) (hv : p.vlans = s.planVlans) {host : Host}
    {l : Locator} (hl : l ∈ host.serverLocators s) (he : l.StandsFor s p e) :
    ∃ y ∈ s.vlans, y.2.routable = true ∧ ∃ hostname addresses,
      e.endpoint = .host y.2.name hostname addresses := by
  obtain ⟨i, -, text, y, -, hy, hr, rfl⟩ := Site.mem_serverLocators.1 hl
  have hmem := Site.mem_vlans_of_interfaceVlan? hy
  obtain ⟨w, hw⟩ := Site.exists_vlanOutline? (d := s.effectiveDelegation) h hmem
  obtain ⟨es, hes, he⟩ := he
  rw [Site.endpoints_ofHost h hv hmem hw] at hes
  obtain ⟨hostname, -, -, rfl⟩ := hostEndpoints_eq_ok.1 ⟨es, hes, he⟩
  rw [Site.name_completeVlan hw]
  exact ⟨y, hmem, hr, hostname, _, rfl⟩

end Locator

/-! ## The tuples of implied rules -/

namespace Rule

variable {comment : String} {source destination : Locator}

/-- The tuple that opens everything between two endpoints. -/
def openTuple (comment : String) (source destination : Endpoint) : RuleTuple where
  source := source
  destination := destination
  protocol := .any
  ports := none
  action := .accept
  comment := comment

theorem mem_tuples_opening : t ∈ (opening comment source destination).tuples s p ↔
    ∃ e f, source.StandsFor s p e ∧ destination.StandsFor s p f ∧ isSkipped e f = false ∧
      t = openTuple comment e.endpoint f.endpoint := by
  have hsources : (opening comment source destination).sources = [source] := rfl
  have hdestinations : (opening comment source destination).destinations = [destination] := rfl
  have hports : valuesOf (opening comment source destination).portResults =
      [{ protocol := .any, ports := none, comment := "" }] := rfl
  have htuple : ∀ e f : SideEndpoint, (opening comment source destination).tuple e f
      { protocol := .any, ports := none, comment := "" } =
        openTuple comment e.endpoint f.endpoint := by
    intro e f
    have hcomment : (if comment.isEmpty = true then "" else comment) = comment := by
      split
      next hempty => rw [String.isEmpty_iff.1 hempty]
      next => rfl
    exact congrArg (openTuple · e.endpoint f.endpoint) hcomment
  rw [mem_tuples, hsources, hdestinations, hports]
  simp only [List.mem_singleton, exists_eq_left, htuple]

/-- What a rule for services opens is accepted, and of one of these services. -/
theorem of_mem_tuples_serving {destinations : List Locator} {services : List String}
    (ht : t ∈ (serving comment source destinations services).tuples s p) :
    ∃ e f, source.StandsFor s p e ∧ (∃ l ∈ destinations, l.StandsFor s p f) ∧
      t.source = e.endpoint ∧ t.destination = f.endpoint ∧ t.action = .accept ∧
      ∃ name ∈ services, ∃ service, Service.ofName? name = some service ∧
        (t.protocol, t.ports) ∈ service.ports := by
  obtain ⟨e, f, ⟨l, hl, he⟩, hf, -, port, hport, rfl⟩ := mem_tuples.1 ht
  rw [List.mem_singleton.1 hl] at he
  -- A rule without services has no ports.
  obtain ⟨haction, ports, hports, hport⟩ : (serving comment source destinations services).tupleAction =
      .accept ∧ ∃ ports, .ok ports ∈ portsOf (services.map .named) ∧ port ∈ ports := by
    cases services with
    | nil => cases hport
    | cons name rest => exact ⟨rfl, mem_valuesOf.1 hport⟩
  refine ⟨e, f, he, hf, rfl, rfl, haction, ?_⟩
  obtain ⟨spec, hspec, hresolve⟩ := List.mem_map.1 hports
  obtain ⟨name, hn, rfl⟩ := List.mem_map.1 hspec
  refine ⟨name, hn, ?_⟩
  rw [ServiceSpec.resolve] at hresolve
  cases hservice : Service.ofName? name with
  | none =>
    rw [hservice] at hresolve
    cases hresolve
  | some service =>
    rw [hservice] at hresolve
    cases hresolve
    obtain ⟨⟨protocol, range⟩, hm, rfl⟩ := List.mem_map.1 hport
    exact ⟨service, rfl, hm⟩

end Rule

theorem Service.name_of_ofName? : ∀ name ∈ ["ping", "traceroute", "dns", "dhcp", "ntp"],
    ∀ service ∈ ofName? name, service.name = name := by
  decide

theorem RuleTuple.isOf_of_ofName? {name : String} {service : Service}
    (hn : name ∈ ["ping", "traceroute", "dns", "dhcp", "ntp"])
    (hs : Service.ofName? name = some service) (ht : (t.protocol, t.ports) ∈ service.ports) :
    t.IsOf name :=
  ⟨service, List.mem_of_find?_eq_some hs, Service.name_of_ofName? name hn service hs, ht⟩

theorem RuleTuple.IsOf.eq_of_ping (ht : t.IsOf "ping") : t.protocol = .icmp ∧ t.ports = none := by
  have hping : ∀ service ∈ Service.catalog, service.name = "ping" →
      service.ports = [(.icmp, none)] := by decide
  obtain ⟨service, hs, hn, hm⟩ := ht
  rw [hping service hs hn] at hm
  exact Prod.mk.inj (List.mem_singleton.1 hm)

theorem RuleTuple.IsOf.ne_any {name : String} (ht : t.IsOf name) : t.protocol ≠ .any := by
  have hcatalog : ∀ service ∈ Service.catalog, ∀ port ∈ service.ports, port.1 ≠ .any := by decide
  obtain ⟨service, hs, -, hm⟩ := ht
  exact hcatalog service hs _ hm

theorem RuleTuple.IsBasic.ne_any (ht : t.IsBasic s) : t.protocol ≠ .any := by
  cases ht with
  | ping _ _ _ _ hp | pong _ _ _ _ hp =>
    rw [hp]
    decide
  | outside _ _ _ hp | server _ _ _ _ _ _ _ hp => exact hp.ne_any

theorem RuleTuple.IsBasic.source_ne (ht : t.IsBasic s) : t.source ≠ .internet := by
  cases ht with
  | ping _ _ hs | pong _ _ hs | outside hs | server _ _ hs =>
    rw [hs]
    exact nofun

namespace Site

open Rule

variable {r : Rule} {ref : VlanRef} {source destination : Endpoint}

/-! ## Vlans -/

theorem mem_tuples_opening_ofVlan (h : s.findings = []) (hv : p.vlans = s.planVlans)
    (hx : x ∈ s.vlans) {comment : String} {l : Locator} :
    t ∈ (opening comment (.ofVlan x.2.name) l).tuples s p ↔
      ∃ f, l.StandsFor s p f ∧ isSkipped { endpoint := .vlan x.2.name } f = false ∧
        t = openTuple comment (.vlan x.2.name) f.endpoint := by
  rw [mem_tuples_opening]
  constructor
  · rintro ⟨e, f, he, hf, hskip, rfl⟩
    obtain rfl := (Locator.standsFor_ofVlan h hv hx).1 he
    exact ⟨f, hf, hskip, rfl⟩
  · rintro ⟨f, hf, hskip, rfl⟩
    exact ⟨_, f, (Locator.standsFor_ofVlan h hv hx).2 rfl, hf, hskip, rfl⟩

theorem mem_tuples_accessRule (h : s.findings = []) (hv : p.vlans = s.planVlans)
    (hx : x ∈ s.vlans) (href : ref ∈ x.2.accessVlans) :
    t ∈ (x.2.accessRule ref).tuples s p ↔ ∃ destination, s.Accesses x ref destination ∧
      t = openTuple s!"{x.2.name} access to {ref.text}" (.vlan x.2.name) destination := by
  rw [Vlan.accessRule, mem_tuples_opening_ofVlan h hv hx]
  cases hall : ref.isAll with
  | true =>
    simp only [↓reduceIte, Locator.standsFor_everywhere h hv]
    constructor
    · rintro ⟨_, ⟨y, hy, hr, rfl⟩, hskip, rfl⟩
      refine ⟨_, .inl ⟨hall, y, hy, hr, ?_, rfl⟩, rfl⟩
      rintro rfl
      simp [isSkipped, Endpoint.zone] at hskip
    · rintro ⟨_, ⟨-, y, hy, hr, hne, rfl⟩ | ⟨y, hy, -⟩, rfl⟩
      · have hname : x.2.name ≠ y.2.name := fun hn => hne (eq_of_name_eq h hy hx hn.symm)
        exact ⟨_, ⟨y, hy, hr, rfl⟩, by simpa [isSkipped, Endpoint.zone] using hname, rfl⟩
      · rw [isAll_of_lookupVlan? h hy] at hall
        cases hall
  | false =>
    obtain ⟨y, hy⟩ := Option.isSome_iff_exists.1 (isSome_lookupVlan?_of_mem_accessVlans h hx href hall)
    simp only [Bool.false_eq_true, ↓reduceIte, Locator.standsFor_ref h hv hy, exists_eq_left]
    constructor
    · rintro ⟨-, rfl⟩
      exact ⟨_, .inr ⟨y, hy, rfl⟩, rfl⟩
    · rintro ⟨_, ⟨hall', -⟩ | ⟨z, hz, rfl⟩, rfl⟩
      · rw [hall] at hall'
        cases hall'
      · obtain rfl := Option.some.inj (hy.symm.trans hz)
        exact ⟨rfl, rfl⟩

theorem mem_tuples_internetRule (h : s.findings = []) (hv : p.vlans = s.planVlans)
    (hx : x ∈ s.vlans) {comment : String} :
    t ∈ (opening comment (.ofVlan x.2.name) .outside).tuples s p ↔
      t = openTuple comment (.vlan x.2.name) .internet := by
  simp only [mem_tuples_opening_ofVlan h hv hx, Locator.standsFor_outside, exists_eq_left]
  exact and_iff_right rfl

/-- The rules of a routable vlan open what its settings say. -/
theorem opens_of_mem_vlanTuples (h : s.findings = []) (hv : p.vlans = s.planVlans)
    (hx : x ∈ s.vlans) (hroutable : x.2.routable = true) (hr : r ∈ x.2.impliedRules)
    (ht : t ∈ r.tuples s p) :
    ∃ comment source destination, s.Opens source destination ∧
      t = openTuple comment source destination := by
  rcases List.mem_append.1 hr with hr | hr
  · obtain ⟨ref, href, rfl⟩ := List.mem_map.1 hr
    obtain ⟨destination, ha, rfl⟩ := (mem_tuples_accessRule h hv hx href).1 ht
    exact ⟨_, _, destination, ⟨x, hx, hroutable, rfl, .inr ⟨ref, href, ha⟩⟩, rfl⟩
  · split at hr
    next hinternet =>
      rw [List.mem_singleton.1 hr] at ht
      obtain rfl := (mem_tuples_internetRule h hv hx).1 ht
      exact ⟨_, _, _, ⟨x, hx, hroutable, rfl, .inl ⟨hinternet, rfl⟩⟩, rfl⟩
    next => cases hr

/-- What the settings of vlans open has a tuple. -/
theorem exists_mem_ruleTuples_of_opens (h : s.findings = []) (hv : p.vlans = s.planVlans)
    (ho : s.Opens source destination) :
    ∃ comment, openTuple comment source destination ∈ s.ruleTuples p := by
  obtain ⟨x, hx, hroutable, rfl, ho⟩ := ho
  have hvlan : x ∈ s.routableVlans := List.mem_filter.2 ⟨hx, hroutable⟩
  have hmem : ∀ r ∈ x.2.impliedRules, ∀ t ∈ r.tuples s p, t ∈ s.ruleTuples p := by
    intro r hr t ht
    rw [ruleTuples_eq]
    have himplied := mem_impliedRules.2 ⟨List.ne_nil_of_mem hvlan, .inl ⟨x, hvlan, hr⟩⟩
    exact List.mem_flatMap.2 ⟨r, List.mem_append_right _ himplied, ht⟩
  rcases ho with ⟨hinternet, rfl⟩ | ⟨ref, href, ha⟩
  · have hr : .opening s!"{x.2.name} internet access" (.ofVlan x.2.name) .outside ∈
        x.2.impliedRules := by
      refine List.mem_append_right _ ?_
      rw [if_pos hinternet]
      exact List.mem_singleton_self _
    exact ⟨_, hmem _ hr _ ((mem_tuples_internetRule h hv hx).2 rfl)⟩
  · exact ⟨_, hmem _ (List.mem_append_left _ (List.mem_map_of_mem href)) _
      ((mem_tuples_accessRule h hv hx href).2 ⟨_, ha, rfl⟩)⟩

/-! ## The router and servers -/

theorem isBasic_of_mem_routerTuples (h : s.findings = []) (hv : p.vlans = s.planVlans)
    (hr : r ∈ routerRules) (ht : t ∈ r.tuples s p) : t.IsBasic s ∧ t.action = .accept := by
  simp only [routerRules, List.mem_cons, List.not_mem_nil, or_false] at hr
  rcases hr with rfl | rfl | rfl
  all_goals
    obtain ⟨e, f, he, ⟨l, hl, hf⟩, hs, hd, ha, name, hn, service, hservice, hp⟩ :=
      of_mem_tuples_serving ht
    rw [List.mem_singleton.1 hl] at hf
    refine ⟨?_, ha⟩
  · rw [List.mem_singleton.1 hn] at hservice
    obtain ⟨hp, hports⟩ := (RuleTuple.isOf_of_ofName? (by decide) hservice hp).eq_of_ping
    rw [Locator.standsFor_router.1 he] at hs
    obtain ⟨x, hx, hroutable, rfl⟩ := (Locator.standsFor_everywhere h hv).1 hf
    exact .ping hx hroutable hs hd hp hports
  · rw [List.mem_singleton.1 hn] at hservice
    obtain ⟨hp, hports⟩ := (RuleTuple.isOf_of_ofName? (by decide) hservice hp).eq_of_ping
    obtain ⟨x, hx, hroutable, rfl⟩ := (Locator.standsFor_everywhere h hv).1 he
    rw [Locator.standsFor_router.1 hf] at hd
    exact .pong hx hroutable hs hd hp hports
  · rw [Locator.standsFor_router.1 he] at hs
    rw [Locator.standsFor_outside.1 hf] at hd
    have hknown : ∀ name ∈ ["traceroute", "dns"],
        name ∈ ["ping", "traceroute", "dns", "dhcp", "ntp"] := by decide
    exact .outside hs hd hn (RuleTuple.isOf_of_ofName? (hknown name hn) hservice hp)

theorem isBasic_of_mem_serverTuples (h : s.findings = []) (hv : p.vlans = s.planVlans)
    {role : Role} {service : String} (hrole : (role, service) ∈ servingRoles) {host : Host}
    (hr : r ∈ host.serverRules s service) (ht : t ∈ r.tuples s p) :
    t.IsBasic s ∧ t.action = .accept := by
  have hserver : ∀ y ∈ servingRoles, y.2 ∈ ["dhcp", "dns", "ntp"] := by decide
  have hn := hserver _ hrole
  unfold Host.serverRules at hr
  split at hr
  next => cases hr
  next =>
    rw [List.mem_singleton.1 hr] at ht
    obtain ⟨e, f, he, ⟨l, hl, hf⟩, hs, hd, ha, name, hname, found, hfound, hp⟩ :=
      of_mem_tuples_serving ht
    obtain rfl := List.mem_singleton.1 hname
    obtain ⟨x, hx, hroutable, rfl⟩ := (Locator.standsFor_everywhere h hv).1 he
    obtain ⟨y, hy, hroutable', hostname, addresses, hhost⟩ :=
      Locator.exists_host_of_standsFor h hv hl hf
    rw [hhost] at hd
    have hknown : ∀ name ∈ ["dhcp", "dns", "ntp"],
        name ∈ ["ping", "traceroute", "dns", "dhcp", "ntp"] := by decide
    exact ⟨.server hx hroutable hs hy hroutable' hd hn
      (RuleTuple.isOf_of_ofName? (hknown name hn) hfound hp), ha⟩

/-! ## All rules -/

/-- An implied rule opens what the settings of vlans say, or basic services. -/
theorem opens_or_isBasic (h : s.findings = []) (hv : p.vlans = s.planVlans)
    (hd : s.policy.rules = []) (ht : t ∈ s.ruleTuples p) :
    (∃ comment source destination, s.Opens source destination ∧
      t = openTuple comment source destination) ∨ t.IsBasic s ∧ t.action = .accept := by
  rw [ruleTuples_eq, hd, List.nil_append] at ht
  obtain ⟨r, hr, ht⟩ := List.mem_flatMap.1 ht
  rcases (mem_impliedRules.1 hr).2 with ⟨x, hx, hr⟩ | ⟨-, hr⟩ | ⟨role, service, hrole, host, -, hr⟩
  · obtain ⟨hx, hroutable⟩ := List.mem_filter.1 hx
    exact .inl (opens_of_mem_vlanTuples h hv hx hroutable hr ht)
  · exact .inr (isBasic_of_mem_routerTuples h hv hr ht)
  · exact .inr (isBasic_of_mem_serverTuples h hv hrole hr ht)

theorem Opens.not_isNarrowed (ho : s.Opens source destination) :
    source.isNarrowed = false ∧ destination.isNarrowed = false := by
  obtain ⟨x, -, -, rfl, ⟨-, rfl⟩ | ⟨ref, -, ⟨-, y, -, -, -, rfl⟩ | ⟨y, -, rfl⟩⟩⟩ := ho
  all_goals exact ⟨rfl, rfl⟩

theorem eq_of_whole_name_eq (h : s.findings = []) (hv : p.vlans = s.planVlans) {e f : Endpoint}
    (he : Endpoint.Denoted p e) (hf : Endpoint.Denoted p f) (hwhole : e.isNarrowed = false)
    (hwhole' : f.isNarrowed = false) (hn : e.name = f.name) : e = f := by
  rcases agree_of_name_eq h hv he hf hn with heq | ⟨hnarrow, -⟩ | ⟨hnarrow, -⟩
  · exact heq
  · rw [hwhole] at hnarrow
    cases hnarrow
  · rw [hwhole'] at hnarrow
    cases hnarrow

/-- **What the settings of vlans open stays** when repeats are dropped. -/
theorem exists_mem_normalize_of_opens (h : s.findings = []) (hv : p.vlans = s.planVlans)
    (hd : s.policy.rules = []) (ho : s.Opens source destination) :
    ∃ comment, openTuple comment source destination ∈ RuleTuple.normalize (s.ruleTuples p) := by
  obtain ⟨comment, ht⟩ := exists_mem_ruleTuples_of_opens h hv ho
  obtain ⟨u, hu, hk⟩ := RuleTuple.exists_mem_normalize ht
  obtain ⟨hsource, hdestination, hprotocol, -⟩ := RuleTuple.key_eq_iff.1 hk
  have hu' := RuleTuple.mem_of_mem_normalize hu
  rcases opens_or_isBasic h hv hd hu' with ⟨comment', source', destination', ho', rfl⟩ | ⟨hb, -⟩
  · have htend := denoted_of_mem_ruleTuples h hv ht
    have huend := denoted_of_mem_ruleTuples h hv hu'
    obtain ⟨hs, hd⟩ := ho.not_isNarrowed
    obtain ⟨hs', hd'⟩ := ho'.not_isNarrowed
    obtain rfl : source' = source := eq_of_whole_name_eq h hv huend.1 htend.1 hs' hs hsource
    obtain rfl : destination' = destination :=
      eq_of_whole_name_eq h hv huend.2 htend.2 hd' hd hdestination
    exact ⟨comment', hu⟩
  · exact absurd hprotocol hb.ne_any

/-- **What is closed by default.**  Without declared rules the tuples for every
    protocol are those that the settings of routable vlans open.  Nothing comes
    in from the internet, nothing is redirected, and everything else is a basic
    service. -/
theorem implied_policy {templates : List Template} {plan : BuildPlan} (hd : s.policy.rules = [])
    (hc : s.compile templates = .ok plan) :
    (∀ t : RuleTuple, t.protocol = .any →
      ((∃ comment, { t with comment } ∈ plan.firewall) ↔
        t.ports = none ∧ t.action = .accept ∧ s.Opens t.source t.destination)) ∧
    (∀ t ∈ plan.firewall, t.source ≠ .internet ∧ t.action ≠ .forward) ∧
    ∀ t ∈ plan.firewall, t.protocol ≠ .any → t.IsBasic s := by
  obtain ⟨h, hp⟩ := addresses_of_compile hc
  have hv := vlans_of_addressPlan hp
  have hfirewall := (expandRules_eq_ok_iff.1 (firewall_of_compile hc)).2
  have hmem : ∀ t ∈ plan.firewall, (∃ comment source destination, s.Opens source destination ∧
      t = openTuple comment source destination) ∨ t.IsBasic s ∧ t.action = .accept := by
    intro t ht
    rw [hfirewall] at ht
    exact opens_or_isBasic h hv hd (RuleTuple.mem_of_mem_normalize ht)
  refine ⟨fun t hany => ⟨?_, ?_⟩, fun t ht => ?_, fun t ht hne => ?_⟩
  · rintro ⟨comment, ht⟩
    rcases hmem _ ht with ⟨_, source, destination, ho, he⟩ | ⟨hb, -⟩
    · obtain ⟨hs, hd, -, hports, haction, -⟩ := RuleTuple.mk.inj he
      rw [hs, hd]
      exact ⟨hports, haction, ho⟩
    · exact absurd hany hb.ne_any
  · rintro ⟨hports, haction, ho⟩
    obtain ⟨comment, ht⟩ := exists_mem_normalize_of_opens h hv hd ho
    refine ⟨comment, ?_⟩
    rw [hfirewall, hany, hports, haction]
    exact ht
  · rcases hmem t ht with ⟨_, _, _, ⟨x, -, -, rfl, -⟩, rfl⟩ | ⟨hb, haction⟩
    · exact ⟨nofun, nofun⟩
    · rw [haction]
      exact ⟨hb.source_ne, nofun⟩
  · rcases hmem t ht with ⟨_, _, _, -, rfl⟩ | ⟨hb, -⟩
    · exact absurd rfl hne
    · exact hb

/-- A site without declared rules, where one vlan may reach everything, another
    one this vlan, and the last one nothing. -/
def guarded : Site where
  name := "home"
  domain := "example.net"
  switches := [{
    name := "sw"
    vlans := [
      { name := "lan", ipv4Subnet := "10.0.0.0/24", allowInternet := true
        accessVlans := [.name "All"] },
      { name := "iot", id := some 20, ipv4Subnet := "10.0.1.0/24", accessVlans := [.name "lan"] },
      { name := "guests", id := some 30, ipv4Subnet := "10.0.2.0/24" }] }]
  hosts := [
    { hostname := "gw", roles := [.router], interfaces := [{ uplink := some "wan0" }] },
    { hostname := "infra", roles := [.dns]
      interfaces := [{ switch := some "sw", ipv4 := .fixed "10.0.0.2" }] }]

/-- What its settings open is open, and nothing else. -/
theorem guarded_policy : guarded.policy.rules = [] ∧ ∃ plan, guarded.compile [] = .ok plan ∧
    (∃ comment, openTuple comment (.vlan "iot") (.vlan "lan") ∈ plan.firewall) ∧
    (∃ comment, openTuple comment (.vlan "lan") (.vlan "guests") ∈ plan.firewall) ∧
    (∀ comment, openTuple comment (.vlan "guests") .internet ∉ plan.firewall) ∧
    ∀ t ∈ plan.firewall, t.source ≠ .internet := by
  obtain ⟨plan, hc⟩ : ∃ plan, guarded.compile [] = .ok plan :=
    exists_compile_nil (by with_unfolding_all decide) (by decide) (by with_unfolding_all decide)
      (by decide) (by with_unfolding_all decide) (by decide)
  obtain ⟨hopen, hclosed, -⟩ := implied_policy rfl hc
  refine ⟨rfl, plan, hc, ?_, ?_, fun comment ht => ?_, fun t ht => (hclosed t ht).1⟩
  · refine (hopen (openTuple "" (.vlan "iot") (.vlan "lan")) rfl).2 ⟨rfl, rfl, _, .tail _ (.head _),
      rfl, rfl, .inr ⟨_, .head _, .inr ⟨_, rfl, rfl⟩⟩⟩
  · refine (hopen (openTuple "" (.vlan "lan") (.vlan "guests")) rfl).2 ⟨rfl, rfl, _, .head _, rfl,
      rfl, .inr ⟨_, .head _, .inl ⟨by decide, _, .tail _ (.tail _ (.head _)), rfl, ?_, rfl⟩⟩⟩
    decide
  · obtain ⟨-, -, x, hx, -, hname, ho⟩ :=
      (hopen (openTuple comment (.vlan "guests") .internet) rfl).1 ⟨comment, ht⟩
    have hguests : ∀ x ∈ guarded.vlans, Endpoint.vlan "guests" = .vlan x.2.name →
        x.2.allowInternet = false ∧ x.2.accessVlans = [] := by decide
    obtain ⟨hinternet, haccess⟩ := hguests x hx hname
    rw [hinternet, haccess] at ho
    rcases ho with ⟨ho, -⟩ | ⟨ref, href, -⟩
    · cases ho
    · cases href

end Site

end NetworkSite
