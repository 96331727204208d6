/-
  The zones in the rules of a router, against those that it lists.

  Rules are about vlans and the internet, and a router enforces all of them; the
  list of its zones is made from its interfaces.  The router of a site that
  compiles has an uplink, and an interface on every routable vlan, so that both
  agree there as long as these interfaces are not put into other zones
  (`Site.zones_listed`).  A vlan that is not routable may occur in rules while
  the router has no interface on it, and so no zone (`Site.gated_unlisted`).
-/
import NetworkSite.Proofs.Deduplication
import NetworkSite.Proofs.HostVariables
import NetworkSite.Proofs.RoleVariables
import NetworkSite.Proofs.RuleLines

namespace NetworkSite

/-! ## Zones of texts -/

/-- The text of an endpoint is about a zone or about what there is in it. -/
def ShowsZone (text zone : String) : Prop :=
  text = zone ∨ ∃ rest, text = zone ++ ":" ++ rest

theorem Endpoint.Shows.showsZone {e : Endpoint} {text : String} (h : e.Shows text) :
    e = .firewall ∧ text = "$FW" ∨ e ≠ .firewall ∧ ShowsZone text e.zone := by
  rcases h.cases with hf | ⟨hne, rfl | ⟨addresses, rfl⟩ | ⟨name, -, rfl⟩⟩
  · exact .inl hf
  · exact .inr ⟨hne, .inl rfl⟩
  · exact .inr ⟨hne, .inr ⟨_, rfl⟩⟩
  · exact .inr ⟨hne, .inr ⟨"+" ++ name, String.toList_injective (by simp [toString])⟩⟩

/-! ## Zones of interfaces -/

namespace Host

variable {s : Site} {router : Host} {zone : String}

/-- The declared interfaces in a zone: those on a vlan, and outside the uplinks. -/
def interfacesIn (s : Site) (host : Host) (zone : String) : List Interface :=
  if zone = internetZone then host.interfaces.filter (·.isUplink) else host.interfacesOn s zone

/-- Not all of the declared interfaces in the zone, if there are any, are put
    into others. -/
def KeepsZone (s : Site) (router : Host) (zone : String) : Prop :=
  router.interfacesIn s zone = [] ∨
    ∃ i ∈ router.interfacesIn s zone, i.firewallZone.getD zone = zone

/-- The router leads into the zone: into the internet, to every routable vlan, and
    to those on which it declares an interface. -/
def LeadsInto (s : Site) (router : Host) (zone : String) : Prop :=
  zone = internetZone ∨
    ∃ x ∈ s.vlans, x.2.name = zone ∧ (x.2.routable = true ∨ router.interfacesOn s zone ≠ [])

end Host

/-- The zones of interfaces with their names. -/
def zonesOf (interfaces : List PlannedInterface) : List (String × String) :=
  interfaces.filterMap fun i => i.firewallZone.map fun zone => (zone, i.name)

theorem Blueprint.zoneLines_eq (b : Blueprint) (host : Host) :
    b.zoneLines host =
      (zonesOf (b.plannedHost host).interfaces).map fun (zone, name) => columns [zone, name] := by
  rw [zonesOf, List.map_filterMap]
  simp only [Option.map_map]
  rfl

namespace Site

variable {s : Site} {router : Host} {zone : String} {templates : List Template} {plan : BuildPlan}

/-- The router of a site that compiles has an uplink. -/
theorem exists_uplink_of_compile (h : s.compile templates = .ok plan)
    (hr : s.router? = some router) : ∃ i ∈ router.interfaces, i.isUplink = true := by
  obtain ⟨hf, p, rules, schedule, hp, -, -, he⟩ := compile_eq_ok_iff.1 h
  obtain ⟨hm, -⟩ := Blueprint.emit_eq_ok_iff.1 he
  by_contra hnone
  have hlacks : s.LacksUplink router :=
    ⟨hr, fun i hi => Bool.eq_false_iff.2 fun hu => hnone ⟨i, hi, hu⟩⟩
  obtain ⟨hh, hlacks⟩ :=
    hlacks.lacks (b := s.blueprint p rules schedule) hf (hosts_of_addressPlan hp) templates
  exact Blueprint.missing_ne_nil_iff.2 ⟨router, hh, _, hlacks⟩ hm

/-- **The interfaces of a router have the zones that it leads into**, unless they
    are put into others. -/
theorem exists_mem_zonesOf (h : s.compile templates = .ok plan) (hr : s.router? = some router)
    (hl : router.LeadsInto s zone) (hk : router.KeepsZone s zone) :
    ∃ name, (zone, name) ∈ zonesOf (s.planHost s.outlines router).interfaces := by
  have hf := (addresses_of_compile h).1
  have hh := mem_hosts_of_router? hr
  have hlisted : ∀ i ∈ (s.planHost s.outlines router).interfaces, i.firewallZone = some zone →
      ∃ name, (zone, name) ∈ zonesOf (s.planHost s.outlines router).interfaces :=
    fun i hi hz => ⟨i.name, List.mem_filterMap.2 ⟨i, hi, by rw [hz]; rfl⟩⟩
  rcases hl with rfl | ⟨x, hx, rfl, hon⟩
  · rw [Host.KeepsZone, Host.interfacesIn, if_pos rfl] at hk
    -- There are uplinks, so that one of them keeps the zone.
    obtain ⟨j, hj, hz⟩ := hk.resolve_left fun hnil => by
      obtain ⟨j, hj, hu⟩ := exists_uplink_of_compile h hr
      exact List.filter_eq_nil_iff.1 hnil j hj hu
    obtain ⟨hj, hu⟩ := List.mem_filter.1 hj
    obtain ⟨name, hplanned⟩ := exists_mem_planDeclared_of_isUplink (s := s) hj hu
    exact hlisted _ (List.mem_append_left _ hplanned) (congrArg some hz)
  · have hne := (name_ne_of_mem_vlans hf hx).1
    obtain ⟨w, hw⟩ := exists_vlanOutline? (d := s.effectiveDelegation) hf hx
    have hmem := fun i => mem_interfaces_iff (i := i) hf hh hx hw
    rw [Host.KeepsZone, Host.interfacesIn, if_neg hne] at hk
    rcases hk with hnil | ⟨j, hj, hz⟩
    · have hroutable := hon.resolve_right fun hne => hne hnil
      obtain ⟨hi, -⟩ := (hmem _).2 (.inr ⟨isRouter_of_router? hr, hroutable, hnil, rfl⟩)
      exact hlisted _ hi (congrArg some (name_of_vlanOutline? hw))
    · obtain ⟨name, hn⟩ := Host.exists_mem_namedInterfaces ((mem_interfacesOn hf hx).1 hj).1
      obtain ⟨hi, -⟩ := (hmem _).2 (.inl ⟨name, j, hj, hn, rfl⟩)
      exact hlisted _ hi (congrArg some hz)

/-- The router has the rules of all tuples and the zones of its interfaces. -/
theorem exists_mem_hosts_of_router? (h : s.compile templates = .ok plan)
    (hr : s.router? = some router) :
    ∃ g ∈ plan.hosts, g.hostname = router.hostname ∧
      g.environment.get? "FIREWALL_RULES" = some (RuleTuple.textOf plan.firewall) ∧
      g.environment.get? "FIREWALL_ZONES" =
        some (lines ((zonesOf (s.planHost s.outlines router).interfaces).map
          fun (zone, name) => columns [zone, name])) := by
  obtain ⟨hf, hp⟩ := addresses_of_compile h
  obtain ⟨hh, hrole⟩ := (router?_eq_some_iff hf).1 hr
  obtain ⟨b, haddresses, hrules, hhosts⟩ := exists_blueprint h
  obtain ⟨g, hg, hname, henvironment⟩ := exists_mem_of_forall₂ hhosts hh
  have henforced : b.enforced router = plan.firewall := by
    rw [Blueprint.enforced, hrole, RuleTuple.rulesFor, hrules]
    rfl
  have hplanned : b.plannedHost router = s.planHost s.outlines router := by
    rw [Blueprint.plannedHost, haddresses, host?_planHosts hf (hosts_of_addressPlan hp) hh,
      Option.getD_some]
  refine ⟨g, hg, hname, ?_, ?_⟩
  · rw [henvironment, Blueprint.get?_firewallRules, henforced]
    rfl
  · rw [henvironment, Blueprint.get?_firewallZones (Host.mem_effectiveRoles.2 hrole),
      Blueprint.zoneLines_eq, hplanned]

/-- **Zones that occur in rules are listed.**  In the lines of a router's rules
    each side is the router, or shows a zone, which is a vlan or the internet.
    If the router leads into this zone, and its interfaces there are not put into
    others, then one of its interfaces is listed with the zone. -/
theorem zones_listed (h : s.compile templates = .ok plan) (hr : s.router? = some router) :
    ∃ g ∈ plan.hosts, g.hostname = router.hostname ∧
      g.environment.get? "FIREWALL_RULES" = some (lines (plan.firewall.flatMap (·.lines))) ∧
      ∃ zones : List (String × String),
        g.environment.get? "FIREWALL_ZONES" =
          some (lines (zones.map fun (zone, name) => columns [zone, name])) ∧
        ∀ t ∈ plan.firewall,
          t.lines = (t.source.texts t.destination).map (fun x => t.line x.1 x.2) ∧
          ∀ x ∈ t.source.texts t.destination,
            ∀ side ∈ [(t.source, x.1), (t.destination, x.2)],
              side.1 = .firewall ∧ side.2 = "$FW" ∨ ShowsZone side.2 side.1.zone ∧
              (side.1.zone = internetZone ∨ ∃ v ∈ s.vlans, v.2.name = side.1.zone) ∧
              (router.LeadsInto s side.1.zone → router.KeepsZone s side.1.zone →
                ∃ name, (side.1.zone, name) ∈ zones) := by
  obtain ⟨g, hg, hname, hrules, hzones⟩ := exists_mem_hosts_of_router? h hr
  refine ⟨g, hg, hname, hrules, _, hzones, fun t ht => ⟨t.lines_eq, fun x hx => ?_⟩⟩
  obtain ⟨hf, hp⟩ := addresses_of_compile h
  have hv := vlans_of_addressPlan hp
  obtain ⟨hsource, hdestination⟩ := Endpoint.shows_of_mem_texts hx
  obtain ⟨hds, hdd⟩ := denoted_of_mem_ruleTuples hf hv (mem_ruleTuples_of_compile h ht)
  have hside : ∀ e text, Endpoint.Denoted plan.addresses e → e.Shows text →
      e = .firewall ∧ text = "$FW" ∨ ShowsZone text e.zone ∧
      (e.zone = internetZone ∨ ∃ v ∈ s.vlans, v.2.name = e.zone) ∧
      (router.LeadsInto s e.zone → router.KeepsZone s e.zone →
        ∃ name, (e.zone, name) ∈ zonesOf (s.planHost s.outlines router).interfaces) := by
    intro e text hd ht
    refine ht.showsZone.imp_right fun ⟨hne, hz⟩ => ⟨hz, ?_, exists_mem_zonesOf h hr⟩
    exact eq_internetZone_or_of_isZone hf hv (hd.isZone_of_ne hne)
  refine List.forall_mem_cons.2 ⟨?_, List.forall_mem_singleton.2 ?_⟩
  · exact hside _ _ hds hsource
  · exact hside _ _ hdd hdestination

def gatedRouter : Host where
  hostname := "gw"
  roles := [.router]
  interfaces := [{ uplink := some "wan0" }]

/-- A site with a rule into a vlan that is not routable. -/
def gated : Site where
  name := "home"
  domain := "example.net"
  switches := [{
    name := "sw"
    vlans := [
      { name := "lan", ipv4Subnet := "10.0.0.0/24" },
      { name := "lab", id := some 20, routable := false, ipv4Subnet := "10.0.1.0/24" }] }]
  hosts := [gatedRouter]
  policy := {
    rules := [
      { sources := [.ofVlan "lan"], destinations := [.ofVlan "lab"]
        allow := [.ports "tcp" (.one (.number 22)) ""] }] }

theorem gated_compiles : ∃ plan, gated.compile [] = .ok plan :=
  exists_compile_nil (by with_unfolding_all decide) (by decide) (by with_unfolding_all decide)
    (by decide) (by with_unfolding_all decide) (by decide)

/-- The tuple of its rule. -/
def gatedTuple : RuleTuple where
  source := .vlan "lan"
  destination := .vlan "lab"
  protocol := .tcp
  ports := PortRange.between? 22 22
  action := .accept
  comment := ""

theorem gatedTuple_mem (h : gated.compile [] = .ok plan) : gatedTuple ∈ plan.firewall := by
  obtain ⟨-, hp⟩ := addresses_of_compile h
  obtain ⟨-, -, hplanned⟩ := addressPlan_eq_ok_iff.1 hp
  rw [firewall_eq_of_compile h, hplanned]
  exact RuleTuple.mem_normalize_of_nodup (by decide) (by decide)

/-- The vlan that the rule comes from is listed. -/
theorem gated_listed : ∃ plan, gated.compile [] = .ok plan ∧ gated.router? = some gatedRouter ∧
    gatedTuple ∈ plan.firewall ∧ ∃ g ∈ plan.hosts, ∃ zones : List (String × String),
      g.environment.get? "FIREWALL_ZONES" =
        some (lines (zones.map fun (zone, name) => columns [zone, name])) ∧
      ∃ name, ("lan", name) ∈ zones := by
  obtain ⟨plan, h⟩ := gated_compiles
  have hr : gated.router? = some gatedRouter := rfl
  obtain ⟨g, hg, -, -, zones, hzones, hsides⟩ := zones_listed h hr
  refine ⟨plan, h, hr, gatedTuple_mem h, g, hg, zones, hzones, ?_⟩
  obtain ⟨-, -, hlisted⟩ := ((hsides gatedTuple (gatedTuple_mem h)).2 ("lan", "lab")
    (by decide) (.vlan "lan", "lan") (by decide)).resolve_left (by decide)
  refine hlisted (.inr ?_) (.inl ?_)
  · decide
  · decide

/-- **A zone that occurs in rules may not be listed**: the router has no interface
    on the vlan that the rule leads to. -/
theorem gated_unlisted : ∃ plan, gated.compile [] = .ok plan ∧
    gated.router? = some gatedRouter ∧ ∃ g ∈ plan.hosts, g.hostname = gatedRouter.hostname ∧
      g.environment.get? "FIREWALL_RULES" = some (lines (plan.firewall.flatMap (·.lines))) ∧
      (∃ t ∈ plan.firewall, "ACCEPT\tlan\tlab\ttcp\t22" ∈ t.lines) ∧
      ∃ zones, g.environment.get? "FIREWALL_ZONES" = some zones ∧
        ∀ line ∈ Text.split (· == '\n') zones.toList,
          (Text.split (· == '\t') line).head? ≠ some "lab".toList := by
  obtain ⟨plan, h⟩ := gated_compiles
  have hr : gated.router? = some gatedRouter := rfl
  obtain ⟨g, hg, hname, hrules, hzones⟩ := exists_mem_hosts_of_router? h hr
  have hall : zonesOf (gated.planHost gated.outlines gatedRouter).interfaces =
      [("internet", "eth0"), ("lan", "sw")] := by decide
  rw [hall] at hzones
  exact ⟨plan, h, hr, g, hg, hname, hrules, ⟨_, gatedTuple_mem h, by decide⟩, _, hzones,
    by decide⟩

end Site

end NetworkSite
