/-
  Fixed addresses that are published.

  Address records come from the entries of vlans, and an interface with a fixed
  address has an entry there, except for an interface of the router with the
  IPv4 gateway: the entry of the gateway stands for it.  That entry has no other
  address, so an IPv6 address beside the gateway is published only if another
  entry has it (`Site.published_addresses`, `Site.paired_addresses`).
-/
import NetworkSite.Proofs.Agreement
import NetworkSite.Proofs.AddressTexts
import NetworkSite.Proofs.PlannedHosts
import NetworkSite.Proofs.ReverseNames

namespace NetworkSite

/-! ## Entries of interfaces -/

namespace PlannedInterface

/-- The router's interface has the IPv4 gateway of the vlan, besides an address
    that is no gateway. -/
def HidesBesideGateway (i : PlannedInterface) (isRouter : Bool) (w : PlannedVlan) (a : IpAddress) :
    Prop :=
  isRouter = true ∧ (∃ b, w.gateway4 = some b ∧ i.ipv4 = .fixed b) ∧ a ∉ w.gateways

variable {i : PlannedInterface} {a : IpAddress}

/-- An interface with a fixed address has an entry, unless the router has the
    gateway on it. -/
theorem exists_interfaceEntry_or (w : PlannedVlan) (isRouter : Bool) (hostname : String)
    (ha : a ∈ i.fixedAddresses) : (∃ e, w.interfaceEntry? isRouter hostname i = some e) ∨
      isRouter = true ∧ ∃ b, w.gateway4 = some b ∧ i.ipv4 = .fixed b := by
  by_cases hg : isRouter = true ∧ ∃ b, w.gateway4 = some b ∧ i.ipv4 = .fixed b
  · exact .inr hg
  · have hfixed : (i.ipv4.fixed?.isSome || i.ipv6.fixed?.isSome) = true := by
      rcases mem_fixedAddresses.1 ha with ⟨b, hb, -⟩ | ⟨b, hb, -⟩
      · rw [hb]
        rfl
      · rw [hb, Option.isSome_some, Bool.or_true]
    have hgate : (isRouter && i.ipv4.fixed?.isSome && i.ipv4.fixed? == w.gateway4) = false := by
      rw [← Bool.not_eq_true]
      intro hgate
      simp only [Bool.and_eq_true, beq_iff_eq, Option.isSome_iff_exists] at hgate
      obtain ⟨⟨hr, b, hb⟩, he⟩ := hgate
      exact hg ⟨hr, b, he ▸ hb, InterfaceAddress.fixed?_eq_some.1 hb⟩
    exact .inl ⟨_, if_pos (by rw [hfixed, hgate]; rfl)⟩

end PlannedInterface

/-! ## Records -/

theorem DnsRecord.ofAddress_inj {n n' : String} {a a' : IpAddress} :
    ofAddress n a = ofAddress n' a' ↔ n = n' ∧ a = a' := by
  constructor
  · intro h
    exact ⟨congrArg DnsRecord.name h, IpAddress.text_inj (congrArg DnsRecord.value h)⟩
  · rintro ⟨rfl, rfl⟩
    rfl

namespace Site

variable {s : Site} {p : AddressPlan} {x : Switch × Vlan} {w : PlannedVlan} {a : IpAddress}
  {host : Host} {i : PlannedInterface} {hostname : String}

theorem mem_published {name : String} : (name, a) ∈ s.published p ↔
    ∃ w ∈ p.vlans, ∃ e ∈ w.entries, a ∈ e.addresses ∧ name = s.fullName e.hostname w.domain := by
  simp only [published, List.mem_flatMap, List.mem_map, Prod.mk.injEq]
  constructor
  · rintro ⟨w, hw, e, he, b, hb, rfl, rfl⟩
    exact ⟨w, hw, e, he, hb, rfl⟩
  · rintro ⟨w, hw, e, he, ha, rfl⟩
    exact ⟨w, hw, e, he, a, ha, rfl, rfl⟩

/-- The record of an address is there if the address is published. -/
theorem ofAddress_mem_dnsRecords {name : String} :
    .ofAddress name a ∈ s.dnsRecords p ↔ (name, a) ∈ s.published p := by
  have haddress : (DnsRecord.ofAddress name a).isAddress = true := by
    cases a with
    | v4 a => rfl
    | v6 a => rfl
  constructor
  · intro h
    obtain ⟨⟨name', a'⟩, hm, he⟩ := mem_and_isAddress_iff.1 ⟨h, haddress⟩
    obtain ⟨rfl, rfl⟩ := DnsRecord.ofAddress_inj.1 he
    exact hm
  · intro h
    exact (mem_and_isAddress_iff.2 ⟨_, h, rfl⟩).1

/-- What is claimed on a vlan has a record in the name of its claimant exactly if
    an entry of the vlan has it. -/
theorem ofAddress_mem_iff_entry (h : s.findings = []) (hc : s.claimErrors = [])
    (hp : p.vlans = s.planVlans) (hx : x ∈ s.vlans)
    (hw : s.vlanOutline? s.effectiveDelegation x.1 x.2 = some w) (hclaims : s.Claims a hostname)
    (hcovers : w.Covers a) :
    .ofAddress (s.fullName hostname w.domain) a ∈ s.dnsRecords p ↔
      ∃ e ∈ (s.completeVlan s.outlines s.claims w).entries, a ∈ e.addresses := by
  rw [ofAddress_mem_dnsRecords, mem_published, hp]
  constructor
  · rintro ⟨w', hw', e, he, ha, -⟩
    -- The address lies in no other vlan.
    obtain ⟨y, hy, w', ho, rfl⟩ := exists_of_mem_planVlans h hw'
    have hcovers' := covers_completeVlan.1 (covers_of_mem_entries h hy ho he ha)
    obtain rfl := eq_of_covers h hx hy hw ho hcovers hcovers'
    obtain rfl := Option.some.inj (hw.symm.trans ho)
    exact ⟨e, he, ha⟩
  · rintro ⟨e, he, ha⟩
    have hname : hostname = e.hostname := claims_unique hc hclaims (claims_of_mem_entries hx hw he ha)
    exact ⟨_, completeVlan_mem_planVlans h hx hw, e, he, ha, by rw [hname]; rfl⟩

/-- The router's entry on a routable vlan has the gateways. -/
theorem exists_gatewayEntry (hw : s.vlanOutline? s.effectiveDelegation x.1 x.2 = some w)
    (hr : s.isRouter host = true) (ha : a ∈ w.gateways) :
    ∃ e ∈ (s.completeVlan s.outlines s.claims w).entries, a ∈ e.addresses := by
  obtain ⟨router, hrouter, -⟩ := (Option.any_eq_true _ _).1 hr
  have hroutable : x.2.routable = true := by
    simp only [PlannedVlan.gateways, List.mem_append, Option.mem_toList, Option.map_eq_some_iff] at ha
    rcases ha with ⟨b, hb, -⟩ | ⟨b, hb, -⟩
    · exact ((gateway4_eq_some hw).1 hb).1
    · exact ((gateway6_eq_some hw).1 hb).1
  exact ⟨_, (mem_entries_completeVlan hw).2 (.inl ⟨hroutable, router, hrouter, rfl⟩), ha⟩

/-- An entry has the fixed address of a planned interface, if nothing hides
    it. -/
theorem exists_entry_of_not_hides (hh : host ∈ s.hosts)
    (hw : s.vlanOutline? s.effectiveDelegation x.1 x.2 = some w)
    (hi : i ∈ host.planDeclared s s.outlines) (hv : i.vlan = some w.name)
    (ha : a ∈ i.fixedAddresses) (hn : ¬i.HidesBesideGateway (s.isRouter host) w a) :
    ∃ e ∈ (s.completeVlan s.outlines s.claims w).entries, a ∈ e.addresses := by
  rcases PlannedInterface.exists_interfaceEntry_or w (s.isRouter host) host.hostname ha with
    ⟨e, he⟩ | ⟨hr, hgate⟩
  · refine ⟨e, (mem_entries_completeVlan hw).2 (.inr (.inr ⟨host, hh, i, hi, hv, he⟩)), ?_⟩
    rw [(PlannedVlan.addresses_of_interfaceEntry? he).2.2]
    exact ha
  · have hmem : a ∈ w.gateways := by
      by_contra hg
      exact hn ⟨hr, hgate, hg⟩
    exact exists_gatewayEntry hw hr hmem

/-- A planned interface that is no uplink is on a vlan, which has its fixed
    addresses; an entry has them, if nothing hides them. -/
theorem exists_vlan_of_interface (h : s.findings = []) (hh : host ∈ s.hosts)
    (hi : i ∈ (s.planHost s.outlines host).interfaces) (hu : i.uplink = none) :
    ∃ x ∈ s.vlans, ∃ w, s.vlanOutline? s.effectiveDelegation x.1 x.2 = some w ∧
      i.vlan = some w.name ∧ ∀ a ∈ i.fixedAddresses, s.Claims a host.hostname ∧ w.Covers a ∧
        (¬i.HidesBesideGateway (s.isRouter host) w a →
          ∃ e ∈ (s.completeVlan s.outlines s.claims w).entries, a ∈ e.addresses) := by
  rcases List.mem_append.1 hi with hi | hi
  · obtain ⟨vlan, hv⟩ := (Host.uplink_eq_none_iff hi).1 hu
    obtain ⟨name, j, x, w, -, -, hx, hw, he⟩ := Host.exists_of_planDeclared hi hv
    have hx := mem_vlans_of_interfaceVlan? hx
    obtain ⟨w', ho⟩ := exists_vlanOutline? (d := s.effectiveDelegation) h hx
    have hv : i.vlan = some w'.name := by
      rw [he, name_of_vlanOutline? ho]
      rfl
    refine ⟨x, hx, w', ho, hv, fun a ha => ⟨.interface hh hi hv ha, ?_, ?_⟩⟩
    · rw [name_of_vlanOutline? ho] at hv
      exact covers_of_holds h hx ho (placed_of_planDeclared h hh hi hx hv ha).holds
    · exact exists_entry_of_not_hides hh ho hi hv ha
  · split at hi
    next hr =>
      obtain ⟨w, hw, -, -, rfl⟩ := (mem_gatewayInterfaces (nodup_name_outlines h)).1 hi
      obtain ⟨x, hx, ho⟩ := exists_of_mem_outlines hw
      obtain ⟨router, hrouter, hname⟩ := (Option.any_eq_true _ _).1 hr
      have howner : s.gatewayOwner = host.hostname := by
        rw [gatewayOwner, hrouter]
        exact beq_iff_eq.1 hname
      refine ⟨x, hx, w, ho, rfl, fun a ha => ?_⟩
      rw [PlannedVlan.fixedAddresses_gatewayInterface] at ha
      refine ⟨howner ▸ .gateway hx ho ha, covers_of_mem_gateways ho ha, fun _ => ?_⟩
      exact exists_gatewayEntry ho hr ha
    next => cases hi

/-- **The fixed addresses of hosts are published**, with one exception.  An
    interface that is no uplink is on a vlan, and its fixed addresses have records
    there in the name of the host.  Only what the router has beside an IPv4
    gateway, and what is no gateway itself, has its record exactly if some entry
    of the vlan has the address. -/
theorem published_addresses {templates : List Template} {plan : BuildPlan}
    (h : s.compile templates = .ok plan) {g : PlannedHost} (hg : g ∈ plan.addresses.hosts)
    (hi : i ∈ g.interfaces) (hu : i.uplink = none) :
    ∃ w ∈ plan.addresses.vlans, i.vlan = some w.name ∧ ∀ a ∈ i.fixedAddresses,
      (¬i.HidesBesideGateway (s.router?.any (·.hostname == g.hostname)) w a →
        .ofAddress (s.fullName g.hostname w.domain) a ∈ s.dnsRecords plan.addresses) ∧
      (.ofAddress (s.fullName g.hostname w.domain) a ∈ s.dnsRecords plan.addresses ↔
        ∃ e ∈ w.entries, a ∈ e.addresses) := by
  obtain ⟨hf, hp⟩ := addresses_of_compile h
  obtain ⟨-, herrors, -⟩ := addressPlan_eq_ok_iff.1 hp
  obtain ⟨-, hc, -⟩ := addressingErrors_eq_nil.1 herrors
  rw [hosts_of_addressPlan hp] at hg
  obtain ⟨host, hh, rfl⟩ := List.mem_map.1 hg
  obtain ⟨x, hx, w, ho, hv, hall⟩ := exists_vlan_of_interface hf hh hi hu
  have hvlans := vlans_of_addressPlan hp
  refine ⟨s.completeVlan s.outlines s.claims w, ?_, hv, fun a ha => ?_⟩
  · rw [hvlans, planVlans_eq hf]
    exact List.mem_map_of_mem (mem_outlines hx ho)
  · obtain ⟨hclaims, hcovers, hentry⟩ := hall a ha
    have hiff := ofAddress_mem_iff_entry hf hc hvlans hx ho hclaims hcovers
    exact ⟨fun hn => hiff.2 (hentry hn), hiff⟩

/-- A site whose router has an IPv6 address of its own beside the IPv4 gateway;
    another host has addresses of both families. -/
def paired : Site where
  name := "home"
  domain := "example.net"
  switches := [{
    name := "sw"
    vlans := [
      { name := "lan", ipv4Subnet := "10.0.0.0/24", ipv6Subnet := some "fd00:1::/64"
        allowDhcp := false }] }]
  hosts := [
    { hostname := "gw"
      roles := [.router]
      interfaces := [
        { uplink := some "wan0" },
        { switch := some "sw", ipv4 := .fixed "10.0.0.1", ipv6 := some (.fixed "fd00:1::5") }] },
    { hostname := "nas"
      interfaces := [
        { switch := some "sw", ipv4 := .fixed "10.0.0.6", ipv6 := some (.fixed "fd00:1::6") }] }]

theorem paired_compiles : ∃ plan, paired.compile [] = .ok plan :=
  exists_compile_nil (by with_unfolding_all decide) (by decide) (by decide)
    (by decide) (by with_unfolding_all decide) (by decide)

/-- The records of the host that is no router. -/
theorem paired_published : ∃ plan g i w, paired.compile [] = .ok plan ∧
    g ∈ plan.addresses.hosts ∧ g.hostname = "nas" ∧ i ∈ g.interfaces ∧ i.uplink = none ∧
    i.fixedAddresses ≠ [] ∧ w ∈ plan.addresses.vlans ∧ i.vlan = some w.name ∧
    ∀ a ∈ i.fixedAddresses,
      .ofAddress (paired.fullName "nas" w.domain) a ∈ paired.dnsRecords plan.addresses := by
  obtain ⟨plan, hplan⟩ := paired_compiles
  obtain ⟨-, hp⟩ := addresses_of_compile hplan
  obtain ⟨g, hg, hname, hrouter, i, hi, hu, hne⟩ : ∃ g ∈ paired.planHosts, g.hostname = "nas" ∧
      paired.router?.any (·.hostname == g.hostname) = false ∧
      ∃ i ∈ g.interfaces, i.uplink = none ∧ i.fixedAddresses ≠ [] := by
    decide
  rw [← hosts_of_addressPlan hp] at hg
  obtain ⟨w, hw, hv, hall⟩ := published_addresses hplan hg hi hu
  refine ⟨plan, g, i, w, hplan, hg, hname, hi, hu, hne, hw, hv, fun a ha => ?_⟩
  rw [← hname]
  refine (hall a ha).1 fun hhides => ?_
  rw [hrouter] at hhides
  cases hhides.1

/-- **A fixed address may have no record**: that of the router beside the
    gateway. -/
theorem paired_addresses : ∃ plan g i w a, paired.compile [] = .ok plan ∧
    g ∈ plan.addresses.hosts ∧ i ∈ g.interfaces ∧ i.uplink = none ∧
    w ∈ plan.addresses.vlans ∧ i.vlan = some w.name ∧ i.ipv6 = .fixed a ∧
    ∀ r ∈ paired.dnsRecords plan.addresses, r.isAddress = true → r.value ≠ a.text := by
  obtain ⟨plan, hplan⟩ := paired_compiles
  obtain ⟨-, hp⟩ := addresses_of_compile hplan
  obtain ⟨-, -, hplanned⟩ := addressPlan_eq_ok_iff.1 hp
  obtain ⟨g, hg, i, hi, w, hw, hu, hv, ha, hrecords⟩ : ∃ g ∈ paired.planHosts, ∃ i ∈ g.interfaces,
      ∃ w ∈ paired.planVlans, i.uplink = none ∧ i.vlan = some w.name ∧
      i.ipv6 = .fixed (.ofNat 0xfd000001000000000000000000000005) ∧
      ∀ r ∈ paired.dnsRecords {
          vlans := paired.planVlans
          hosts := paired.planHosts
          request := paired.prefixRequest? },
        r.isAddress = true → r.value ≠
          (Address.ofNat 0xfd000001000000000000000000000005 : Address .v6).text := by
    decide
  rw [← hplanned] at hrecords
  rw [← hosts_of_addressPlan hp] at hg
  rw [← vlans_of_addressPlan hp] at hw
  exact ⟨plan, g, i, w, _, hplan, hg, hi, hu, hw, hv, ha, hrecords⟩

end Site

end NetworkSite
