/-
  The name that a host has for itself, against its names in DNS.

  A host takes its domain from the first vlan that its interfaces are on, as the
  plan has it; DNS takes it vlan by vlan, from the entries there.  Both come to
  the same: the IPv4 addresses that a host has on its first vlan have records in
  the name that the host has for itself (`Site.own_name`).  For the router this
  holds through the entry of the gateway, which stands for the interface with
  this address.
-/
import NetworkSite.Proofs.HostRules
import NetworkSite.Proofs.HostVariables
import NetworkSite.Proofs.PublishedAddresses

namespace NetworkSite

/-- No IPv4 address is hidden: an interface with the gateway has no other. -/
theorem PlannedInterface.not_hidesBesideGateway {i : PlannedInterface} {isRouter : Bool}
    {w : PlannedVlan} {a : Address .v4} (ha : i.ipv4 = .fixed a) :
    ¬i.HidesBesideGateway isRouter w (.v4 a) := by
  rintro ⟨-, ⟨b, hb, hi⟩, hg⟩
  obtain rfl : a = b := InterfaceAddress.fixed.inj (ha.symm.trans hi)
  refine hg (List.mem_append_left _ ?_)
  rw [hb]
  exact List.mem_cons_self

/-! ## The first vlan -/

namespace Blueprint

variable {b : Blueprint} {host : Host} {planned : PlannedHost} {w : PlannedVlan} {vlan : String}

theorem primaryVlan?_eq (hp : b.addresses.host? host.hostname = some planned)
    (hv : planned.interfaces.findSome? (·.vlan) = some vlan)
    (hw : b.addresses.vlan? vlan = some w) : b.primaryVlan? host = some w := by
  rw [← List.head?_filterMap] at hv
  obtain ⟨rest, hrest⟩ := List.head?_eq_some_iff.1 hv
  rw [primaryVlan?, plannedHost, hp, Option.getD_some, hrest, List.findSome?_cons, hw]

theorem domainOf_eq (hp : b.addresses.host? host.hostname = some planned)
    (hv : planned.interfaces.findSome? (·.vlan) = some vlan)
    (hw : b.addresses.vlan? vlan = some w) : b.domainOf host = w.domain := by
  rw [domainOf, primaryVlan?_eq hp hv hw]

theorem get?_domain : (b.environment host).get? "DOMAIN" = some (b.domainOf host) :=
  get?_of_mem_hostVariables (by decide) (by simp [hostVariables])

theorem get?_fullName : (b.environment host).get? "FQDN" =
    some (b.site.fullName host.hostname (b.domainOf host)) :=
  get?_of_mem_hostVariables (by decide) (by simp [hostVariables])

end Blueprint

/-! ## Names of hosts -/

namespace Site

variable {s : Site} {x : Switch × Vlan} {host : Host} {i : PlannedInterface}

/-- An IPv4 address that a host has on a vlan has a record, in the name of the
    host there. -/
theorem ofAddress_mem_of_ipv4 {p : AddressPlan} (h : s.findings = []) (hp : s.addressPlan = .ok p)
    (hh : host ∈ s.hosts) (hi : i ∈ (s.planHost s.outlines host).interfaces) (hx : x ∈ s.vlans)
    (hv : i.vlan = some x.2.name) {a : Address .v4} (ha : i.ipv4 = .fixed a) :
    .ofAddress (s.fullName host.hostname (s.domainOf x.2)) (.v4 a) ∈ s.dnsRecords p := by
  obtain ⟨-, herrors, -⟩ := addressPlan_eq_ok_iff.1 hp
  obtain ⟨-, hc, -⟩ := addressingErrors_eq_nil.1 herrors
  obtain ⟨y, hy, hname, w, hw, hall⟩ := exists_outline_of_interface h hh hi hv
  obtain rfl := eq_of_name_eq h hx hy hname.symm
  have hfixed : .v4 a ∈ i.fixedAddresses :=
    PlannedInterface.mem_fixedAddresses.2 (.inl ⟨a, InterfaceAddress.fixed?_eq_some.2 ha, rfl⟩)
  obtain ⟨hclaims, hcovers, hentry⟩ := hall _ hfixed
  rw [← domain_of_vlanOutline? hw]
  exact (ofAddress_mem_iff_entry h hc (vlans_of_addressPlan hp) hx hw hclaims hcovers).2
    (hentry (PlannedInterface.not_hidesBesideGateway ha))

/-- **A host has the name for itself that DNS has for it.**  Its domain is that
    of its first vlan, and the IPv4 addresses that it has on this vlan have
    records in the full name that the host has for itself. -/
theorem own_name {templates : List Template} {plan : BuildPlan}
    (h : s.compile templates = .ok plan) {g : HostPlan} (hg : g ∈ plan.hosts) :
    ∃ planned, plan.addresses.host? g.hostname = some planned ∧
      ∀ vlan, planned.interfaces.findSome? (·.vlan) = some vlan →
        ∃ x ∈ s.vlans, x.2.name = vlan ∧
          g.environment.get? "DOMAIN" = some (s.domainOf x.2) ∧
          ∃ fullName, g.environment.get? "FQDN" = some fullName ∧
            fullName = s.fullName g.hostname (s.domainOf x.2) ∧
            ∀ i ∈ planned.interfaces, i.vlan = some vlan → ∀ a, i.ipv4 = .fixed a →
              { name := fullName, type := .a, value := a.text } ∈ s.dnsRecords plan.addresses := by
  obtain ⟨hf, hp⟩ := addresses_of_compile h
  obtain ⟨host, hh, hplan⟩ := exists_mem_of_forall₂ (forall₂_hostPlan h).2.flip hg
  obtain ⟨hname, henvironment, -, -⟩ := Blueprint.isPlanOf_of_hostPlan hplan
  have hplanned := host?_planHosts hf (hosts_of_addressPlan hp) hh
  rw [hname]
  refine ⟨_, hplanned, fun vlan hv => ?_⟩
  -- The first interface on a vlan leads to the vlan.
  obtain ⟨j, hj, hvlan⟩ := List.exists_of_findSome?_eq_some hv
  obtain ⟨x, hx, rfl, w, hw, -⟩ := exists_outline_of_interface hf hh hj hvlan
  have hdomain : (s.blueprint plan.addresses plan.firewall plan.schedule).domainOf host =
      s.domainOf x.2 := by
    rw [Blueprint.domainOf_eq hplanned hv (vlan?_planVlans hf (vlans_of_addressPlan hp) hx hw)]
    exact domain_of_vlanOutline? (w := w) hw
  refine ⟨x, hx, rfl, ?_, _, ?_, rfl, fun i hi hiv a ha => ?_⟩
  · rw [henvironment, Blueprint.get?_domain, hdomain]
  · rw [henvironment, Blueprint.get?_fullName, hdomain]
    rfl
  · exact ofAddress_mem_of_ipv4 hf hp hh hi hx hiv ha

/-- A router with the gateway of a vlan that has a domain of its own. -/
def labelled : Site where
  name := "home"
  domain := "example.net"
  switches := [{
    name := "sw"
    vlans := [{ name := "lan", ipv4Subnet := "10.0.0.0/24", domain := "lan.example.net" }] }]
  hosts := [
    { hostname := "gw"
      roles := [.router]
      interfaces := [
        { uplink := some "wan0" },
        { switch := some "sw", ipv4 := .fixed "10.0.0.1" }] },
    { hostname := "nas"
      interfaces := [{ switch := some "sw", ipv4 := .fixed "10.0.0.6" }] }]

theorem labelled_compiles : ∃ plan, labelled.compile [] = .ok plan :=
  exists_compile_nil (by with_unfolding_all decide) (by decide) (by with_unfolding_all decide)
    (by decide) (by with_unfolding_all decide) (by decide)

/-- The router has the name for itself that its gateway address has. -/
theorem labelled_own_name : ∃ plan g, labelled.compile [] = .ok plan ∧ g ∈ plan.hosts ∧
    g.environment.get? "DOMAIN" = some "lan.example.net" ∧
    g.environment.get? "FQDN" = some "gw.lan.example.net" ∧
    { name := "gw.lan.example.net", type := .a, value := "10.0.0.1" } ∈
      labelled.dnsRecords plan.addresses := by
  obtain ⟨plan, hplan⟩ := labelled_compiles
  obtain ⟨host, hh, hgw⟩ : ∃ host ∈ labelled.hosts, host.hostname = "gw" := by decide
  obtain ⟨g, hg, hgplan⟩ := exists_mem_of_forall₂ (forall₂_hostPlan hplan).2 hh
  have hname : g.hostname = "gw" := (Blueprint.isPlanOf_of_hostPlan hgplan).hostname.trans hgw
  obtain ⟨planned, hplanned, hall⟩ := own_name hplan hg
  obtain ⟨p, hp, hv, i, hi, hiv, ha⟩ : ∃ p ∈ labelled.plannedAddresses.host? "gw",
      p.interfaces.findSome? (·.vlan) = some "lan" ∧
      ∃ i ∈ p.interfaces, i.vlan = some "lan" ∧ i.ipv4 = .fixed (.ofNat 0x0a000001) := by
    decide
  rw [addresses_eq_of_compile hplan, hname] at hplanned
  obtain rfl := Option.some.inj (hplanned.symm.trans hp)
  obtain ⟨x, hx, -, hdomain, fullName, henvironment, rfl, hrecords⟩ := hall _ hv
  have hx : labelled.domainOf x.2 = "lan.example.net" :=
    (by decide : ∀ x ∈ labelled.vlans, labelled.domainOf x.2 = "lan.example.net") x hx
  have hfull : labelled.fullName g.hostname (labelled.domainOf x.2) = "gw.lan.example.net" := by
    rw [hname, hx]
    decide
  rw [hfull] at henvironment hrecords
  rw [hx] at hdomain
  exact ⟨plan, g, hplan, hg, hdomain, henvironment, hrecords i hi hiv _ ha⟩

end Site

end NetworkSite
