/-
  Who answers at a gateway address.

  The plan claims the gateways of every routable vlan for the router, gives them
  to the other hosts and publishes them.  The router itself has an interface
  with them only where it declares none of its own, or one that writes the same
  address (`Site.router_holds_gateways`): an interface with another address
  keeps the one of the gateway away (`Site.attached_gateways`).
-/
import NetworkSite.Proofs.Emission
import NetworkSite.Proofs.PlannedHosts

namespace NetworkSite

namespace Interface

/-- The interface has this IPv4 address by declaration. -/
def Writes4 (i : Interface) (a : Address .v4) : Prop :=
  ∃ text, i.ipv4 = .fixed text ∧ Address.ofText? text = some a

/-- The interface has this IPv6 address by declaration. -/
def Writes6 (i : Interface) (a : Address .v6) : Prop :=
  i.ipv6Disabled = false ∧ ∃ text, i.ipv6 = some (.fixed text) ∧ Address.ofText? text = some a

end Interface

namespace PlannedVlan

variable {w : PlannedVlan}

theorem ipv4_gatewayInterface {a : Address .v4} (h : w.gateway4 = some a) :
    w.gatewayInterface.ipv4 = .fixed a := by
  simp [gatewayInterface, h]

theorem ipv6_gatewayInterface {a : Address .v6} (h : w.gateway6 = some a) :
    w.gatewayInterface.ipv6 = .fixed a := by
  simp [gatewayInterface, h]

end PlannedVlan

namespace Site

variable {s : Site} {router : Host} {x : Switch × Vlan} {w : PlannedVlan}

/-- The router's interfaces on a vlan have an address if a declared one writes
    it, or if there is no declared one and it is the gateway's. -/
theorem exists_interface_iff (h : s.findings = []) (hr : s.router? = some router)
    (hx : x ∈ s.vlans) (hw : s.vlanOutline? s.effectiveDelegation x.1 x.2 = some w)
    (hroutable : x.2.routable = true) {has : PlannedInterface → Prop} {writes : Interface → Prop}
    (hgate : has w.gatewayInterface)
    (hdeclared : ∀ name j, has (router.planOnVlan s name j x.1 x.2 w) ↔ writes j) :
    (∃ i ∈ (s.planHost s.outlines router).interfaces, i.vlan = some x.2.name ∧ has i) ↔
      router.interfacesOn s x.2.name = [] ∨ ∃ j ∈ router.interfacesOn s x.2.name, writes j := by
  have hh := mem_hosts_of_router? hr
  have hmem := fun i => mem_interfaces_iff (i := i) h hh hx hw
  constructor
  · rintro ⟨i, hi, hv, ha⟩
    rcases (hmem i).1 ⟨hi, hv⟩ with ⟨name, j, hj, -, rfl⟩ | ⟨-, -, hnil, -⟩
    · exact .inr ⟨j, hj, (hdeclared name j).1 ha⟩
    · exact .inl hnil
  · rintro (hnil | ⟨j, hj, ha⟩)
    · obtain ⟨hi, hv⟩ := (hmem _).2 (.inr ⟨isRouter_of_router? hr, hroutable, hnil, rfl⟩)
      exact ⟨_, hi, hv, hgate⟩
    · obtain ⟨name, hn⟩ := Host.exists_mem_namedInterfaces ((mem_interfacesOn h hx).1 hj).1
      obtain ⟨hi, hv⟩ := (hmem _).2 (.inl ⟨name, j, hj, hn, rfl⟩)
      exact ⟨_, hi, hv, (hdeclared name j).2 ha⟩

/-- **The router has an interface with a gateway address** exactly if it declares
    no interface on the vlan, or one that writes this address. -/
theorem router_holds_gateways {templates : List Template} {plan : BuildPlan}
    (h : s.compile templates = .ok plan) (hr : s.router? = some router) :
    ∃ g, plan.addresses.host? router.hostname = some g ∧ ∀ w ∈ plan.addresses.vlans,
      (∀ a, w.gateway4 = some a →
        ((∃ i ∈ g.interfaces, i.vlan = some w.name ∧ i.ipv4 = .fixed a) ↔
          router.interfacesOn s w.name = [] ∨ ∃ i ∈ router.interfacesOn s w.name, i.Writes4 a)) ∧
      ∀ a, w.gateway6 = some a →
        ((∃ i ∈ g.interfaces, i.vlan = some w.name ∧ i.ipv6 = .fixed a) ↔
          router.interfacesOn s w.name = [] ∨ ∃ i ∈ router.interfacesOn s w.name, i.Writes6 a) := by
  obtain ⟨hf, hp⟩ := addresses_of_compile h
  have hhost := host?_planHosts hf (hosts_of_addressPlan hp) (mem_hosts_of_router? hr)
  refine ⟨_, hhost, fun w hw => ?_⟩
  rw [vlans_of_addressPlan hp] at hw
  obtain ⟨x, hx, w, ho, rfl⟩ := exists_of_mem_planVlans hf hw
  have hname : w.name = x.2.name := name_of_vlanOutline? ho
  dsimp only [completeVlan]
  rw [hname]
  constructor
  · intro a ha
    obtain ⟨hroutable, -⟩ := (gateway4_eq_some ho).1 ha
    refine exists_interface_iff hf hr hx ho hroutable (PlannedVlan.ipv4_gatewayInterface ha) ?_
    intro name j
    rw [← InterfaceAddress.fixed?_eq_some]
    exact Interface.fixed?_ipv4On
  · intro a ha
    obtain ⟨hroutable, n, hn, -⟩ := (gateway6_eq_some ho).1 ha
    have henabled : w.ipv6.isEnabled = true := by
      cases hm : w.ipv6 with
      | none => rw [hm] at hn; cases hn
      | fixed m => rfl
      | delegated share => rfl
    refine exists_interface_iff hf hr hx ho hroutable (PlannedVlan.ipv6_gatewayInterface ha) ?_
    intro name j
    rw [← InterfaceAddress.fixed?_eq_some]
    refine Interface.fixed?_ipv6On.trans ?_
    rw [henabled]
    simp [Interface.Writes6]

/-- A router with an address of its own on one of two vlans. -/
def attachedRouter : Host where
  hostname := "gw"
  roles := [.router]
  interfaces := [
    { uplink := some "wan0" },
    { switch := some "sw", ipv4 := .fixed "10.0.0.2" }]

/-- A site with that router. -/
def attached : Site where
  name := "home"
  domain := "example.net"
  switches := [{
    name := "sw"
    vlans := [
      { name := "lan", ipv4Subnet := "10.0.0.0/24", ipv6Subnet := some "fd00:1::/64"
        allowDhcp := false },
      { name := "lab", id := some 20, ipv4Subnet := "10.0.1.0/24", ipv6Subnet := some "fd00:2::/64"
        allowDhcp := false }] }]
  hosts := [attachedRouter]

theorem attached_compiles : ∃ plan, attached.compile [] = .ok plan :=
  exists_compile_nil (by with_unfolding_all decide) (by decide) (by decide)
    (by decide) (by with_unfolding_all decide) (by decide)

theorem router?_attached : attached.router? = some attachedRouter := rfl

/-- Its vlans with their gateways. -/
theorem exists_attached_vlans : ∃ lan lab, attached.planVlans = [lan, lab] ∧
    (lan.name = "lan" ∧ lan.routable = true ∧ lan.gateway4 = some (.ofNat 0x0a000001) ∧
      lan.gateway6 = some (.ofNat 0xfd000001000000000000000000000001)) ∧
    lab.name = "lab" ∧ lab.routable = true ∧ lab.gateway4 = some (.ofNat 0x0a000101) ∧
      lab.gateway6 = some (.ofNat 0xfd000002000000000000000000000001) := by
  have h : (attached.planVlans.map fun w => (w.name, w.routable, w.gateway4, w.gateway6)) = [
      ("lan", true, some (.ofNat 0x0a000001), some (.ofNat 0xfd000001000000000000000000000001)),
      ("lab", true, some (.ofNat 0x0a000101), some (.ofNat 0xfd000002000000000000000000000001))] := by
    decide
  simp only [List.map_eq_cons_iff, List.map_eq_nil_iff, Prod.mk.injEq] at h
  obtain ⟨lan, rest, hvlans, hlan, lab, rest', rfl, hlab, rfl⟩ := h
  exact ⟨lan, lab, hvlans, hlan, hlab⟩

/-- The router holds the gateway of the vlan on which it declares nothing. -/
theorem attached_lab : ∃ plan g w a, attached.compile [] = .ok plan ∧
    plan.addresses.host? attachedRouter.hostname = some g ∧ w ∈ plan.addresses.vlans ∧
    w.gateway4 = some a ∧ ∃ i ∈ g.interfaces, i.vlan = some w.name ∧ i.ipv4 = .fixed a := by
  obtain ⟨plan, hplan⟩ := attached_compiles
  obtain ⟨-, hp⟩ := addresses_of_compile hplan
  obtain ⟨lan, lab, hvlans, -, hname, -, h4, -⟩ := exists_attached_vlans
  obtain ⟨g, hg, hall⟩ := router_holds_gateways hplan router?_attached
  have hlab : lab ∈ plan.addresses.vlans := by simp [vlans_of_addressPlan hp, hvlans]
  refine ⟨plan, g, lab, _, hplan, hg, hlab, h4, ((hall lab hlab).1 _ h4).2 (.inl ?_)⟩
  rw [hname]
  decide

/-- **A router may lack the gateways that it owns**: it has other addresses on
    the first vlan, and the gateways there are on none of its interfaces. -/
theorem attached_gateways : ∃ plan g w a b, attached.compile [] = .ok plan ∧
    attached.router? = some attachedRouter ∧
    plan.addresses.host? attachedRouter.hostname = some g ∧ w ∈ plan.addresses.vlans ∧
    w.routable = true ∧ w.gateway4 = some a ∧ w.gateway6 = some b ∧
    ∀ i ∈ g.interfaces, i.ipv4 ≠ .fixed a ∧ i.ipv6 ≠ .fixed b := by
  obtain ⟨plan, hplan⟩ := attached_compiles
  obtain ⟨hf, hp⟩ := addresses_of_compile hplan
  obtain ⟨lan, lab, hvlans, ⟨-, hroutable, h4, h6⟩, -⟩ := exists_attached_vlans
  have hg := host?_planHosts hf (hosts_of_addressPlan hp) (mem_hosts_of_router? router?_attached)
  have hlan : lan ∈ plan.addresses.vlans := by simp [vlans_of_addressPlan hp, hvlans]
  exact ⟨plan, _, lan, _, _, hplan, router?_attached, hg, hlan, hroutable, h4, h6,
    by decide⟩

end Site

end NetworkSite
