/-
  Where the addresses of a plan lie.

  Every address of an entry lies in a subnet of its vlan
  (`Site.covers_of_mem_entries`), be it declared by the vlan, that of an
  interface or a gateway.  Gateways are neither the first nor the last address
  of an IPv4 subnet (`Site.entry_addresses`); no such thing is asked of the
  addresses that a site writes (`Site.edges_entries`).
-/
import NetworkSite.Proofs.Holders
import NetworkSite.Proofs.Placement
import NetworkSite.Proofs.Separation

namespace NetworkSite

/-- The entry stands in the declaration of its vlan. -/
def Entry.IsDeclared (e : Entry) : Prop :=
  e.kind = .staticHost ∨ e.kind = .reservation

namespace PlannedVlan

variable {v w : PlannedVlan} {a : IpAddress}

/-- The address lies in a subnet of the vlan. -/
def Covers (w : PlannedVlan) : IpAddress → Prop
  | .v4 a => w.subnet4.contains a = true
  | .v6 a => ∃ n, w.ipv6.subnet? = some n ∧ n.contains a = true

instance : Decidable (w.Covers a) :=
  match a with
  | .v4 a => inferInstanceAs (Decidable (w.subnet4.contains a = true))
  | .v6 a =>
    decidable_of_iff (w.ipv6.subnet?.any (·.contains a) = true) (Option.any_eq_true _ _)

theorem Separate.not_covers (h : v.Separate w) (hv : v.Covers a) : ¬w.Covers a := by
  intro hw
  cases a with
  | v4 b => exact h.subnet4 b ⟨hv, hw⟩
  | v6 b =>
    obtain ⟨m, hm, hmb⟩ := hv
    obtain ⟨n, hn, hnb⟩ := hw
    exact h.subnet6 m n hm hn b ⟨hmb, hnb⟩

end PlannedVlan

/-- An IPv4 gateway is a host's address: its subnet has others before and after
    it. -/
theorem Network.ne_ends_of_gateway? {n : Network .v4} {a : Address .v4}
    (h : n.gateway? = some a) : a ≠ n.first ∧ a ≠ n.last := by
  obtain ⟨hsize, hone⟩ := gateway?_eq_some.1 h
  obtain ⟨-, hone⟩ := nth?_eq_some.1 hone
  have hsize : 2 < n.size := Nat.lt_of_not_le fun hle => hsize ⟨rfl, hle⟩
  constructor
  · intro he
    rw [he, toNat_first] at hone
    omega
  · intro he
    rw [he, toNat_last] at hone
    omega

namespace Site

variable {s : Site} {x : Switch × Vlan} {w : PlannedVlan} {a : IpAddress} {e : Entry}

theorem covers_of_mem_gateways {d : Delegation} (hw : s.vlanOutline? d x.1 x.2 = some w)
    (ha : a ∈ w.gateways) : w.Covers a := by
  simp only [PlannedVlan.gateways, List.mem_append, Option.mem_toList, Option.map_eq_some_iff] at ha
  rcases ha with ⟨b, hb, rfl⟩ | ⟨b, hb, rfl⟩
  · exact Network.contains_gateway? ((gateway4_eq_some hw).1 hb).2
  · obtain ⟨-, n, hn, hg⟩ := (gateway6_eq_some hw).1 hb
    exact ⟨n, hn, Network.contains_gateway? hg⟩

/-- What lies in a declared subnet lies in that of the plan. -/
theorem covers_of_holds (h : s.findings = []) (hx : x ∈ s.vlans)
    (hw : s.vlanOutline? s.effectiveDelegation x.1 x.2 = some w) (ha : x.2.holds a = true) :
    w.Covers a := by
  cases a with
  | v4 b =>
    obtain ⟨n, hn, hb⟩ := Vlan.holds_v4.1 ha
    obtain rfl : n = w.subnet4 := Option.some.inj (hn.symm.trans (subnet4_of_vlanOutline? hw))
    exact hb
  | v6 b =>
    obtain ⟨n, hn, hb⟩ := Vlan.holds_v6.1 ha
    refine ⟨n, ?_, hb⟩
    rw [ipv6_of_vlanOutline? hw, subnet?_ipv6Mode h hx]
    exact .inl hn

theorem covers_completeVlan {outlines : List PlannedVlan} {claims : Registry} :
    (s.completeVlan outlines claims w).Covers a ↔ w.Covers a := by
  cases a <;> exact Iff.rfl

theorem ipv6_completeVlan {outlines : List PlannedVlan} {claims : Registry} :
    (s.completeVlan outlines claims w).ipv6 = w.ipv6 :=
  rfl

/-- **Every address of an entry lies in a subnet of its vlan.** -/
theorem covers_of_mem_entries (h : s.findings = []) (hx : x ∈ s.vlans)
    (hw : s.vlanOutline? s.effectiveDelegation x.1 x.2 = some w)
    (he : e ∈ (s.completeVlan s.outlines s.claims w).entries) (ha : a ∈ e.addresses) :
    (s.completeVlan s.outlines s.claims w).Covers a := by
  rw [covers_completeVlan]
  rcases (mem_entries_completeVlan hw).1 he with
    ⟨-, router, -, rfl⟩ | he | ⟨host, hh, i, hi, hv, he⟩
  · exact covers_of_mem_gateways hw ha
  · exact covers_of_holds h hx hw (placed_of_mem_entries h hx he ha).holds
  · rw [name_of_vlanOutline? hw] at hv
    rw [(PlannedVlan.addresses_of_interfaceEntry? he).2.2] at ha
    exact covers_of_holds h hx hw (placed_of_planDeclared h hh hi hx hv ha).holds

/-! ## Entries of a plan -/

theorem isDeclared_of_mem {v : Vlan} (he : e ∈ v.entries) : e.IsDeclared := by
  rcases List.mem_append.1 he with he | he
  · obtain ⟨host, -, rfl⟩ := List.mem_map.1 he
    exact .inl rfl
  · obtain ⟨res, -, rfl⟩ := List.mem_map.1 he
    exact .inr rfl

theorem exists_router_of_kind_gateway
    (hw : s.vlanOutline? s.effectiveDelegation x.1 x.2 = some w)
    (he : e ∈ (s.completeVlan s.outlines s.claims w).entries) (hk : e.kind = .gateway) :
    x.2.routable = true ∧ ∃ router, s.router? = some router ∧
      e = router.gatewayEntry w.gateway4 w.gateway6 := by
  rcases (mem_entries_completeVlan hw).1 he with hgate | he | ⟨host, -, i, -, -, he⟩
  · exact hgate
  · rcases isDeclared_of_mem he with hd | hd
    · rw [hk] at hd
      cases hd
    · rw [hk] at hd
      cases hd
  · rw [(PlannedVlan.addresses_of_interfaceEntry? he).2.1] at hk
    cases hk

theorem ipv4_of_kind_gateway (hw : s.vlanOutline? s.effectiveDelegation x.1 x.2 = some w)
    (he : e ∈ (s.completeVlan s.outlines s.claims w).entries) (hk : e.kind = .gateway) :
    e.ipv4 = w.gateway4 := by
  obtain ⟨-, router, -, rfl⟩ := exists_router_of_kind_gateway hw he hk
  rfl

/-- **Every entry of a build plan has addresses of its vlan.**  Its IPv4 address
    lies in the IPv4 subnet, and is neither the first nor the last one there if
    the entry is the gateway's; its IPv6 address lies in the IPv6 subnet, which
    is known then. -/
theorem entry_addresses {templates : List Template} {plan : BuildPlan}
    (h : s.compile templates = .ok plan) (hw : w ∈ plan.addresses.vlans) (he : e ∈ w.entries) :
    (∀ b, e.ipv4 = some b → w.subnet4.contains b = true ∧
      (e.kind = .gateway → b ≠ w.subnet4.first ∧ b ≠ w.subnet4.last)) ∧
    ∀ b, e.ipv6 = some b → ∃ n, w.ipv6.subnet? = some n ∧ n.contains b = true := by
  obtain ⟨hf, hp⟩ := addresses_of_compile h
  rw [vlans_of_addressPlan hp] at hw
  obtain ⟨x, hx, w, ho, rfl⟩ := exists_of_mem_planVlans hf hw
  have hcovers := fun a => covers_of_mem_entries (a := a) hf hx ho he
  constructor
  · intro b hb
    refine ⟨hcovers (.v4 b) (Entry.mem_addresses.2 (.inl ⟨b, hb, rfl⟩)), fun hk => ?_⟩
    rw [ipv4_of_kind_gateway ho he hk] at hb
    exact Network.ne_ends_of_gateway? ((gateway4_eq_some ho).1 hb).2
  · exact fun b hb => hcovers (.v6 b) (Entry.mem_addresses.2 (.inr ⟨b, hb, rfl⟩))

/-- A site that writes the first and the last addresses of subnets: a static
    host, a reservation and an interface have them. -/
def edges : Site where
  name := "home"
  domain := "example.net"
  switches := [{
    name := "sw"
    vlans := [
      { name := "lan", ipv4Subnet := "10.0.0.0/24", ipv6Subnet := some "fd00:1::/64"
        staticHosts := [{ hostname := "nas", ipv4 := "10.0.0.0" }]
        reservations := [
          { hostname := "tv", mac := "02:00:00:00:00:01", ipv4 := some "10.0.0.255" }] },
      { name := "lab", id := some 20, ipv4Subnet := "10.0.1.0/24" }] }]
  hosts := [
    { hostname := "gw", roles := [.router], interfaces := [{ uplink := some "wan0" }] },
    { hostname := "box"
      interfaces := [
        { switch := some "sw", vlan := some (.name "lab"), ipv4 := .fixed "10.0.1.255" }] }]

theorem edges_compiles : ∃ plan, edges.compile [] = .ok plan :=
  exists_compile_nil (by with_unfolding_all decide) (by decide) (by with_unfolding_all decide)
    (by decide) (by with_unfolding_all decide) (by decide)

/-- The gateway's entry of the first vlan has addresses of both families. -/
theorem edges_gateway : ∃ plan w e a b, edges.compile [] = .ok plan ∧ w ∈ plan.addresses.vlans ∧
    e ∈ w.entries ∧ e.kind = .gateway ∧ e.ipv4 = some a ∧ e.ipv6 = some b ∧
    w.subnet4.contains a = true ∧ (a ≠ w.subnet4.first ∧ a ≠ w.subnet4.last) ∧
    ∃ n, w.ipv6.subnet? = some n ∧ n.contains b = true := by
  obtain ⟨plan, hplan⟩ := edges_compiles
  obtain ⟨-, hp⟩ := addresses_of_compile hplan
  obtain ⟨w, hw, e, he, hk, ⟨a, ha⟩, b, hb⟩ : ∃ w ∈ edges.planVlans, ∃ e ∈ w.entries,
      e.kind = .gateway ∧ (∃ a, e.ipv4 = some a) ∧ ∃ b, e.ipv6 = some b := by
    simp only [← Option.isSome_iff_exists]
    decide
  rw [← vlans_of_addressPlan hp] at hw
  obtain ⟨h4, h6⟩ := entry_addresses hplan hw he
  exact ⟨plan, w, e, a, b, hplan, hw, he, hk, ha, hb, (h4 a ha).1, (h4 a ha).2 hk, h6 b hb⟩

/-- **Entries may have the first or the last address of a subnet** if the site
    writes it, as static host, reservation or interface. -/
theorem edges_entries : ∃ plan, edges.compile [] = .ok plan ∧
    ∀ kind ∈ [EntryKind.staticHost, .reservation, .interface],
      ∃ w ∈ plan.addresses.vlans, w.subnet4.length ≤ 30 ∧ ∃ e ∈ w.entries, e.kind = kind ∧
        (e.ipv4 = some w.subnet4.first ∨ e.ipv4 = some w.subnet4.last) := by
  obtain ⟨plan, hplan⟩ := edges_compiles
  obtain ⟨-, hp⟩ := addresses_of_compile hplan
  refine ⟨plan, hplan, ?_⟩
  rw [vlans_of_addressPlan hp]
  decide

end Site

end NetworkSite
