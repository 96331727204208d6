/-
  What the DHCP settings of a build plan list.

  Settings are made from the pools of the plan, and reserved leases from its
  entries; both leave out what is not there, without an error.  In a build plan
  nothing is left out: every vlan that is to lease addresses has its settings,
  with addresses to lease, and every reservation that a vlan declares has its
  lease, with the addresses that it writes (`Site.dhcpSettings_complete`).
-/
import NetworkSite.Proofs.Entries
import NetworkSite.Proofs.Leases
import NetworkSite.Proofs.Names
import NetworkSite.Records.Dhcp
import Mathlib.Data.List.Forall2

namespace NetworkSite

open Finding

/-- What a partial function makes of the items at which it is defined; they go
    by the items of another list. -/
theorem forall₂_filterMap {α β γ : Type} {q : α → β → Prop} {r : α → γ → Prop} {p : α → Bool}
    {f : β → Option γ} (hsome : ∀ a b, q a b → p a = true → ∃ c, f b = some c ∧ r a c)
    (hnone : ∀ a b, q a b → p a = false → f b = none) {as : List α} {bs : List β}
    (h : List.Forall₂ q as bs) : List.Forall₂ r (as.filter p) (bs.filterMap f) := by
  induction h with
  | nil => exact .nil
  | @cons a b as bs hab _ ih =>
    cases hp : p a with
    | false =>
      rw [List.filter_cons_of_neg (by simp [hp]), List.filterMap_cons_none (hnone a b hab hp)]
      exact ih
    | true =>
      obtain ⟨c, hc, hr⟩ := hsome a b hab hp
      rw [List.filter_cons_of_pos hp, List.filterMap_cons_some hc]
      exact .cons hr ih

theorem forall₂_filterMap_of_forall {α β : Type} {f : α → Option β} {r : α → β → Prop}
    {items : List α} (h : ∀ a ∈ items, ∃ b, f a = some b ∧ r a b) :
    List.Forall₂ r items (items.filterMap f) := by
  have hsame : List.Forall₂ (fun a b => a = b ∧ a ∈ items) items items :=
    List.forall₂_same.2 fun a ha => ⟨rfl, ha⟩
  have hall := forall₂_filterMap (p := fun _ => true) (f := f) (r := r)
    (fun a b hab _ => by obtain ⟨rfl, ha⟩ := hab; exact h a ha) (fun a b _ hp => by cases hp) hsame
  rwa [List.filter_true] at hall

/-! ## Pools -/

namespace Pool

variable {f : Family} {p : Pool f} {n : Network f} {first last : Nat} {taken : Address f → Prop}

/-- The pool has ranges, none of them without addresses, and all inside the
    network. -/
structure LiesIn (p : Pool f) (n : Network f) : Prop where
  ranges_ne_nil : p.ranges ≠ []
  exists_contains : ∀ r ∈ p.ranges, ∃ a, r.contains a = true
  inside : ∀ r ∈ p.ranges, ∀ a, r.contains a = true → n.contains a = true

/-- A pool lies in the network in which it leases, if its offsets do. -/
theorem Leases.liesIn (h : p.Leases n first last taken) (hlast : last < n.size)
    (hr : ∀ r ∈ p.ranges, ∃ a, r.contains a = true) : p.LiesIn n where
  ranges_ne_nil := by
    obtain ⟨⟨a, ha⟩, -⟩ := h
    obtain ⟨r, hr, -⟩ := List.any_eq_true.1 ha
    exact List.ne_nil_of_mem hr
  exists_contains := hr
  inside r hr a ha := by
    obtain ⟨⟨o, -, ho, ha⟩, -⟩ := (h.2 a).1 (List.any_eq_true.2 ⟨r, hr, ha⟩)
    rw [Network.contains_iff]
    omega

theorem isEmpty_eq_false_of_leases (h : p.Leases n first last taken) : p.isEmpty = false := by
  obtain ⟨⟨a, ha⟩, -⟩ := h
  obtain ⟨r, hr, -⟩ := List.any_eq_true.1 ha
  exact List.isEmpty_eq_false_iff_exists_mem.2 ⟨r, hr⟩

end Pool

/-- The IPv6 subnet of the vlan with a name, where it is known. -/
def AddressPlan.subnet6? (p : AddressPlan) (vlan : String) : Option (Network .v6) :=
  (p.vlan? vlan).bind (·.ipv6.subnet?)

/-- The settings are those of a vlan with this subnet, and have addresses to
    lease in it. -/
structure DhcpSubnet.Serves {f : Family} (d : DhcpSubnet f) (vlan : String)
    (subnet? : Option (Network f)) : Prop where
  vlan : d.vlan = vlan
  subnet : subnet? = some d.subnet
  pool : d.pool.LiesIn d.subnet

/-- The lease is that of a declared reservation, with the MAC address in its
    canonical form and the addresses that are written, both or one or none. -/
structure DhcpReservation.IsFor (r : DhcpReservation) (vlan : String) (declared : Reservation) :
    Prop where
  vlan : r.vlan = vlan
  hostname : r.hostname = declared.hostname
  mac : Mac.normalize? declared.mac = some r.mac
  ipv4 : Option.Rel (fun text a => Address.ofText? text = some a) declared.ipv4 r.ipv4
  ipv6 : Option.Rel (fun text a => Address.ofText? text = some a) declared.ipv6 r.ipv6

namespace Site

variable {s : Site} {x : Switch × Vlan} {w : PlannedVlan} {p : AddressPlan} {res : Reservation}

/-! ## Subnets -/

theorem exists_contains_of_mem_pools (h : s.findings = []) (hx : x ∈ s.vlans)
    (hw : s.vlanOutline? s.effectiveDelegation x.1 x.2 = some w) :
    (∀ r ∈ (s.completeVlan s.outlines s.claims w).pool4.ranges, ∃ a, r.contains a = true) ∧
      ∀ r ∈ (s.completeVlan s.outlines s.claims w).pool6.ranges, ∃ a, r.contains a = true := by
  obtain ⟨h4, h6⟩ := pools_completeVlan s.claims h hx hw
  rw [h4, h6]
  constructor
  · cases hc : x.2.carve4? s.outlines s.claims with
    | none => exact fun r hr => nomatch hr
    | some c =>
      obtain ⟨-, hc⟩ := (carve4?_eq_some s.claims h hx hw).1 hc
      exact fun r => Registry.exists_contains_of_mem_ranges hc
  · cases hc : x.2.carve6? s.outlines s.claims with
    | none => exact fun r hr => nomatch hr
    | some c =>
      rw [carve6?_eq s.claims h hx hw] at hc
      obtain ⟨n, -, hc⟩ := Option.bind_eq_some_iff.1 hc
      obtain ⟨-, hc⟩ := Option.ite_none_right_eq_some.1 hc
      exact fun r => Registry.exists_contains_of_mem_ranges hc

theorem exists_dhcpSubnet4? (h : s.findings = []) (hc : s.claimErrors = []) (hp : s.poolErrors = [])
    (hx : x ∈ s.vlans) (hw : s.vlanOutline? s.effectiveDelegation x.1 x.2 = some w)
    (hd : x.2.allowDhcp = true) :
    ∃ d, s.dhcpSubnet4? p x.2 (s.completeVlan s.outlines s.claims w) = some d ∧
      d.Serves x.2.name (Network.ofText? x.2.ipv4Subnet) := by
  have hleases := leases4 h hc hp hx hw hd
  obtain ⟨n, hn, hb⟩ := exists_subnet4 h hx
  obtain rfl : n = w.subnet4 := Option.some.inj (hn.symm.trans (subnet4_of_vlanOutline? hw))
  obtain ⟨-, -, hlt⟩ := hb hd
  have hname : (s.completeVlan s.outlines s.claims w).name = x.2.name := name_completeVlan hw
  refine ⟨_, if_neg (by rw [Pool.isEmpty_eq_false_of_leases hleases]; exact Bool.false_ne_true), ?_⟩
  exact ⟨hname, hn, hleases.liesIn (by omega) (exists_contains_of_mem_pools h hx hw).1⟩

theorem dhcpSubnet4?_eq_none (h : s.findings = []) (hx : x ∈ s.vlans)
    (hw : s.vlanOutline? s.effectiveDelegation x.1 x.2 = some w) (hd : x.2.allowDhcp = false) :
    s.dhcpSubnet4? p x.2 (s.completeVlan s.outlines s.claims w) = none := by
  refine if_pos ?_
  rw [(pools_completeVlan s.claims h hx hw).1, carve4?_eq s.claims h hx hw, hd]
  rfl

theorem exists_dhcpSubnet6? (h : s.findings = []) (hc : s.claimErrors = []) (hp : s.poolErrors = [])
    (hx : x ∈ s.vlans) (hw : s.vlanOutline? s.effectiveDelegation x.1 x.2 = some w)
    (hd : x.2.dhcp6Managed = true) {n : Network .v6} (hn : w.ipv6.subnet? = some n) :
    ∃ d, s.dhcpSubnet6? p x.2 (s.completeVlan s.outlines s.claims w) = some d ∧
      d.Serves x.2.name (some n) := by
  have hleases := leases6 h hc hp hx hw hd hn
  have hlen : n.length ≤ 64 :=
    length_le_of_subnet?_ipv6Mode h hx (by rw [← ipv6_of_vlanOutline? hw, hn])
  have hname : (s.completeVlan s.outlines s.claims w).name = x.2.name := name_completeVlan hw
  rw [dhcpSubnet6?, ipv6_completeVlan, hn]
  refine ⟨_, if_neg (by rw [Pool.isEmpty_eq_false_of_leases hleases]; exact Bool.false_ne_true), ?_⟩
  exact ⟨hname, rfl, hleases.liesIn (Network.offset_lt_size hlen _)
    (exists_contains_of_mem_pools h hx hw).2⟩

theorem dhcpSubnet6?_eq_none (h : s.findings = []) (hx : x ∈ s.vlans)
    (hw : s.vlanOutline? s.effectiveDelegation x.1 x.2 = some w)
    (hd : x.2.dhcp6Managed = false ∨ w.ipv6.subnet? = none) :
    s.dhcpSubnet6? p x.2 (s.completeVlan s.outlines s.claims w) = none := by
  rw [dhcpSubnet6?, ipv6_completeVlan]
  cases hn : w.ipv6.subnet? with
  | none => rfl
  | some n =>
    have hd : x.2.dhcp6Managed = false := hd.resolve_right (by simp [hn])
    refine if_pos ?_
    rw [(pools_completeVlan s.claims h hx hw).2, carve6?_eq s.claims h hx hw, hn, hd]
    rfl

/-! ## Reserved leases -/

/-- The entries of reservations are those that the vlan declares. -/
theorem filter_reservation_entries (hw : s.vlanOutline? s.effectiveDelegation x.1 x.2 = some w) :
    (s.completeVlan s.outlines s.claims w).entries.filter (·.kind == .reservation) =
      x.2.reservations.map (·.entry) := by
  have hhosts : (s.hosts.flatMap (s.hostEntries s.outlines w)).filter (·.kind == .reservation) = [] :=
    List.filter_eq_nil_iff.2 fun e he => by rw [kind_of_mem_hostEntries he]; decide
  have hstatic : (x.2.staticHosts.map (·.entry)).filter (·.kind == .reservation) = [] := by
    refine List.filter_eq_nil_iff.2 fun e he => ?_
    obtain ⟨host, -, rfl⟩ := List.mem_map.1 he
    exact Bool.false_ne_true
  have hres : (x.2.reservations.map (·.entry)).filter (·.kind == .reservation) =
      x.2.reservations.map (·.entry) := by
    refine List.filter_eq_self.2 fun e he => ?_
    obtain ⟨res, -, rfl⟩ := List.mem_map.1 he
    rfl
  obtain ⟨n, -, rfl⟩ := vlanOutline?_eq_some.1 hw
  rw [completeVlan, List.filter_append, hhosts, List.append_nil, outlineOn, List.filter_append,
    Vlan.entries, List.filter_append, hstatic, hres, List.nil_append, List.append_left_eq_self]
  refine List.filter_eq_nil_iff.2 fun e he => ?_
  split at he
  · obtain ⟨router, -, rfl⟩ := List.mem_map.1 he
    exact Bool.false_ne_true
  · cases he

theorem exists_ofText?_of_entry4Steps (h : s.findings = []) {place : Place} {v : Vlan}
    {owner text : String} (hsteps : s.entry4Steps place v owner text ⊆ s.addressSteps) :
    ∃ a : Address .v4, Address.ofText? text = some a := by
  unfold entry4Steps at hsteps
  split at hsteps
  next a ha => exact ⟨a, ha⟩
  next => exact absurd (hsteps List.mem_cons_self) (not_remark_addressSteps h)

theorem exists_ofText?_of_entry6Steps (h : s.findings = []) {place : Place} {v : Vlan}
    {owner text : String} (hsteps : s.entry6Steps place v owner text ⊆ s.addressSteps) :
    ∃ a : Address .v6, Address.ofText? text = some a := by
  unfold entry6Steps at hsteps
  split at hsteps
  next => exact absurd (hsteps List.mem_cons_self) (not_remark_addressSteps h)
  next a ha => exact ⟨a, ha⟩

/-- A text that is read if it is there. -/
theorem rel_bind_ofText? {f : Family} {text? : Option String}
    (h : ∀ text, text? = some text → ∃ a : Address f, Address.ofText? text = some a) :
    Option.Rel (fun text (a : Address f) => Address.ofText? text = some a) text?
      (text?.bind Address.ofText?) := by
  cases text? with
  | none => exact .none
  | some text =>
    obtain ⟨a, ha⟩ := h text rfl
    rw [Option.bind_some, ha]
    exact .some ha

/-- A reservation of a valid site has a MAC address and readable addresses. -/
theorem exists_dhcpReservation (h : s.findings = []) (hx : x ∈ s.vlans)
    (hr : res ∈ x.2.reservations) (vlan : String) :
    ∃ r : DhcpReservation, (res.entry.mac.map fun mac => {
        vlan, hostname := res.hostname, mac
        ipv4 := res.entry.ipv4, ipv6 := res.entry.ipv6 }) = some r ∧ r.IsFor vlan res := by
  obtain ⟨before, hy⟩ := exists_mem_withEarlier hr
  have hsteps := reservationSteps_subset hx hy
  simp only [reservationSteps, List.append_subset] at hsteps
  obtain ⟨⟨⟨-, hmac⟩, h4⟩, h6⟩ := hsteps
  have hmac := eq_nil_of_remarks_subset h hmac
  rw [Interface.macFindings, require_eq_nil] at hmac
  obtain ⟨mac, hmac⟩ := Option.isSome_iff_exists.1 hmac
  refine ⟨_, by rw [Reservation.entry, hmac]; rfl, rfl, rfl, hmac, ?_, ?_⟩
  · refine rel_bind_ofText? fun text ht => ?_
    rw [ht, Option.toList_some, List.flatMap_singleton] at h4
    exact exists_ofText?_of_entry4Steps h h4
  · refine rel_bind_ofText? fun text ht => ?_
    rw [ht, Option.toList_some, List.flatMap_singleton] at h6
    exact exists_ofText?_of_entry6Steps h h6

theorem forall₂_dhcpReservations (h : s.findings = []) (hx : x ∈ s.vlans)
    (hw : s.vlanOutline? s.effectiveDelegation x.1 x.2 = some w) :
    List.Forall₂ (fun y r => DhcpReservation.IsFor r y.1.name y.2)
      (x.2.reservations.map (x.2, ·))
      (s.completeVlan s.outlines s.claims w).dhcpReservations := by
  rw [PlannedVlan.dhcpReservations, filter_reservation_entries hw, List.filterMap_map,
    List.forall₂_map_left_iff, name_completeVlan hw]
  exact forall₂_filterMap_of_forall fun res hr => exists_dhcpReservation h hx hr x.2.name

/-! ## All settings -/

theorem forall₂_vlansWithPlan (h : s.findings = []) (hp : p.vlans = s.planVlans) :
    List.Forall₂ (fun x y => x ∈ s.vlans ∧ ∃ w, s.vlanOutline? s.effectiveDelegation x.1 x.2 = some w ∧
      y = (x.2, s.completeVlan s.outlines s.claims w)) s.vlans (s.vlansWithPlan p) := by
  refine forall₂_filterMap_of_forall fun x hx => ?_
  obtain ⟨w, hw⟩ := exists_vlanOutline? (d := s.effectiveDelegation) h hx
  exact ⟨_, Option.map_eq_some_iff.2 ⟨_, vlan?_planVlans h hp hx hw, rfl⟩, hx, w, hw, rfl⟩

theorem subnet6?_eq (h : s.findings = []) (hp : p.vlans = s.planVlans) (hx : x ∈ s.vlans)
    (hw : s.vlanOutline? s.effectiveDelegation x.1 x.2 = some w) :
    p.subnet6? x.2.name = w.ipv6.subnet? := by
  rw [AddressPlan.subnet6?, vlan?_planVlans h hp hx hw]
  rfl

section

variable {f : Family} {subnet? : Switch × Vlan → Option (Network f)} {vlans : List (Switch × Vlan)}
  {settings : List (DhcpSubnet f)}

theorem map_vlan_of_serves
    (h : List.Forall₂ (fun x d => DhcpSubnet.Serves d x.2.name (subnet? x)) vlans settings) :
    settings.map (·.vlan) = vlans.map (·.2.name) := by
  induction h with
  | nil => rfl
  | cons hd _ ih => rw [List.map_cons, List.map_cons, ih, hd.vlan]

/-- Settings that go by some of the vlans are of different ones. -/
theorem nodup_vlan_of_serves (h : s.findings = []) (hs : vlans.Sublist s.vlans)
    (hall : List.Forall₂ (fun x d => DhcpSubnet.Serves d x.2.name (subnet? x)) vlans settings) :
    (settings.map (·.vlan)).Nodup := by
  have hnodup := nodup_names h
  rw [List.map_map] at hnodup
  rw [map_vlan_of_serves hall]
  exact (hs.map _).nodup hnodup

end

/-- **The DHCP settings of a build plan are complete.**  In the order of the
    declarations they have, once each, the vlans that lease IPv4 addresses, and
    those that lease IPv6 addresses and whose IPv6 subnet is known, with
    addresses to lease in the subnet; and one lease for each reservation that a
    vlan declares, with exactly the addresses that it writes. -/
theorem dhcpSettings_complete {templates : List Template} {plan : BuildPlan}
    (h : s.compile templates = .ok plan) :
    List.Forall₂ (fun x d => DhcpSubnet.Serves d x.2.name (Network.ofText? x.2.ipv4Subnet))
        (s.vlans.filter (·.2.allowDhcp)) (s.dhcpSettings plan.addresses).subnets4 ∧
      ((s.dhcpSettings plan.addresses).subnets4.map (·.vlan)).Nodup ∧
    List.Forall₂ (fun x d => DhcpSubnet.Serves d x.2.name (plan.addresses.subnet6? x.2.name))
        (s.vlans.filter fun x =>
          x.2.dhcp6Managed && (plan.addresses.subnet6? x.2.name).isSome)
        (s.dhcpSettings plan.addresses).subnets6 ∧
      ((s.dhcpSettings plan.addresses).subnets6.map (·.vlan)).Nodup ∧
    List.Forall₂ (fun y r => DhcpReservation.IsFor r y.1.name y.2)
      (s.vlans.flatMap fun x => x.2.reservations.map (x.2, ·))
      (s.dhcpSettings plan.addresses).reservations := by
  obtain ⟨hf, hp⟩ := addresses_of_compile h
  obtain ⟨-, he, -⟩ := addressPlan_eq_ok_iff.1 hp
  obtain ⟨-, hc, hpool⟩ := addressingErrors_eq_nil.1 he
  have hvlans := vlans_of_addressPlan hp
  have hall := forall₂_vlansWithPlan hf hvlans
  have h4 : List.Forall₂ (fun x d => DhcpSubnet.Serves d x.2.name (Network.ofText? x.2.ipv4Subnet))
      (s.vlans.filter (·.2.allowDhcp)) (s.dhcpSettings plan.addresses).subnets4 := by
    refine forall₂_filterMap ?_ ?_ hall
    · rintro x _ ⟨hx, w, hw, rfl⟩ hd
      exact exists_dhcpSubnet4? hf hc hpool hx hw hd
    · rintro x _ ⟨hx, w, hw, rfl⟩ hd
      exact dhcpSubnet4?_eq_none hf hx hw hd
  have h6 : List.Forall₂
      (fun x d => DhcpSubnet.Serves d x.2.name (plan.addresses.subnet6? x.2.name))
      (s.vlans.filter fun x => x.2.dhcp6Managed && (plan.addresses.subnet6? x.2.name).isSome)
      (s.dhcpSettings plan.addresses).subnets6 := by
    refine forall₂_filterMap ?_ ?_ hall
    · rintro x _ ⟨hx, w, hw, rfl⟩ hd
      obtain ⟨hd, hs⟩ := Bool.and_eq_true_iff.1 hd
      obtain ⟨n, hn⟩ := Option.isSome_iff_exists.1 hs
      rw [hn]
      rw [subnet6?_eq hf hvlans hx hw] at hn
      exact exists_dhcpSubnet6? hf hc hpool hx hw hd hn
    · rintro x _ ⟨hx, w, hw, rfl⟩ hd
      rw [subnet6?_eq hf hvlans hx hw, Bool.and_eq_false_iff, Option.isSome_eq_false_iff,
        Option.isNone_iff_eq_none] at hd
      exact dhcpSubnet6?_eq_none hf hx hw hd
  refine ⟨h4, nodup_vlan_of_serves hf List.filter_sublist h4, h6,
    nodup_vlan_of_serves hf List.filter_sublist h6, ?_⟩
  refine List.rel_flatMap hall ?_
  rintro x _ ⟨hx, w, hw, rfl⟩
  exact forall₂_dhcpReservations hf hx hw

/-- A site that leases addresses of both families on one vlan, of one family on
    two others, one of which knows no IPv6 subnet; two leases are reserved. -/
def leasing : Site where
  name := "home"
  domain := "example.net"
  switches := [{
    name := "sw"
    vlans := [
      { name := "lan", ipv4Subnet := "10.0.0.0/24", ipv6Subnet := some "fd00:1::/64"
        dhcp6Managed := true
        reservations := [
          { hostname := "tv", mac := "AA-BB-CC-DD-EE-01", ipv4 := some "10.0.0.8"
            ipv6 := some "fd00:1::8" },
          { hostname := "lamp", mac := "aa:bb:cc:dd:ee:02" }] },
      { name := "lab", id := some 20, ipv4Subnet := "10.0.1.0/24", dhcp6Managed := true },
      { name := "dmz", id := some 30, ipv4Subnet := "10.0.2.0/24", ipv6Subnet := some "fd00:3::/64"
        allowDhcp := false, dhcp6Managed := true }] }]
  hosts := [{ hostname := "gw", roles := [.router], interfaces := [{ uplink := some "wan0" }] }]

theorem leasing_compiles : ∃ plan, leasing.compile [] = .ok plan :=
  exists_compile_nil (by with_unfolding_all decide) (by decide) (by with_unfolding_all decide)
    (by decide) (by with_unfolding_all decide) (by decide)

/-- Its settings: two subnets of each family, and two reserved leases. -/
theorem leasing_dhcpSettings : ∃ plan d, leasing.compile [] = .ok plan ∧
    leasing.dhcpSettings plan.addresses = d ∧ d.subnets4.length = 2 ∧ d.subnets6.length = 2 ∧
    ∃ tv lamp, d.reservations = [tv, lamp] ∧ Mac.normalize? "AA-BB-CC-DD-EE-01" = some tv.mac ∧
      lamp.ipv4 = none := by
  obtain ⟨plan, hplan⟩ := leasing_compiles
  obtain ⟨-, hp⟩ := addresses_of_compile hplan
  obtain ⟨h4, -, h6, -, hres⟩ := dhcpSettings_complete hplan
  refine ⟨plan, _, hplan, rfl, h4.length_eq.symm, ?_, ?_⟩
  · rw [← h6.length_eq, ← List.countP_eq_length_filter]
    simp only [AddressPlan.subnet6?, AddressPlan.vlan?, vlans_of_addressPlan hp]
    decide
  · obtain ⟨tv, rest, htv, hrest, he⟩ := List.forall₂_cons_left_iff.1 hres
    obtain ⟨lamp, rest', hlamp, hnil, rfl⟩ := List.forall₂_cons_left_iff.1 hrest
    obtain rfl := List.forall₂_nil_left_iff.1 hnil
    refine ⟨tv, lamp, he, htv.mac, ?_⟩
    have hlamp := hlamp.ipv4
    cases hl : lamp.ipv4 with
    | none => rfl
    | some a => rw [hl] at hlamp; cases hlamp

end Site

end NetworkSite
