/-
  Outlines of a valid site: every vlan has one, at its own place in the plan.

  The address plan finds vlans by their names in the list of outlines and skips
  those without a readable subnet.  In a valid site both come to nothing: the
  vlan at a place is the one whose outline stands there
  (`Site.getElem?_vlanOutlines`), a name finds it (`Site.find?_outlines`), and it
  gets its own pools and entries (`Site.getElem?_planVlans`).
-/
import NetworkSite.Proofs.Shares
import NetworkSite.Proofs.Validity

namespace NetworkSite

theorem getElem?_filterMap {α β : Type} {f : α → Option β} {items : List α}
    (h : ∀ a ∈ items, ∃ b, f a = some b) (i : Nat) : (items.filterMap f)[i]? = items[i]?.bind f := by
  induction items generalizing i with
  | nil => simp
  | cons a rest ih =>
    obtain ⟨b, hb⟩ := h a List.mem_cons_self
    rw [List.filterMap_cons_some hb]
    cases i with
    | zero => simp [hb]
    | succ i => simpa using ih (fun c hc => h c (List.mem_cons_of_mem _ hc)) i

namespace Site

variable {s : Site} {x : Switch × Vlan} {w : PlannedVlan} {d : Delegation} {i : Nat}

section

variable {switch : Switch} {v : Vlan}

theorem vlanOutline?_eq_some :
    s.vlanOutline? d switch v = some w ↔ ∃ n, v.subnet4? = some n ∧ s.outlineOn d switch v n = w :=
  Option.map_eq_some_iff

theorem name_of_vlanOutline? (h : s.vlanOutline? d switch v = some w) : w.name = v.name := by
  obtain ⟨n, -, rfl⟩ := vlanOutline?_eq_some.1 h
  rfl

theorem routable_of_vlanOutline? (h : s.vlanOutline? d switch v = some w) :
    w.routable = v.routable := by
  obtain ⟨n, -, rfl⟩ := vlanOutline?_eq_some.1 h
  rfl

theorem subnet4_of_vlanOutline? (h : s.vlanOutline? d switch v = some w) :
    v.subnet4? = some w.subnet4 := by
  obtain ⟨n, hn, rfl⟩ := vlanOutline?_eq_some.1 h
  exact hn

theorem domain_of_vlanOutline? (h : s.vlanOutline? d switch v = some w) :
    w.domain = s.domainOf v := by
  obtain ⟨n, -, rfl⟩ := vlanOutline?_eq_some.1 h
  rfl

theorem ipv6_of_vlanOutline? (h : s.vlanOutline? d switch v = some w) :
    w.ipv6 = v.ipv6Mode (d.get? v.name) := by
  obtain ⟨n, -, rfl⟩ := vlanOutline?_eq_some.1 h
  rfl

end

theorem gateway4_eq_some (hw : s.vlanOutline? d x.1 x.2 = some w) {a : Address .v4} :
    w.gateway4 = some a ↔ x.2.routable = true ∧ w.subnet4.gateway? = some a := by
  obtain ⟨n, -, rfl⟩ := vlanOutline?_eq_some.1 hw
  exact Option.ite_none_right_eq_some

theorem gateway6_eq_some (hw : s.vlanOutline? d x.1 x.2 = some w) {a : Address .v6} :
    w.gateway6 = some a ↔
      x.2.routable = true ∧ ∃ n, w.ipv6.subnet? = some n ∧ n.gateway? = some a := by
  obtain ⟨n, -, rfl⟩ := vlanOutline?_eq_some.1 hw
  simp only [outlineOn, Option.ite_none_right_eq_some, Option.bind_eq_some_iff]

theorem exists_vlanOutline? (h : s.findings = []) (hx : x ∈ s.vlans) :
    ∃ w, s.vlanOutline? d x.1 x.2 = some w := by
  obtain ⟨n, hn, -⟩ := exists_subnet4 h hx
  exact ⟨_, vlanOutline?_eq_some.2 ⟨n, hn, rfl⟩⟩

/-! ## Places -/

theorem getElem?_vlanOutlines (h : s.findings = []) :
    (s.vlanOutlines d)[i]? = s.vlans[i]?.bind fun x => s.vlanOutline? d x.1 x.2 :=
  getElem?_filterMap (fun _ hx => exists_vlanOutline? h hx) i

theorem mem_outlines (hx : x ∈ s.vlans)
    (hw : s.vlanOutline? s.effectiveDelegation x.1 x.2 = some w) :
    w ∈ s.outlines :=
  List.mem_filterMap.2 ⟨x, hx, hw⟩

theorem exists_of_mem_outlines (hw : w ∈ s.outlines) :
    ∃ x ∈ s.vlans, s.vlanOutline? s.effectiveDelegation x.1 x.2 = some w :=
  List.mem_filterMap.1 hw

theorem map_name_outlines (h : s.findings = []) :
    s.outlines.map (·.name) = (s.vlans.map (·.2)).map (·.name) := by
  refine List.ext_getElem? fun i => ?_
  rw [List.getElem?_map, List.getElem?_map, List.getElem?_map, outlines, getElem?_vlanOutlines h]
  cases hx : s.vlans[i]? with
  | none => rfl
  | some x =>
    obtain ⟨w, hw⟩ := exists_vlanOutline? (d := s.effectiveDelegation) h (List.mem_of_getElem? hx)
    simp [hw, name_of_vlanOutline? hw]

theorem nodup_name_outlines (h : s.findings = []) : (s.outlines.map (·.name)).Nodup := by
  rw [map_name_outlines h]
  exact nodup_names h

theorem find?_outlines (h : s.findings = []) (hx : x ∈ s.vlans)
    (hw : s.vlanOutline? s.effectiveDelegation x.1 x.2 = some w) :
    s.outlines.find? (·.name == x.2.name) = some w := by
  rw [← name_of_vlanOutline? hw]
  exact find?_key_eq (nodup_name_outlines h) (mem_outlines hx hw)

/-! ## The plan -/

theorem vlansNamed_eq (h : s.findings = []) (hx : x ∈ s.vlans) : s.vlansNamed x.2.name = [x.2] :=
  filter_name_eq h hx

theorem planVlans_eq (h : s.findings = []) :
    s.planVlans = s.outlines.map (s.completeVlan s.outlines s.claims) := by
  unfold planVlans
  rw [← map_snd_withEarlier s.outlines, List.map_map, map_snd_withEarlier]
  refine List.map_congr_left fun ⟨before, w⟩ hw => if_neg ?_
  rw [any_key_eq_false (nodup_name_outlines h) hw]
  exact Bool.false_ne_true

theorem completeVlan_mem_planVlans (h : s.findings = []) (hx : x ∈ s.vlans)
    (hw : s.vlanOutline? s.effectiveDelegation x.1 x.2 = some w) :
    s.completeVlan s.outlines s.claims w ∈ s.planVlans := by
  rw [planVlans_eq h]
  exact List.mem_map_of_mem (mem_outlines hx hw)

/-- **The vlan at a place of the plan is the one at that place of the site.** -/
theorem getElem?_planVlans (h : s.findings = []) (hi : s.vlans[i]? = some x) :
    ∃ w, s.vlanOutline? s.effectiveDelegation x.1 x.2 = some w ∧
      s.planVlans[i]? = some (s.completeVlan s.outlines s.claims w) := by
  obtain ⟨w, hw⟩ := exists_vlanOutline? (d := s.effectiveDelegation) h (List.mem_of_getElem? hi)
  refine ⟨w, hw, ?_⟩
  rw [planVlans_eq h, List.getElem?_map, outlines, getElem?_vlanOutlines h, hi]
  simp [hw]

theorem exists_of_getElem?_planVlans (h : s.findings = []) (hw : s.planVlans[i]? = some w) :
    ∃ x, s.vlans[i]? = some x ∧ ∃ w', s.vlanOutline? s.effectiveDelegation x.1 x.2 = some w' ∧
      w = s.completeVlan s.outlines s.claims w' := by
  rw [planVlans_eq h, List.getElem?_map, outlines, getElem?_vlanOutlines h] at hw
  obtain ⟨w', hw', rfl⟩ := Option.map_eq_some_iff.1 hw
  obtain ⟨x, hx, ho⟩ := Option.bind_eq_some_iff.1 hw'
  exact ⟨x, hx, w', ho, rfl⟩

theorem exists_of_mem_planVlans (h : s.findings = []) (hw : w ∈ s.planVlans) :
    ∃ x ∈ s.vlans, ∃ w', s.vlanOutline? s.effectiveDelegation x.1 x.2 = some w' ∧
      w = s.completeVlan s.outlines s.claims w' := by
  obtain ⟨i, hi⟩ := List.getElem?_of_mem hw
  obtain ⟨x, hx, ho⟩ := exists_of_getElem?_planVlans h hi
  exact ⟨x, List.mem_of_getElem? hx, ho⟩

/-! ## IPv6 subnets -/

theorem ipv6Mode_eq_delegated {v : Vlan} {share? : Option DelegatedSubnet} {share : DelegatedSubnet} :
    v.ipv6Mode share? = .delegated share ↔ v.explicitIpv6? = none ∧ share? = some share := by
  unfold Vlan.ipv6Mode
  split
  next text he => split <;> simp [he]
  next he => cases share? <;> simp [he]

/-- A vlan has an IPv6 subnet of its own if it declares one; in a valid site
    that is readable. -/
theorem ipv6Mode_eq_fixed (h : s.findings = []) (hx : x ∈ s.vlans)
    {share? : Option DelegatedSubnet} {n : Network .v6} :
    x.2.ipv6Mode share? = .fixed n ↔ x.2.subnet6? = some n := by
  cases he : x.2.explicitIpv6? with
  | none =>
    rw [Vlan.subnet6?, he]
    cases share? <;> simp [Vlan.ipv6Mode, he]
  | some text =>
    obtain ⟨m, hm, -⟩ := exists_subnet6 h hx (by rw [he]; rfl)
    obtain ⟨text', ht, hr, -⟩ := Vlan.subnet6?_eq_some.1 hm
    obtain rfl : text = text' := Option.some.inj (he.symm.trans ht)
    simp [Vlan.ipv6Mode, he, hm, hr]

/-- A known IPv6 subnet is the declared one, or without a declared one that of
    the share. -/
theorem subnet?_ipv6Mode (h : s.findings = []) (hx : x ∈ s.vlans)
    {share? : Option DelegatedSubnet} {n : Network .v6} :
    (x.2.ipv6Mode share?).subnet? = some n ↔
      x.2.subnet6? = some n ∨
      x.2.explicitIpv6? = none ∧ ∃ share, share? = some share ∧ share.subnet = some n := by
  have hfixed : x.2.ipv6Mode share? = .fixed n ↔ x.2.subnet6? = some n := ipv6Mode_eq_fixed h hx
  simp only [← hfixed, ← exists_and_left, ← and_assoc, ← ipv6Mode_eq_delegated]
  cases x.2.ipv6Mode share? <;> simp [Ipv6Mode.subnet?]

theorem length_le_of_subnet?_ipv6Mode (h : s.findings = []) (hx : x ∈ s.vlans) {n : Network .v6}
    (hn : (x.2.ipv6Mode (s.effectiveDelegation.get? x.2.name)).subnet? = some n) : n.length ≤ 64 := by
  rcases (subnet?_ipv6Mode h hx).1 hn with hn | ⟨-, share, hs, hn⟩
  · obtain ⟨-, -, -, hl⟩ := Vlan.subnet6?_eq_some.1 hn
    exact hl
  · obtain ⟨-, hl, hk⟩ := share_of_effectiveDelegation hs
    obtain ⟨-, -, -, hlen⟩ := hk n hn
    rw [hlen]
    exact hl

/-! ## Pools -/

section

variable (claims : Registry)

theorem carve4?_eq (h : s.findings = []) (hx : x ∈ s.vlans)
    (hw : s.vlanOutline? s.effectiveDelegation x.1 x.2 = some w) :
    x.2.carve4? s.outlines claims =
      if x.2.allowDhcp then
        claims.carvePool? w.subnet4 x.2.dhcp4First.toNat x.2.dhcp4Last.toNat
          ([w.subnet4.first, w.subnet4.last] ++ w.gateway4.toList)
      else none := by
  rw [Vlan.carve4?, find?_outlines h hx hw]
  rfl

theorem carve4?_eq_some (h : s.findings = []) (hx : x ∈ s.vlans)
    (hw : s.vlanOutline? s.effectiveDelegation x.1 x.2 = some w) {c : CarvedPool .v4} :
    x.2.carve4? s.outlines claims = some c ↔ x.2.allowDhcp = true ∧
      claims.carvePool? w.subnet4 x.2.dhcp4First.toNat x.2.dhcp4Last.toNat
        ([w.subnet4.first, w.subnet4.last] ++ w.gateway4.toList) = some c := by
  rw [carve4?_eq claims h hx hw, Option.ite_none_right_eq_some]

theorem carve6?_eq (h : s.findings = []) (hx : x ∈ s.vlans)
    (hw : s.vlanOutline? s.effectiveDelegation x.1 x.2 = some w) :
    x.2.carve6? s.outlines claims =
      w.ipv6.subnet?.bind fun subnet =>
        if x.2.dhcp6Managed then
          claims.carvePool? subnet x.2.dhcp6First.toNat x.2.dhcp6Last.toNat
            (subnet.first :: w.gateway6.toList)
        else none := by
  rw [Vlan.carve6?, find?_outlines h hx hw]
  rfl

theorem pools_completeVlan (h : s.findings = []) (hx : x ∈ s.vlans)
    (hw : s.vlanOutline? s.effectiveDelegation x.1 x.2 = some w) :
    (s.completeVlan s.outlines claims w).pool4 =
        ((x.2.carve4? s.outlines claims).map (·.pool)).getD {} ∧
      (s.completeVlan s.outlines claims w).pool6 =
        ((x.2.carve6? s.outlines claims).map (·.pool)).getD {} := by
  simp only [completeVlan, name_of_vlanOutline? hw, vlansNamed_eq h hx, List.filterMap_cons,
    List.filterMap_nil]
  constructor
  · cases x.2.carve4? s.outlines claims <;> rfl
  · cases x.2.carve6? s.outlines claims <;> rfl

end

end Site

end NetworkSite
