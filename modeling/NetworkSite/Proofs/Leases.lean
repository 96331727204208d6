/-
  What vlans lease.

  The pools of a build plan are not empty and have exactly the addresses at
  their offsets that the plan shows nowhere (`Site.leases_of_compile`): carving
  comes after all claims, and the claims are the addresses of the plan.
-/
import NetworkSite.Proofs.Carving
import NetworkSite.Proofs.Emission
import NetworkSite.Proofs.Holders

namespace NetworkSite

/-- Offsets of 64 bits fit into an IPv6 subnet that has room for them. -/
theorem Network.offset_lt_size {n : Network .v6} (h : n.length ≤ 64) (o : UInt64) :
    o.toNat < n.size := by
  refine Nat.lt_of_lt_of_le o.toNat_lt (Nat.pow_le_pow_right Nat.two_pos ?_)
  show 64 ≤ 128 - n.length
  omega

namespace Site

variable {s : Site} {x : Switch × Vlan} {w : PlannedVlan}

theorem isEmpty_eq_false_of_carve (h : s.poolErrors = []) (hx : x ∈ s.vlans) :
    (∀ c, x.2.carve4? s.outlines s.claims = some c → c.pool.isEmpty = false) ∧
      ∀ c, x.2.carve6? s.outlines s.claims = some c → c.pool.isEmpty = false := by
  simp only [poolErrors, List.flatMap_eq_nil_iff] at h
  have hv := h x hx
  simp only [Vlan.poolErrors, List.append_eq_nil_iff, List.flatMap_eq_nil_iff, CarvedPool.errors,
    ite_eq_right_iff, List.cons_ne_nil, imp_false, Bool.not_eq_true] at hv
  exact ⟨fun c hc => hv.1 c (by rw [hc]; simp), fun c hc => hv.2 c (by rw [hc]; simp)⟩

variable {a : IpAddress}

theorem owner?_claims_eq_none (hc : s.claimErrors = []) :
    s.claims.owner? a = none ↔ ¬∃ o, s.Claims a o := by
  simp only [Option.eq_none_iff_forall_ne_some, ne_eq, owner?_claims_eq_some hc, not_exists]

theorem exists_carve4? (h : s.findings = []) (hx : x ∈ s.vlans) (hd : x.2.allowDhcp = true) :
    ∃ c, x.2.carve4? s.outlines s.claims = some c := by
  obtain ⟨w, hw⟩ := exists_vlanOutline? (d := s.effectiveDelegation) h hx
  obtain ⟨n, hn, hb⟩ := exists_subnet4 h hx
  obtain rfl : n = w.subnet4 := Option.some.inj (hn.symm.trans (subnet4_of_vlanOutline? hw))
  obtain ⟨-, hle, hlt⟩ := hb hd
  obtain ⟨c, hc⟩ : ∃ c, s.claims.carvePool? w.subnet4 x.2.dhcp4First.toNat x.2.dhcp4Last.toNat
      ([w.subnet4.first, w.subnet4.last] ++ w.gateway4.toList) = some c :=
    Registry.exists_carvePool? (by omega) (by omega)
  exact ⟨c, (carve4?_eq_some s.claims h hx hw).2 ⟨hd, hc⟩⟩

/-- An IPv4 pool keeps clear of the base, the broadcast address and the gateway
    by itself: the check puts its offsets between the first two, and the gateway
    is claimed. -/
theorem leases4 (h : s.findings = []) (hc : s.claimErrors = []) (hp : s.poolErrors = [])
    (hx : x ∈ s.vlans) (hw : s.vlanOutline? s.effectiveDelegation x.1 x.2 = some w)
    (hd : x.2.allowDhcp = true) :
    (s.completeVlan s.outlines s.claims w).pool4.Leases w.subnet4 x.2.dhcp4First.toNat
      x.2.dhcp4Last.toNat fun a => ∃ o, s.Claims (.v4 a) o := by
  obtain ⟨n, hn, hb⟩ := exists_subnet4 h hx
  obtain rfl : n = w.subnet4 := Option.some.inj (hn.symm.trans (subnet4_of_vlanOutline? hw))
  obtain ⟨hpos, -, hlt⟩ := hb hd
  obtain ⟨c, hcarve⟩ := exists_carve4? h hx hd
  obtain ⟨-, hcp⟩ := (carve4?_eq_some s.claims h hx hw).1 hcarve
  rw [(pools_completeVlan s.claims h hx hw).1, hcarve]
  refine Registry.leases_of_carvePool? hcp
    ((isEmpty_eq_false_of_carve hp hx).1 c hcarve) fun a o h₁ h₂ ha => ?_
  rw [show IpAddress.of a = .v4 a from rfl, owner?_claims_eq_none hc, and_iff_right_iff_imp]
  intro hfree hr
  rcases List.mem_append.1 hr with hr | hr
  · have hf : a ≠ w.subnet4.first := fun he => by
      rw [he, Network.toNat_first] at ha
      omega
    have hl : a ≠ w.subnet4.last := fun he => by
      rw [he, Network.toNat_last] at ha
      omega
    simp [hf, hl] at hr
  · exact hfree ⟨_, .gateway hx hw (List.mem_append_left _ (by simpa using hr))⟩

/-- An IPv6 pool leaves out the base of its subnet, even where the offsets of a
    delegated subnet begin with it. -/
theorem leases6 (h : s.findings = []) (hc : s.claimErrors = []) (hp : s.poolErrors = [])
    (hx : x ∈ s.vlans) (hw : s.vlanOutline? s.effectiveDelegation x.1 x.2 = some w)
    (hd : x.2.dhcp6Managed = true) {n : Network .v6} (hn : w.ipv6.subnet? = some n) :
    (s.completeVlan s.outlines s.claims w).pool6.Leases n x.2.dhcp6First.toNat
      x.2.dhcp6Last.toNat fun a => a = n.first ∨ ∃ o, s.Claims (.v6 a) o := by
  have hlen : n.length ≤ 64 :=
    length_le_of_subnet?_ipv6Mode h hx (by rw [← ipv6_of_vlanOutline? hw, hn])
  have hcarve := carve6?_eq s.claims h hx hw
  rw [hn, Option.bind_some, if_pos hd] at hcarve
  obtain ⟨c, hcp⟩ : ∃ c, s.claims.carvePool? n x.2.dhcp6First.toNat x.2.dhcp6Last.toNat
      (n.first :: w.gateway6.toList) = some c :=
    Registry.exists_carvePool? (Network.offset_lt_size hlen _) (Network.offset_lt_size hlen _)
  rw [(pools_completeVlan s.claims h hx hw).2, hcarve, hcp]
  refine Registry.leases_of_carvePool? hcp
    ((isEmpty_eq_false_of_carve hp hx).2 c (hcarve.trans hcp)) fun a o h₁ h₂ ha => ?_
  rw [show IpAddress.of a = .v6 a from rfl, owner?_claims_eq_none hc, List.mem_cons, not_or, not_or,
    and_assoc]
  refine and_congr_right fun _ => and_iff_right_iff_imp.2 fun hfree hr => ?_
  exact hfree ⟨_, .gateway hx hw (List.mem_append_right _ (by simpa using hr))⟩

/-- **Vlans lease what nobody holds.**  The pools of a build plan are not empty
    and have exactly the addresses at the declared offsets that the plan shows
    nowhere; a vlan that leases none, or has no known IPv6 subnet, has none. -/
theorem leases_of_compile {templates : List Template} {plan : BuildPlan}
    (h : s.compile templates = .ok plan) (i : Nat) (switch : Switch) (v : Vlan)
    (hi : s.vlans[i]? = some (switch, v)) :
    ∃ w : PlannedVlan, plan.addresses.vlans[i]? = some w ∧ w.name = v.name ∧
      Network.ofText? v.ipv4Subnet = some w.subnet4 ∧
      w.ipv6 = v.ipv6Mode (s.effectiveDelegation.get? v.name) ∧
      (v.allowDhcp = true →
        w.pool4.Leases w.subnet4 v.dhcp4First.toNat v.dhcp4Last.toNat
            (fun a => plan.addresses.Holds (.v4 a)) ∧
          w.pool4.contains w.subnet4.first = false ∧ w.pool4.contains w.subnet4.last = false) ∧
      (v.allowDhcp = false → w.pool4 = {}) ∧
      (∀ n, v.dhcp6Managed = true → w.ipv6.subnet? = some n →
        w.pool6.Leases n v.dhcp6First.toNat v.dhcp6Last.toNat
          fun a => a = n.first ∨ plan.addresses.Holds (.v6 a)) ∧
      (v.dhcp6Managed = false ∨ w.ipv6.subnet? = none → w.pool6 = {}) := by
  obtain ⟨hf, hp⟩ := addresses_of_compile h
  obtain ⟨-, he, hp⟩ := addressPlan_eq_ok_iff.1 hp
  obtain ⟨-, hc, hpool⟩ := addressingErrors_eq_nil.1 he
  have hholds : ∀ a, plan.addresses.Holds a ↔ ∃ o, s.Claims a o :=
    fun a => holds_iff_claims hf (by rw [hp]) (by rw [hp])
  have hx : (switch, v) ∈ s.vlans := List.mem_of_getElem? hi
  obtain ⟨w, hw, hiw⟩ := getElem?_planVlans hf hi
  have hname : w.name = v.name := name_of_vlanOutline? hw
  have hsubnet : Network.ofText? v.ipv4Subnet = some w.subnet4 := subnet4_of_vlanOutline? hw
  have hipv6 : w.ipv6 = v.ipv6Mode (s.effectiveDelegation.get? v.name) := ipv6_of_vlanOutline? hw
  refine ⟨s.completeVlan s.outlines s.claims w, by rw [hp]; exact hiw, hname, hsubnet, hipv6,
    fun hd => ?_, fun hd => ?_, fun n hd hn => ?_, fun hd => ?_⟩
  · have hl := leases4 hf hc hpool hx hw hd
    obtain ⟨n, hn, hb⟩ := exists_subnet4 hf hx
    obtain rfl : n = w.subnet4 := Option.some.inj (hn.symm.trans hsubnet)
    obtain ⟨hpos, -, hlt⟩ := hb hd
    simp only [hholds]
    exact ⟨hl, hl.not_contains_first hpos, hl.not_contains_last hlt⟩
  · rw [(pools_completeVlan s.claims hf hx hw).1, carve4?_eq s.claims hf hx hw, hd]
    rfl
  · simp only [hholds]
    exact leases6 hf hc hpool hx hw hd hn
  · rw [(pools_completeVlan s.claims hf hx hw).2, carve6?_eq s.claims hf hx hw]
    rcases hd with hd | hd
    · cases w.ipv6.subnet? with
      | none => rfl
      | some n => simp [show v.dhcp6Managed = false from hd]
    · rw [show w.ipv6.subnet? = none from hd]
      rfl

/-- The first vlan of the sample site leases addresses of both families. -/
theorem home_leases : ∃ plan w n, home.compile [] = .ok plan ∧ plan.addresses.vlans[0]? = some w ∧
    w.pool4.Leases w.subnet4 16 252 (fun a => plan.addresses.Holds (.v4 a)) ∧
    w.pool6.Leases n 16 0xffff fun a => a = n.first ∨ plan.addresses.Holds (.v6 a) := by
  obtain ⟨plan, hp⟩ := home_compiles
  obtain ⟨w, hw, -, -, hm, h4, -, h6, -⟩ := leases_of_compile hp 0 _ _ rfl
  obtain ⟨n, hn⟩ : ∃ n, w.ipv6.subnet? = some n := by
    rw [hm]
    exact Option.isSome_iff_exists.1 (by decide)
  exact ⟨plan, w, n, hp, hw, (h4 rfl).1, h6 n rfl hn⟩

end Site

end NetworkSite
