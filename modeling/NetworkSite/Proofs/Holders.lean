/-
  Who holds an address: claims against the finished plan.

  A plan shows an address in three places: in an entry of a vlan, as a gateway,
  and on an interface of a host (`AddressPlan.Holds`).  The registry gets its
  claims elsewhere, vlan by vlan and then host by host.  Both are the same
  addresses if every claim has been granted (`Site.holds_iff_claims`).
-/
import NetworkSite.Proofs.Claims
import NetworkSite.Proofs.Outlines

namespace NetworkSite

/-- The address stands in the plan: in an entry, as a gateway, or on an
    interface that is no uplink. -/
def AddressPlan.Holds (p : AddressPlan) (a : IpAddress) : Prop :=
  (∃ w ∈ p.vlans, (∃ e ∈ w.entries, a ∈ e.addresses) ∨ a ∈ w.gateways) ∨
    ∃ h ∈ p.hosts, ∃ i ∈ h.interfaces, i.uplink = none ∧ a ∈ i.fixedAddresses

/-! ## Interfaces -/

namespace Host

variable {s : Site} {outlines : List PlannedVlan} {h : Host} {i : PlannedInterface}

/-- A declared interface is an uplink, or it is on a vlan. -/
theorem uplink_eq_none_iff (hi : i ∈ h.planDeclared s outlines) :
    i.uplink = none ↔ ∃ vlan, i.vlan = some vlan := by
  obtain ⟨⟨name, j⟩, -, hj⟩ := List.mem_filterMap.1 hi
  simp only [planInterface?] at hj
  split at hj
  next hu =>
    cases hj
    obtain ⟨uplink, hu⟩ := Option.isSome_iff_exists.1 hu
    simp [Interface.planUplink, hu]
  next =>
    obtain ⟨⟨switch, v, w⟩, -, rfl⟩ := Option.map_eq_some_iff.1 hj
    simp [planOnVlan]

end Host

namespace PlannedVlan

variable {w : PlannedVlan}

/-- The router holds the gateways on an interface of its own. -/
theorem fixedAddresses_gatewayInterface : w.gatewayInterface.fixedAddresses = w.gateways := by
  have h4 : w.gatewayInterface.ipv4.fixed? = w.gateway4 := by
    simp only [gatewayInterface]
    cases w.gateway4 <;> rfl
  have h6 : w.gatewayInterface.ipv6.fixed? = w.gateway6 := by
    simp only [gatewayInterface]
    cases w.gateway6 with
    | none => cases w.ipv6.isDelegated <;> rfl
    | some a => rfl
  rw [PlannedInterface.fixedAddresses, h4, h6, gateways]

theorem addresses_of_interfaceEntry? {isRouter : Bool} {hostname : String} {i : PlannedInterface}
    {e : Entry} (he : w.interfaceEntry? isRouter hostname i = some e) :
    e.hostname = hostname ∧ e.kind = .interface ∧ e.addresses = i.fixedAddresses := by
  unfold interfaceEntry? at he
  dsimp only at he
  split at he
  next => cases he; exact ⟨rfl, rfl, rfl⟩
  next => cases he

theorem fixedAddresses_ne_nil_of_interfaceEntry? {isRouter : Bool} {hostname : String}
    {i : PlannedInterface} {e : Entry} (he : w.interfaceEntry? isRouter hostname i = some e) :
    i.fixedAddresses ≠ [] := by
  intro hnil
  unfold interfaceEntry? at he
  simp only [PlannedInterface.fixedAddresses, List.append_eq_nil_iff, Option.toList_eq_nil_iff,
    Option.map_eq_none_iff] at hnil
  simp [hnil] at he

theorem names_of_interfaceEntry? {isRouter : Bool} {hostname : String} {i : PlannedInterface}
    {e : Entry} (he : w.interfaceEntry? isRouter hostname i = some e) :
    e.hostname = hostname ∧ e.aliases = [] := by
  unfold interfaceEntry? at he
  dsimp only at he
  split at he
  next => cases he; exact ⟨rfl, rfl⟩
  next => cases he

end PlannedVlan

/-- The router gets an interface on the routable vlans on which it declares
    none. -/
theorem mem_gatewayInterfaces {outlines : List PlannedVlan} {declared : List PlannedInterface}
    (hn : (outlines.map (·.name)).Nodup) {i : PlannedInterface} :
    i ∈ gatewayInterfaces outlines declared ↔ ∃ w ∈ outlines, w.routable = true ∧
      (∀ j ∈ declared, j.vlan ≠ some w.name) ∧ i = w.gatewayInterface := by
  have hn : ((outlines.filter (·.routable)).map (·.name)).Nodup :=
    (List.filter_sublist.map _).nodup hn
  have hfree (w : PlannedVlan) :
      (!declared.any (·.vlan == some w.name)) = true ↔ ∀ j ∈ declared, j.vlan ≠ some w.name := by
    simp
  constructor
  · intro hi
    obtain ⟨⟨before, w⟩, hw, rfl⟩ := List.mem_map.1 hi
    obtain ⟨hw, hp⟩ := List.mem_filter.1 hw
    have hmem : w ∈ (withEarlier (outlines.filter (·.routable))).map (·.2) := List.mem_map_of_mem hw
    rw [map_snd_withEarlier] at hmem
    obtain ⟨hmem, hr⟩ := List.mem_filter.1 hmem
    exact ⟨w, hmem, hr, (hfree w).1 (Bool.and_eq_true_iff.1 hp).1, rfl⟩
  · rintro ⟨w, hw, hr, hd, rfl⟩
    obtain ⟨before, hb⟩ := exists_mem_withEarlier (List.mem_filter.2 ⟨hw, hr⟩)
    refine List.mem_map.2 ⟨(before, w), List.mem_filter.2 ⟨hb, Bool.and_eq_true_iff.2 ⟨?_, ?_⟩⟩, rfl⟩
    · exact (hfree w).2 hd
    · rw [any_key_eq_false hn hb]
      rfl

/-! ## Claims -/

namespace Site

variable {s : Site} {a : IpAddress} {o : String}

/-- The owner claims the address: as gateway of a vlan, as an entry that a vlan
    declares, or on an interface of a host. -/
inductive Claims (s : Site) (a : IpAddress) : String → Prop
  | gateway {x : Switch × Vlan} (hx : x ∈ s.vlans) {w : PlannedVlan}
    (hw : s.vlanOutline? s.effectiveDelegation x.1 x.2 = some w) (ha : a ∈ w.gateways) :
    s.Claims a s.gatewayOwner
  | entry {x : Switch × Vlan} (hx : x ∈ s.vlans) {w : PlannedVlan}
    (hw : s.vlanOutline? s.effectiveDelegation x.1 x.2 = some w) {e : Entry} (he : e ∈ x.2.entries)
    (ha : a ∈ e.addresses) : s.Claims a e.hostname
  | interface {h : Host} (hh : h ∈ s.hosts) {i : PlannedInterface}
    (hi : i ∈ h.planDeclared s s.outlines) {vlan : String} (hv : i.vlan = some vlan)
    (ha : a ∈ i.fixedAddresses) : s.Claims a h.hostname

theorem claims_of_mem_vlanClaimSteps {x : Switch × Vlan} (hx : x ∈ s.vlans)
    {f : String → AddressingError}
    (h : .claim a o f ∈ s.vlanClaimSteps s.effectiveDelegation x.1 x.2) : s.Claims a o := by
  rcases List.mem_append.1 h with h | h
  · simp at h
  · split at h
    next => cases h
    next w hw =>
      rcases List.mem_append.1 h with h | h
      · obtain ⟨b, hb, he⟩ := List.mem_map.1 h
        cases he
        exact .gateway hx hw hb
      · obtain ⟨e, he, h⟩ := List.mem_flatMap.1 h
        obtain ⟨b, hb, hc⟩ := List.mem_map.1 h
        cases hc
        exact .entry hx hw he hb

theorem claims_of_mem_hostClaimSteps {h : Host} (hh : h ∈ s.hosts) {f : String → AddressingError}
    (hc : .claim a o f ∈ s.hostClaimSteps s.outlines h) : s.Claims a o := by
  obtain ⟨i, hi, hc⟩ := List.mem_flatMap.1 hc
  split at hc
  next vlan hv =>
    obtain ⟨b, hb, hc⟩ := List.mem_map.1 hc
    cases hc
    exact .interface hh hi hv hb
  next => cases hc

theorem mem_planSteps_of_vlan {x : Switch × Vlan} (hx : x ∈ s.vlans) {w : PlannedVlan}
    (hw : s.vlanOutline? s.effectiveDelegation x.1 x.2 = some w) {step : ClaimStep AddressingError}
    (h : step ∈ w.gateways.map (claimOn x.2.name s.gatewayOwner) ∨
      step ∈ x.2.entries.flatMap fun e => e.addresses.map (claimOn x.2.name e.hostname)) :
    step ∈ s.planSteps := by
  refine List.mem_append_left _ (List.mem_flatMap.2 ⟨x, hx, List.mem_append_right _ ?_⟩)
  simp only [hw]
  exact List.mem_append.2 h

theorem mem_planSteps_of_host {h : Host} (hh : h ∈ s.hosts) {i : PlannedInterface}
    (hi : i ∈ h.planDeclared s s.outlines) {vlan : String} (hv : i.vlan = some vlan)
    {step : ClaimStep AddressingError}
    (hs : step ∈ i.fixedAddresses.map (claimOn vlan h.hostname)) : step ∈ s.planSteps := by
  refine List.mem_append_right _ (List.mem_flatMap.2 ⟨h, hh, List.mem_flatMap.2 ⟨i, hi, ?_⟩⟩)
  simp only [hv]
  exact hs

/-- The steps of the plan make exactly these claims. -/
theorem mem_planSteps_iff : (∃ f, .claim a o f ∈ s.planSteps) ↔ s.Claims a o := by
  constructor
  · rintro ⟨f, h⟩
    rcases List.mem_append.1 h with h | h
    · obtain ⟨x, hx, h⟩ := List.mem_flatMap.1 h
      exact claims_of_mem_vlanClaimSteps hx h
    · obtain ⟨g, hg, h⟩ := List.mem_flatMap.1 h
      exact claims_of_mem_hostClaimSteps hg h
  · rintro (⟨hx, hw, ha⟩ | ⟨hx, hw, he, ha⟩ | ⟨hh, hi, hv, ha⟩)
    · exact ⟨_, mem_planSteps_of_vlan hx hw (.inl (List.mem_map_of_mem ha))⟩
    · exact ⟨_, mem_planSteps_of_vlan hx hw
        (.inr (List.mem_flatMap.2 ⟨_, he, List.mem_map_of_mem ha⟩))⟩
    · exact ⟨_, mem_planSteps_of_host hh hi hv (List.mem_map_of_mem ha)⟩

theorem owner?_claims_eq_some (hc : s.claimErrors = []) :
    s.claims.owner? a = some o ↔ s.Claims a o := by
  rw [← mem_planSteps_iff]
  constructor
  · intro h
    exact (Registry.mem_of_owner?_run h).resolve_left nofun
  · rintro ⟨f, hf⟩
    exact Registry.owner?_run_of_mem hc hf

theorem claims_unique (hc : s.claimErrors = []) {o' : String} (h : s.Claims a o)
    (h' : s.Claims a o') : o = o' := by
  rw [← owner?_claims_eq_some hc] at h h'
  exact Option.some.inj (h.symm.trans h')

/-! ## The plan -/

theorem addressingErrors_eq_nil :
    s.addressingErrors = [] ↔ s.delegationErrors = [] ∧ s.claimErrors = [] ∧ s.poolErrors = [] := by
  simp only [addressingErrors, List.append_eq_nil_iff, and_assoc]

theorem mem_hostEntries {w : PlannedVlan} {h : Host} {e : Entry} :
    e ∈ s.hostEntries s.outlines w h ↔ ∃ i ∈ h.planDeclared s s.outlines, i.vlan = some w.name ∧
      w.interfaceEntry? (s.isRouter h) h.hostname i = some e := by
  simp only [hostEntries, List.mem_filterMap, List.mem_filter, beq_iff_eq, and_assoc]

/-- An entry of a vlan is the gateway's, a declared one, or that of an interface
    of a host on the vlan. -/
theorem mem_entries_completeVlan {switch : Switch} {v : Vlan} {w : PlannedVlan}
    (hw : s.vlanOutline? s.effectiveDelegation switch v = some w) {e : Entry} :
    e ∈ (s.completeVlan s.outlines s.claims w).entries ↔
      (v.routable = true ∧ ∃ router, s.router? = some router ∧
        e = router.gatewayEntry w.gateway4 w.gateway6) ∨
      e ∈ v.entries ∨
      ∃ h ∈ s.hosts, ∃ i ∈ h.planDeclared s s.outlines, i.vlan = some w.name ∧
        w.interfaceEntry? (s.isRouter h) h.hostname i = some e := by
  have hgate : e ∈ w.entries ↔ (v.routable = true ∧ ∃ router, s.router? = some router ∧
      e = router.gatewayEntry w.gateway4 w.gateway6) ∨ e ∈ v.entries := by
    obtain ⟨n, hn, rfl⟩ := vlanOutline?_eq_some.1 hw
    rw [outlineOn, List.mem_append]
    refine or_congr_left ?_
    cases hr : v.routable with
    | false => simp
    | true => simp [eq_comm]
  rw [completeVlan, List.mem_append, hgate, or_assoc]
  simp only [List.mem_flatMap, mem_hostEntries]

theorem claims_of_mem_entries {x : Switch × Vlan} (hx : x ∈ s.vlans) {w : PlannedVlan}
    (hw : s.vlanOutline? s.effectiveDelegation x.1 x.2 = some w) {e : Entry}
    (he : e ∈ (s.completeVlan s.outlines s.claims w).entries) (ha : a ∈ e.addresses) :
    s.Claims a e.hostname := by
  rcases (mem_entries_completeVlan hw).1 he with
    ⟨-, router, hr, rfl⟩ | he | ⟨h, hh, i, hi, hv, he⟩
  · have ho : s.gatewayOwner = router.hostname := by rw [gatewayOwner, hr]
    rw [show (router.gatewayEntry w.gateway4 w.gateway6).hostname = s.gatewayOwner from ho.symm]
    exact .gateway hx hw ha
  · exact .entry hx hw he ha
  · obtain ⟨hn, -, hf⟩ := PlannedVlan.addresses_of_interfaceEntry? he
    rw [hn]
    exact .interface hh hi hv (hf ▸ ha)

/-- **The plan shows an address exactly if somebody claims it.** -/
theorem holds_iff_claims (h : s.findings = []) {p : AddressPlan} (hv : p.vlans = s.planVlans)
    (hh : p.hosts = s.planHosts) : p.Holds a ↔ ∃ o, s.Claims a o := by
  rw [AddressPlan.Holds, hv, hh]
  constructor
  · rintro (⟨w, hw, hw'⟩ | ⟨g, hg, i, hi, hu, ha⟩)
    · obtain ⟨x, hx, w, ho, rfl⟩ := exists_of_mem_planVlans h hw
      rcases hw' with ⟨e, he, ha⟩ | ha
      · exact ⟨_, claims_of_mem_entries hx ho he ha⟩
      · exact ⟨_, .gateway hx ho ha⟩
    · obtain ⟨host, hm, rfl⟩ := List.mem_map.1 hg
      rcases List.mem_append.1 hi with hi | hi
      · obtain ⟨vlan, hv⟩ := (Host.uplink_eq_none_iff hi).1 hu
        exact ⟨_, .interface hm hi hv ha⟩
      · split at hi
        next =>
          obtain ⟨w, hw, -, -, rfl⟩ := (mem_gatewayInterfaces (nodup_name_outlines h)).1 hi
          obtain ⟨x, hx, ho⟩ := exists_of_mem_outlines hw
          rw [PlannedVlan.fixedAddresses_gatewayInterface] at ha
          exact ⟨_, .gateway hx ho ha⟩
        next => cases hi
  · have hplan : ∀ {w}, w ∈ s.outlines → s.completeVlan s.outlines s.claims w ∈ s.planVlans :=
      fun hw => by rw [planVlans_eq h]; exact List.mem_map_of_mem hw
    rintro ⟨o, ⟨hx, hw, ha⟩ | ⟨hx, hw, he, ha⟩ | ⟨hg, hi, hv, ha⟩⟩
    · exact .inl ⟨_, hplan (mem_outlines hx hw), .inr ha⟩
    · exact .inl ⟨_, hplan (mem_outlines hx hw),
        .inl ⟨_, (mem_entries_completeVlan hw).2 (.inr (.inl he)), ha⟩⟩
    · exact .inr ⟨_, List.mem_map_of_mem hg, _, List.mem_append_left _ hi,
        (Host.uplink_eq_none_iff hi).2 ⟨_, hv⟩, ha⟩

end Site

end NetworkSite
