/-
  Where the addresses of a valid site lie.

  Every address that an entry of a vlan or an interface on it writes is placed by
  the check (`Site.placed_of_mem_entries`, `Site.placed_of_planDeclared`): it lies
  in a subnet that the vlan declares and outside the pool, and its owner claims
  it.  The entries of a vlan have no name in common (`Site.pairwise_entryNames`).
-/
import NetworkSite.Addressing.Resolution
import NetworkSite.Proofs.Claims
import NetworkSite.Proofs.Validity

namespace NetworkSite

open Finding

namespace Vlan

variable {v : Vlan} {a : IpAddress} {place : Place}

/-- Inside the declared subnet is what the check finds nothing wrong with, where
    there is one. -/
theorem holds_of_insideFindings (h : Interface.insideFindings place v a = [])
    (hs : (v.subnetText? a).isSome = true) : v.holds a = true := by
  obtain ⟨text, ht⟩ := Option.isSome_iff_exists.1 hs
  simpa only [Interface.insideFindings, ht, require_eq_nil] using h

theorem holds_v4 {b : Address .v4} :
    v.holds (.v4 b) = true ↔ ∃ n, v.subnet4? = some n ∧ n.contains b = true := by
  simp only [holds, Option.any_eq_true]

theorem holds_v6 {b : Address .v6} :
    v.holds (.v6 b) = true ↔ ∃ n, v.subnet6? = some n ∧ n.contains b = true := by
  simp only [holds, Option.any_eq_true]

theorem isSome_subnetText?_of_holds (h : v.holds a = true) : (v.subnetText? a).isSome = true := by
  cases a with
  | v4 b =>
    obtain ⟨n, hn, -⟩ := holds_v4.1 h
    rw [subnetText?, hn]
    rfl
  | v6 b =>
    obtain ⟨n, hn, -⟩ := holds_v6.1 h
    rw [subnetText?, hn]
    rfl

end Vlan

theorem Entry.mem_addresses {e : Entry} {a : IpAddress} :
    a ∈ e.addresses ↔ (∃ b, e.ipv4 = some b ∧ .v4 b = a) ∨ ∃ b, e.ipv6 = some b ∧ .v6 b = a := by
  simp only [addresses, List.mem_append, Option.mem_toList, Option.map_eq_some_iff]

theorem PlannedInterface.mem_fixedAddresses {i : PlannedInterface} {a : IpAddress} :
    a ∈ i.fixedAddresses ↔
      (∃ b, i.ipv4.fixed? = some b ∧ .v4 b = a) ∨ ∃ b, i.ipv6.fixed? = some b ∧ .v6 b = a := by
  simp only [fixedAddresses, List.mem_append, Option.mem_toList, Option.map_eq_some_iff]

/-! ## Fixed addresses of interfaces -/

theorem InterfaceAddress.fixed?_eq_some {f : Family} {i : InterfaceAddress f} {a : Address f} :
    i.fixed? = some a ↔ i = .fixed a := by
  cases i <;> simp [fixed?]

namespace Interface

variable {i : Interface} {v networks : Vlan} {place : Place}

theorem fixed?_getD {f : Family} {text : String} :
    (((Address.ofText? text).map .fixed).getD .disabled : InterfaceAddress f).fixed? =
      Address.ofText? text := by
  cases (Address.ofText? text : Option (Address f)) <;> rfl

theorem fixed?_ipv4On {b : Address .v4} :
    i.ipv4On.fixed? = some b ↔ ∃ text, i.ipv4 = .fixed text ∧ Address.ofText? text = some b := by
  unfold ipv4On
  split
  next text ht => simp [ht, fixed?_getD]
  next ht => simp [ht, InterfaceAddress.fixed?]
  next ht => simp [ht, InterfaceAddress.fixed?]

theorem fixed?_ipv6On {mode : Ipv6Mode} {b : Address .v6} :
    (i.ipv6On v mode).fixed? = some b ↔ i.ipv6Disabled = false ∧ mode.isEnabled = true ∧
      ∃ text, i.ipv6 = some (.fixed text) ∧ Address.ofText? text = some b := by
  unfold ipv6On
  split
  next hd =>
    refine iff_of_false nofun ?_
    rintro ⟨hi, hm, -⟩
    simp [hi, hm] at hd
  next hd =>
    obtain ⟨hi, hm⟩ : i.ipv6Disabled = false ∧ mode.isEnabled = true := by simpa using hd
    split
    next text ht => simp [ht, hi, hm, fixed?_getD]
    next ht => simp [ht, InterfaceAddress.fixed?]
    next ht => simp [ht, InterfaceAddress.fixed?]
    next ht => split <;> simp [ht, InterfaceAddress.fixed?]

theorem holds_of_vlan4Findings {h : Host} {n : Network .v4} {b : Address .v4}
    (hf : i.vlan4Findings place h v networks = []) (hn : networks.subnet4? = some n)
    (hb : i.ipv4On.fixed? = some b) : networks.holds (.v4 b) = true := by
  obtain ⟨text, ht, hb⟩ := fixed?_ipv4On.1 hb
  simp only [vlan4Findings, ht, hb] at hf
  exact Vlan.holds_of_insideFindings hf (by rw [Vlan.subnetText?, hn]; rfl)

theorem holds_of_vlan6Findings {mode : Ipv6Mode} {b : Address .v6}
    (hf : i.vlan6Findings place v networks = []) (hb : (i.ipv6On v mode).fixed? = some b) :
    networks.holds (.v6 b) = true := by
  obtain ⟨-, -, text, ht, hb⟩ := fixed?_ipv6On.1 hb
  simp only [vlan6Findings, ht, hb] at hf
  split at hf
  next => cases hf
  next hn =>
    refine Vlan.holds_of_insideFindings hf ?_
    cases hs : networks.subnet6? with
    | none => simp [hs] at hn
    | some n => simp [Vlan.subnetText?, hs]

/-- An interface that joins a switch passes the check of its vlan. -/
theorem findings_of_shapeFindings {s : Site} {h : Host} {x : Switch × Vlan}
    (hf : i.shapeFindings s place h = []) (hu : i.isUplink = false)
    (hx : s.interfaceVlan? i = some x) :
    i.vlan4Findings place h x.2 (s.namesake x.2) = [] ∧
      i.vlan6Findings place x.2 (s.namesake x.2) = [] := by
  rw [isUplink, Option.isSome_eq_false_iff, Option.isNone_iff_eq_none] at hu
  unfold shapeFindings at hf
  rw [hu] at hf
  cases hs : i.switch with
  | none => simp [hs] at hf
  | some switch =>
    simp only [hs, switchFindings, hx] at hf
    split at hf
    next => cases hf
    next => exact List.append_eq_nil_iff.1 hf

end Interface

/-! ## Declared interfaces -/

/-- A planned interface on a vlan is a declared one that joins a switch. -/
theorem Host.exists_of_planDeclared {s : Site} {outlines : List PlannedVlan} {host : Host}
    {i : PlannedInterface} (hi : i ∈ host.planDeclared s outlines) {vlan : String}
    (hv : i.vlan = some vlan) :
    ∃ name j, ∃ x : Switch × Vlan, ∃ w, (name, j) ∈ host.namedInterfaces ∧ j.isUplink = false ∧
      s.interfaceVlan? j = some x ∧ outlines.find? (·.name == x.2.name) = some w ∧
      i = host.planOnVlan s name j x.1 x.2 w := by
  obtain ⟨⟨name, j⟩, hj, hi⟩ := List.mem_filterMap.1 hi
  simp only [planInterface?] at hi
  split at hi
  next => cases hi; cases hv
  next hu =>
    obtain ⟨⟨switch, v, w⟩, ho, rfl⟩ := Option.map_eq_some_iff.1 hi
    obtain ⟨x, hx, ho⟩ := Option.bind_eq_some_iff.1 ho
    obtain ⟨w', hw, ho⟩ := Option.bind_eq_some_iff.1 ho
    cases ho
    exact ⟨name, j, x, w, hj, by simpa using hu, hx, hw, rfl⟩

namespace Site

variable {s : Site} {x : Switch × Vlan} {a : IpAddress}

/-! ## Vlans of interfaces -/

theorem mem_of_fallbackVlan? {switch : Switch} {v : Vlan} (h : switch.fallbackVlan? = some v) :
    v ∈ switch.vlans := by
  unfold Switch.fallbackVlan? at h
  split at h
  next hu => cases h; exact List.mem_of_find?_eq_some hu
  next =>
    split at h
    next hd => cases h; exact List.mem_of_find?_eq_some hd
    next =>
      split at h
      next hv => cases h; rw [hv]; exact List.mem_singleton_self v
      next => cases h

theorem mem_vlans_of_interfaceVlan? {i : Interface} (h : s.interfaceVlan? i = some x) :
    x ∈ s.vlans := by
  obtain ⟨name, -, h⟩ := Option.bind_eq_some_iff.1 h
  obtain ⟨switch, hs, h⟩ := Option.bind_eq_some_iff.1 h
  have hs : switch ∈ s.switches := List.mem_of_find?_eq_some hs
  dsimp only at h
  split at h
  all_goals
    obtain ⟨v, hv, h⟩ := Option.bind_eq_some_iff.1 h
    cases h
  · exact mem_vlans.2 ⟨hs, List.mem_of_find?_eq_some hv⟩
  · exact mem_vlans.2 ⟨hs, mem_of_fallbackVlan? hv⟩

/-! ## Steps of the check -/

theorem not_remark_addressSteps (h : s.findings = []) {e : Finding} : .remark e ∉ s.addressSteps :=
  Registry.not_remark_mem (findings_eq_nil.1 h).2.2.2.2.2.2.1

theorem eq_nil_of_remarks_subset (h : s.findings = []) {findings : List Finding}
    (hs : findings.map .remark ⊆ s.addressSteps) : findings = [] := by
  cases findings with
  | nil => rfl
  | cons e rest => exact absurd (hs List.mem_cons_self) (not_remark_addressSteps h)

/-- The check has placed an address of a vlan: it lies in a declared subnet and
    outside the pool, and its owner claims it. -/
structure Placed (s : Site) (v : Vlan) (a : IpAddress) (owner : String) : Prop where
  holds : v.holds a = true
  free : s.poolFindings v a owner = []
  claimed : ∃ refused, .claim a owner refused ∈ s.addressSteps

variable {owner : String}

/-- An address is placed if the steps of its owner are among those of the site,
    since these hold no remark. -/
theorem placed_of_claimSteps (h : s.findings = []) (hx : x ∈ s.vlans)
    (hsteps : s.claimSteps x.2 a owner ⊆ s.addressSteps) (hs : (x.2.subnetText? a).isSome = true) :
    s.Placed x.2 a owner := by
  unfold claimSteps at hsteps
  rw [namesake_eq h hx] at hsteps
  split at hsteps
  next hi =>
    rw [List.append_subset] at hsteps
    exact ⟨Vlan.holds_of_insideFindings hi hs, eq_nil_of_remarks_subset h hsteps.1,
      _, hsteps.2 List.mem_cons_self⟩
  next hne => exact absurd (eq_nil_of_remarks_subset h hsteps) hne

/-! ## Entries -/

theorem placed_of_entry4Steps (h : s.findings = []) (hx : x ∈ s.vlans) {place : Place}
    {text : String} (hsteps : s.entry4Steps place x.2 owner text ⊆ s.addressSteps)
    {b : Address .v4} (hb : Address.ofText? text = some b) : s.Placed x.2 (.v4 b) owner := by
  simp only [entry4Steps, hb] at hsteps
  obtain ⟨n, hn, -⟩ := exists_subnet4 h hx
  exact placed_of_claimSteps h hx hsteps (by rw [Vlan.subnetText?, hn]; rfl)

theorem placed_of_entry6Steps (h : s.findings = []) (hx : x ∈ s.vlans) {place : Place}
    {text : String} (hsteps : s.entry6Steps place x.2 owner text ⊆ s.addressSteps)
    {b : Address .v6} (hb : Address.ofText? text = some b) : s.Placed x.2 (.v6 b) owner := by
  simp only [entry6Steps, hb, namesake_eq h hx] at hsteps
  split at hsteps
  next => exact absurd (hsteps List.mem_cons_self) (not_remark_addressSteps h)
  next hn =>
    refine placed_of_claimSteps h hx hsteps ?_
    cases hs : x.2.subnet6? with
    | none => simp [hs] at hn
    | some n => simp [Vlan.subnetText?, hs]

theorem mem_addressSteps_of_vlan (hx : x ∈ s.vlans) {step : AddressStep}
    (h : step ∈ s.vlanSteps x.2) : step ∈ s.addressSteps :=
  List.mem_append_left _ (List.mem_flatMap.2 ⟨x, hx, h⟩)

theorem staticHostSteps_subset (hx : x ∈ s.vlans) {y : List StaticHost × StaticHost}
    (hy : y ∈ withEarlier x.2.staticHosts) :
    s.staticHostSteps x.2 (y.1.flatMap (·.names)) y.2 ⊆ s.addressSteps := fun _ hm =>
  mem_addressSteps_of_vlan hx (List.mem_append_left _ (List.mem_flatMap.2 ⟨y, hy, hm⟩))

theorem reservationSteps_subset (hx : x ∈ s.vlans) {y : List Reservation × Reservation}
    (hy : y ∈ withEarlier x.2.reservations) :
    s.reservationSteps x.2 (x.2.staticHosts.flatMap (·.names) ++ y.1.flatMap (·.names)) y.2 ⊆
      s.addressSteps := fun _ hm =>
  mem_addressSteps_of_vlan hx (List.mem_append_right _ (List.mem_flatMap.2 ⟨y, hy, hm⟩))

theorem placed_of_optional4 (h : s.findings = []) (hx : x ∈ s.vlans) {place : Place}
    {text? : Option String}
    (hsteps : text?.toList.flatMap (s.entry4Steps place x.2 owner) ⊆ s.addressSteps)
    {b : Address .v4} (hb : text?.bind Address.ofText? = some b) : s.Placed x.2 (.v4 b) owner := by
  obtain ⟨text, rfl, hb⟩ := Option.bind_eq_some_iff.1 hb
  rw [Option.toList_some, List.flatMap_singleton] at hsteps
  exact placed_of_entry4Steps h hx hsteps hb

theorem placed_of_optional6 (h : s.findings = []) (hx : x ∈ s.vlans) {place : Place}
    {text? : Option String}
    (hsteps : text?.toList.flatMap (s.entry6Steps place x.2 owner) ⊆ s.addressSteps)
    {b : Address .v6} (hb : text?.bind Address.ofText? = some b) : s.Placed x.2 (.v6 b) owner := by
  obtain ⟨text, rfl, hb⟩ := Option.bind_eq_some_iff.1 hb
  rw [Option.toList_some, List.flatMap_singleton] at hsteps
  exact placed_of_entry6Steps h hx hsteps hb

/-- **The check places the addresses of declared entries.** -/
theorem placed_of_mem_entries (h : s.findings = []) (hx : x ∈ s.vlans) {e : Entry}
    (he : e ∈ x.2.entries) (ha : a ∈ e.addresses) : s.Placed x.2 a e.hostname := by
  rcases List.mem_append.1 he with he | he
  · obtain ⟨host, hm, rfl⟩ := List.mem_map.1 he
    obtain ⟨before, hy⟩ := exists_mem_withEarlier hm
    have hs := staticHostSteps_subset hx hy
    simp only [staticHostSteps, List.append_subset] at hs
    rcases Entry.mem_addresses.1 ha with ⟨b, hb, rfl⟩ | ⟨b, hb, rfl⟩
    · exact placed_of_entry4Steps h hx hs.1.2 hb
    · exact placed_of_optional6 h hx hs.2 hb
  · obtain ⟨res, hm, rfl⟩ := List.mem_map.1 he
    obtain ⟨before, hy⟩ := exists_mem_withEarlier hm
    have hs := reservationSteps_subset hx hy
    simp only [reservationSteps, List.append_subset] at hs
    rcases Entry.mem_addresses.1 ha with ⟨b, hb, rfl⟩ | ⟨b, hb, rfl⟩
    · exact placed_of_optional4 h hx hs.1.2 hb
    · exact placed_of_optional6 h hx hs.2 hb

theorem ne_of_entryNameFindings {v : Vlan} {taken : List String} {name : String}
    (h : entryNameFindings v taken name = []) : ∀ other ∈ taken, Text.lower other ≠ Text.lower name := by
  simpa only [entryNameFindings, forbid_eq_nil, List.any_eq_false, beq_iff_eq] using h

theorem ne_of_entryAliasFindings {place : Place} {v : Vlan} {taken aliases : List String}
    (h : entryAliasFindings place v taken aliases = []) :
    ∀ other ∈ taken, ∀ name ∈ aliases, Text.lower other ≠ Text.lower name := by
  induction aliases generalizing taken with
  | nil => simp
  | cons first rest ih =>
    simp only [entryAliasFindings, List.append_eq_nil_iff] at h
    intro other ho name hn
    rcases List.mem_cons.1 hn with rfl | hn
    · exact ne_of_entryNameFindings h.1.2 other ho
    · exact ih h.2 other (List.mem_append_left _ ho) name hn

theorem ne_of_entryFindings {place : Place} {v : Vlan} {taken aliases : List String}
    {hostname : String} (h : entryFindings place v taken hostname aliases = []) :
    ∀ other ∈ taken, ∀ name ∈ hostname :: aliases, Text.lower other ≠ Text.lower name := by
  simp only [entryFindings, List.append_eq_nil_iff] at h
  intro other ho name hn
  rcases List.mem_cons.1 hn with rfl | hn
  · exact ne_of_entryNameFindings h.1.2 other ho
  · exact ne_of_entryAliasFindings h.2 other (List.mem_append_left _ ho) name hn

theorem pairwise_of_entryAliasFindings {place : Place} {v : Vlan} {taken aliases : List String}
    (h : entryAliasFindings place v taken aliases = []) :
    aliases.Pairwise fun other name => Text.lower other ≠ Text.lower name := by
  induction aliases generalizing taken with
  | nil => exact List.Pairwise.nil
  | cons first rest ih =>
    simp only [entryAliasFindings, List.append_eq_nil_iff] at h
    refine List.pairwise_cons.2 ⟨?_, ih h.2⟩
    exact ne_of_entryAliasFindings h.2 first (List.mem_append_right _ (List.mem_singleton_self _))

theorem pairwise_of_entryFindings {place : Place} {v : Vlan} {taken aliases : List String}
    {hostname : String} (h : entryFindings place v taken hostname aliases = []) :
    (hostname :: aliases).Pairwise fun other name => Text.lower other ≠ Text.lower name := by
  simp only [entryFindings, List.append_eq_nil_iff] at h
  refine List.pairwise_cons.2 ⟨?_, pairwise_of_entryAliasFindings h.2⟩
  exact ne_of_entryAliasFindings h.2 hostname (List.mem_append_right _ (List.mem_singleton_self _))

theorem entryFindings_of_staticHost (h : s.findings = []) (hx : x ∈ s.vlans)
    {y : List StaticHost × StaticHost} (hy : y ∈ withEarlier x.2.staticHosts) :
    entryFindings (.staticHost x.2.name y.2.hostname) x.2 (y.1.flatMap (·.names)) y.2.hostname
      y.2.aliases = [] := by
  have hs := staticHostSteps_subset hx hy
  simp only [staticHostSteps, List.append_subset] at hs
  exact eq_nil_of_remarks_subset h hs.1.1

theorem entryFindings_of_reservation (h : s.findings = []) (hx : x ∈ s.vlans)
    {y : List Reservation × Reservation} (hy : y ∈ withEarlier x.2.reservations) :
    entryFindings (.reservation x.2.name y.2.hostname) x.2
      (x.2.staticHosts.flatMap (·.names) ++ y.1.flatMap (·.names)) y.2.hostname
      y.2.aliases = [] := by
  have hs := reservationSteps_subset hx hy
  simp only [reservationSteps, List.append_subset] at hs
  exact eq_nil_of_remarks_subset h hs.1.1.1

theorem exists_entryFindings_eq_nil (h : s.findings = []) (hx : x ∈ s.vlans) {e : Entry}
    (he : e ∈ x.2.entries) :
    ∃ place taken, entryFindings place x.2 taken e.hostname e.aliases = [] := by
  rcases List.mem_append.1 he with he | he
  · obtain ⟨host, hm, rfl⟩ := List.mem_map.1 he
    obtain ⟨before, hy⟩ := exists_mem_withEarlier hm
    have hf := entryFindings_of_staticHost h hx hy
    exact ⟨_, _, hf⟩
  · obtain ⟨res, hm, rfl⟩ := List.mem_map.1 he
    obtain ⟨before, hy⟩ := exists_mem_withEarlier hm
    have hf := entryFindings_of_reservation h hx hy
    exact ⟨_, _, hf⟩

/-- The declared entries of a vlan have no name in common. -/
theorem pairwise_entryNames (h : s.findings = []) (hx : x ∈ s.vlans) :
    x.2.entries.Pairwise fun e e' => ∀ other ∈ e.hostname :: e.aliases,
      ∀ name ∈ e'.hostname :: e'.aliases, Text.lower other ≠ Text.lower name := by
  refine List.pairwise_append.2 ⟨List.pairwise_map.2 ?_, List.pairwise_map.2 ?_, ?_⟩
  · refine pairwise_of_withEarlier fun y hy host hm other ho => ?_
    refine ne_of_entryFindings (entryFindings_of_staticHost h hx hy) other ?_
    exact List.mem_flatMap.2 ⟨host, hm, ho⟩
  · refine pairwise_of_withEarlier fun y hy res hm other ho => ?_
    refine ne_of_entryFindings (entryFindings_of_reservation h hx hy) other ?_
    exact List.mem_append_right _ (List.mem_flatMap.2 ⟨res, hm, ho⟩)
  · intro e he e' he' other ho
    obtain ⟨host, hm, rfl⟩ := List.mem_map.1 he
    obtain ⟨res, hm', rfl⟩ := List.mem_map.1 he'
    obtain ⟨before, hy⟩ := exists_mem_withEarlier hm'
    refine ne_of_entryFindings (entryFindings_of_reservation h hx hy) other ?_
    exact List.mem_append_left _ (List.mem_flatMap.2 ⟨host, hm, ho⟩)

theorem pairwise_hostnames (h : s.findings = []) (hx : x ∈ s.vlans) :
    x.2.entries.Pairwise fun e e' => Text.lower e.hostname ≠ Text.lower e'.hostname :=
  (pairwise_entryNames h hx).imp fun hne => hne _ List.mem_cons_self _ List.mem_cons_self

/-! ## Interfaces -/

theorem shapeFindings_of_mem (h : s.findings = []) {host : Host} (hh : host ∈ s.hosts)
    {name : String} {i : Interface} (hi : (name, i) ∈ host.namedInterfaces) :
    i.shapeFindings s (.interface host.hostname name) host = [] := by
  have hf := (findings_eq_nil.1 h).2.2.2.2.2.1
  simp only [interfaceFindings, List.flatMap_eq_nil_iff] at hf
  have hi' := hf host hh
  simp only [Host.interfaceFindings, List.flatMap_eq_nil_iff] at hi'
  obtain ⟨before, hy⟩ := exists_mem_withEarlier hi
  exact (List.append_eq_nil_iff.1 (hi' _ hy)).2

theorem mem_interfaces_of_namedInterfaces {host : Host} {name : String} {i : Interface}
    (h : (name, i) ∈ host.namedInterfaces) : i ∈ host.interfaces :=
  (List.of_mem_zip h).2

/-- The steps of an interface whose address lies in a subnet of its vlan are
    among those of the site. -/
theorem claimSteps_subset_of_interface {host : Host} (hh : host ∈ s.hosts) {i : Interface}
    (hi : i ∈ host.interfaces) (hu : i.isUplink = false) (hx : s.interfaceVlan? i = some x)
    (ha : a ∈ fixedAddresses i) (hin : (s.namesake x.2).holds a = true) :
    s.claimSteps x.2 a host.hostname ⊆ s.addressSteps := by
  intro step hm
  have hinner : step ∈ s.innerSteps x.2 host.hostname a := by rwa [innerSteps, if_pos hin]
  refine List.mem_append_right _ (List.mem_flatMap.2 ⟨host, hh, List.mem_flatMap.2 ⟨i, ?_, ?_⟩⟩)
  · exact List.mem_filter.2 ⟨hi, by simp [hu]⟩
  · rw [hx]
    exact List.mem_flatMap.2 ⟨a, ha, hinner⟩

/-- **The check places the addresses of interfaces on vlans.** -/
theorem placed_of_planDeclared (h : s.findings = []) {host : Host} (hh : host ∈ s.hosts)
    {outlines : List PlannedVlan} {i : PlannedInterface} (hi : i ∈ host.planDeclared s outlines)
    (hx : x ∈ s.vlans) (hv : i.vlan = some x.2.name) (ha : a ∈ i.fixedAddresses) :
    s.Placed x.2 a host.hostname := by
  obtain ⟨name, j, y, w, hj, hu, hy, -, rfl⟩ := Host.exists_of_planDeclared hi hv
  have hmem := mem_interfaces_of_namedInterfaces hj
  obtain rfl : y = x := eq_of_name_eq h (mem_vlans_of_interfaceVlan? hy) hx (Option.some.inj hv)
  obtain ⟨h4, h6⟩ := Interface.findings_of_shapeFindings (shapeFindings_of_mem h hh hj) hu hy
  obtain ⟨n, hs, -⟩ := exists_subnet4 h hx
  obtain ⟨hin, hfixed⟩ : (s.namesake y.2).holds a = true ∧ a ∈ fixedAddresses j := by
    rcases PlannedInterface.mem_fixedAddresses.1 ha with ⟨b, hb, rfl⟩ | ⟨b, hb, rfl⟩
    · obtain ⟨text, ht, hr⟩ := Interface.fixed?_ipv4On.1 hb
      rw [← namesake_eq h hx] at hs
      exact ⟨Interface.holds_of_vlan4Findings h4 hs hb, by simp [fixedAddresses, ht, hr]⟩
    · obtain ⟨-, -, text, ht, hr⟩ := Interface.fixed?_ipv6On.1 hb
      exact ⟨Interface.holds_of_vlan6Findings h6 hb, by simp [fixedAddresses, ht, hr]⟩
  have hsteps := claimSteps_subset_of_interface hh hmem hu hy hfixed hin
  rw [namesake_eq h hx] at hin
  exact placed_of_claimSteps h hx hsteps (Vlan.isSome_subnetText?_of_holds hin)

end Site

end NetworkSite
