/-
  What names find in a valid site.

  A vlan is found by its name, among the vlans of the site
  (`Site.lookupVlan?_name`) and among those of the plan (`Site.vlan?_planVlans`).
  On a vlan, the check asks the declared hosts for a name and the expansion of
  rules asks the entries of the plan.  Both know the same names but for one: the
  check takes the alias of the router for a name of any vlan on which the router
  is, while the plan only has it where there is a gateway
  (`Site.hostnameOf?_eq_none_iff`).
-/
import NetworkSite.Firewall.Expansion
import NetworkSite.Proofs.PlannedHosts

namespace NetworkSite

section

variable {α : Type} {items : List α} {a : α}

theorem find?_eq_some_of_unique {p : α → Bool} (ha : a ∈ items) (hp : p a = true)
    (hu : ∀ b ∈ items, p b = true → b = a) : items.find? p = some a := by
  obtain ⟨b, hb⟩ := Option.isSome_iff_exists.1 (List.find?_isSome.2 ⟨a, ha, hp⟩)
  rw [hb, hu b (List.mem_of_find?_eq_some hb) (List.find?_some hb)]

theorem eq_singleton_of_nodup (hn : items.Nodup) (ha : a ∈ items) (hu : ∀ b ∈ items, b = a) :
    items = [a] := by
  cases items with
  | nil => cases ha
  | cons b rest =>
    obtain rfl := hu b List.mem_cons_self
    rw [List.nodup_cons] at hn
    rw [List.eq_nil_iff_forall_not_mem.2 fun c hc =>
      hn.1 (hu c (List.mem_cons_of_mem _ hc) ▸ hc)]

theorem mem_eraseReps [BEq α] [LawfulBEq α] : a ∈ items.eraseReps ↔ a ∈ items := by
  have hloop : ∀ b : α, ∀ rest seen : List α,
      a ∈ List.eraseRepsBy.loop (· == ·) b rest seen ↔ a ∈ seen ∨ a = b ∨ a ∈ rest := by
    intro b rest
    induction rest generalizing b with
    | nil => simp [List.eraseRepsBy.loop, or_comm]
    | cons c rest ih =>
      intro seen
      unfold List.eraseRepsBy.loop
      split
      next he => simp [ih, eq_of_beq he]
      next => simp [ih, or_assoc, or_left_comm]
  cases items with
  | nil => exact Iff.rfl
  | cons b rest =>
    rw [List.mem_cons]
    exact (hloop b rest []).trans (or_iff_right List.not_mem_nil)

end

theorem PlannedVlan.mem_addressesOf {w : PlannedVlan} {hostname : String} {a : IpAddress} :
    a ∈ w.addressesOf hostname ↔ ∃ e ∈ w.entries, e.hostname = hostname ∧ a ∈ e.addresses := by
  simp only [addressesOf, mem_eraseReps, Entry.addresses, List.mem_append, List.mem_filterMap,
    List.mem_filter, beq_iff_eq, Option.mem_toList, and_assoc, and_or_left, exists_or]

theorem PlannedVlan.addressesOf_eq_nil {w : PlannedVlan} {hostname : String} :
    w.addressesOf hostname = [] ↔ ∀ e ∈ w.entries, e.hostname = hostname → e.addresses = [] := by
  simp only [List.eq_nil_iff_forall_not_mem, mem_addressesOf]
  constructor
  · exact fun hnone e he hn a ha => hnone a ⟨e, he, hn, ha⟩
  · rintro hall a ⟨e, he, hn, ha⟩
    exact hall e he hn a ha

namespace Site

variable {s : Site} {x y : Switch × Vlan} {w : PlannedVlan} {p : AddressPlan} {host : Host}
  {name : String} {e : Entry}

/-! ## Names of vlans -/

/-- What a reference finds is a vlan of the site that it names. -/
theorem mem_vlans_of_lookupVlan? {switch : Option String} {ref : VlanRef}
    (hl : s.lookupVlan? switch ref = some x) : x ∈ s.vlans ∧ x.2.isNamedBy ref = true := by
  have hfind : ∀ sw ∈ s.switches, (sw.findVlan? ref).map (sw, ·) = some x →
      x ∈ s.vlans ∧ x.2.isNamedBy ref = true := by
    intro sw hs hsome
    obtain ⟨v, hv, rfl⟩ := Option.map_eq_some_iff.1 hsome
    exact ⟨mem_vlans.2 ⟨hs, List.mem_of_find?_eq_some hv⟩,
      List.find?_some (p := fun w : Vlan => w.isNamedBy ref) hv⟩
  unfold lookupVlan? at hl
  split at hl
  next =>
    obtain ⟨sw, hs, hv⟩ := Option.bind_eq_some_iff.1 hl
    exact hfind sw (List.mem_of_find?_eq_some hs) hv
  next =>
    split at hl
    next found hf =>
      cases hl
      obtain ⟨sw, hs, hv⟩ := List.mem_filterMap.1 (hf ▸ List.mem_singleton_self x)
      exact hfind sw hs hv
    next => cases hl

/-- At most one vlan of each switch is found by a reference. -/
theorem filterMap_findVlan?_sublist (ref : VlanRef) (switches : List Switch) :
    (switches.filterMap fun sw => (sw.findVlan? ref).map (sw, ·)).Sublist
      (switches.flatMap fun sw => sw.vlans.map (sw, ·)) := by
  induction switches with
  | nil => exact List.Sublist.refl _
  | cons sw rest ih =>
    rw [List.flatMap_cons]
    cases hv : sw.findVlan? ref with
    | none =>
      rw [List.filterMap_cons_none (by rw [hv]; rfl)]
      exact ih.trans (List.sublist_append_right _ _)
    | some v =>
      rw [List.filterMap_cons_some (by rw [hv]; rfl)]
      have hm : (sw, v) ∈ sw.vlans.map (sw, ·) :=
        List.mem_map_of_mem (List.mem_of_find?_eq_some hv)
      exact (List.singleton_sublist.2 hm).append ih

/-- **The name of a vlan finds it**, since no other one has the name in whatever
    case. -/
theorem lookupVlan?_name (h : s.findings = []) (hx : x ∈ s.vlans) :
    s.lookupVlan? none (.name x.2.name) = some x := by
  have hnodup : s.vlans.Nodup := by
    have hn := List.pairwise_map.1 (nodup_names h)
    exact (List.pairwise_map.1 hn).imp fun hne he => hne (by rw [he])
  have hfound : (s.switches.filterMap fun sw =>
      (sw.findVlan? (.name x.2.name)).map (sw, ·)) = [x] := by
    have hnamed : ∀ y ∈ s.switches.filterMap fun sw =>
        (sw.findVlan? (.name x.2.name)).map (sw, ·), y = x := by
      intro y hy
      obtain ⟨sw, hs, hsome⟩ := List.mem_filterMap.1 hy
      obtain ⟨v, hv, rfl⟩ := Option.map_eq_some_iff.1 hsome
      exact eq_of_sameIgnoringCase h (mem_vlans.2 ⟨hs, List.mem_of_find?_eq_some hv⟩) hx
        (List.find?_some (p := fun w : Vlan => w.isNamedBy (.name x.2.name)) hv)
    refine eq_singleton_of_nodup ((filterMap_findVlan?_sublist _ _).nodup hnodup) ?_ hnamed
    obtain ⟨hs, hv⟩ := mem_vlans.1 hx
    have hsome : (x.1.findVlan? (.name x.2.name)).isSome = true :=
      List.find?_isSome.2 ⟨x.2, hv, Text.sameIgnoringCase_refl _⟩
    obtain ⟨v, hv⟩ := Option.isSome_iff_exists.1 hsome
    have hmem : (x.1, v) ∈ s.switches.filterMap fun sw =>
        (sw.findVlan? (.name x.2.name)).map (sw, ·) :=
      List.mem_filterMap.2 ⟨x.1, hs, by rw [hv]; rfl⟩
    rwa [hnamed _ hmem] at hmem
  rw [lookupVlan?, hfound]

theorem name_completeVlan (hw : s.vlanOutline? s.effectiveDelegation x.1 x.2 = some w) :
    (s.completeVlan s.outlines s.claims w).name = x.2.name := by
  rw [← name_of_vlanOutline? hw]
  rfl

theorem vlan?_planVlans (h : s.findings = []) (hp : p.vlans = s.planVlans) (hx : x ∈ s.vlans)
    (hw : s.vlanOutline? s.effectiveDelegation x.1 x.2 = some w) :
    p.vlan? x.2.name = some (s.completeVlan s.outlines s.claims w) := by
  rw [AddressPlan.vlan?, hp]
  refine find?_eq_some_of_unique ?_ ?_ fun w' hw' hn => ?_
  · exact completeVlan_mem_planVlans h hx hw
  · rw [name_completeVlan hw]
    exact Text.sameIgnoringCase_refl _
  · obtain ⟨y, hy, v, hv, rfl⟩ := exists_of_mem_planVlans h hw'
    rw [name_completeVlan hv] at hn
    obtain rfl := eq_of_sameIgnoringCase h hy hx hn
    rw [Option.some.inj (hv.symm.trans hw)]

theorem isReservedName_of_lookupVlan? (h : s.findings = []) {switch : Option String}
    (hx : s.lookupVlan? switch (.name name) = some x) : Vlan.isReservedName name = false := by
  obtain ⟨hmem, hnamed⟩ := mem_vlans_of_lookupVlan? hx
  have hname := Text.sameIgnoringCase_iff.1 hnamed
  have hr := isReservedName_eq_false h hmem
  simp only [Vlan.isReservedName, Text.sameIgnoringCase, hname] at hr ⊢
  exact hr

theorem scope_of_lookupVlan? (h : s.findings = []) {switch : Option String} {ref : VlanRef}
    (hx : s.lookupVlan? switch ref = some x) {l : Locator} (hl : l.vlan = ref) :
    l.scope = .vlan ref := by
  cases ref with
  | id n => rw [Locator.scope, hl]
  | name name =>
    have hr := isReservedName_of_lookupVlan? h hx
    simp only [Vlan.isReservedName, List.any_cons, List.any_nil, Bool.or_false,
      Bool.or_eq_false_iff] at hr
    obtain ⟨hall, hinternet, hfirewall⟩ := hr
    rw [Text.sameIgnoringCase_comm] at hall hinternet hfirewall
    simp [Locator.scope, hl, hall, hinternet, hfirewall]

theorem scope_eq_vlan (h : s.findings = []) (hx : x ∈ s.vlans) {l : Locator}
    (hl : l.vlan = .name x.2.name) : l.scope = .vlan (.name x.2.name) :=
  scope_of_lookupVlan? h (lookupVlan?_name h hx) hl

/-! ## Names on vlans -/

/-- The check knows a name on a vlan if it is that of a declared entry or of a
    host there. -/
theorem hasNameOn_iff {v : Vlan} :
    s.hasNameOn v name = true ↔ (∃ e ∈ v.entries, e.answersTo name = true) ∨
      ∃ host ∈ s.hosts, host.answersTo name = true ∧ host.isOn s v = true := by
  rw [← List.any_eq_true, Vlan.entries, List.any_append, List.any_map, List.any_map, hasNameOn,
    Bool.or_eq_true, List.any_eq_true (l := s.hosts)]
  simp only [Bool.and_eq_true]
  rfl

/-- The name is the alias of the router and nothing else on a vlan without
    gateway. -/
def OnlyRouterAlias (s : Site) (v : Vlan) (name : String) : Prop :=
  v.routable = false ∧ Text.sameIgnoringCase routerAlias name = true ∧
    (∀ e ∈ v.entries, e.answersTo name = false) ∧
    ∀ host ∈ s.hosts, host.isOn s v = true → host.isCalled name = false

/-- The plan knows a name on a vlan if it is that of an entry or of a host
    there. -/
theorem hostnameOf?_eq_none (h : s.findings = []) (hp : p.hosts = s.planHosts) (hx : x ∈ s.vlans)
    (hw : w.name = x.2.name) :
    w.hostnameOf? s p name = none ↔ (∀ e ∈ w.entries, e.answersTo name = false) ∧
      ∀ host ∈ s.hosts, host.isOn s x.2 = true → host.isCalled name = false := by
  have hhosts : ∀ host, (∃ g ∈ p.hosts, g.isOn w.name = true ∧ s.findHost? g.hostname = some host) ↔
      host ∈ s.hosts ∧ host.isOn s x.2 = true := by
    intro host
    rw [hp, hw]
    constructor
    · rintro ⟨g, hg, hon, hf⟩
      obtain ⟨host', hh, rfl⟩ := List.mem_map.1 hg
      obtain rfl : host' = host := Option.some.inj ((findHost?_eq h hh).symm.trans hf)
      exact ⟨hh, by rwa [isOn_planHost h hh hx] at hon⟩
    · rintro ⟨hh, hon⟩
      refine ⟨_, List.mem_map_of_mem hh, ?_, findHost?_eq h hh⟩
      rwa [isOn_planHost h hh hx]
  unfold PlannedVlan.hostnameOf?
  split
  next e he =>
    refine iff_of_false nofun fun hall => ?_
    have hno := hall.1 e (List.mem_of_find?_eq_some he)
    rw [List.find?_some he] at hno
    cases hno
  next he =>
    have hnone : ∀ e ∈ w.entries, e.answersTo name = false := by simpa using he
    simp only [Option.map_eq_none_iff, List.find?_eq_none, List.mem_filterMap, List.mem_filter,
      Bool.not_eq_true, and_assoc, hhosts, and_imp]
    exact ⟨fun hall => ⟨hnone, hall⟩, fun hall => hall.2⟩

/-- **The check and the plan know the same names on a vlan**, except that the
    plan does not know the alias of the router on a vlan without gateway. -/
theorem hostnameOf?_eq_none_iff (h : s.findings = []) (hp : p.hosts = s.planHosts)
    (hx : x ∈ s.vlans) (hw : s.vlanOutline? s.effectiveDelegation x.1 x.2 = some w)
    (hn : s.hasNameOn x.2 name = true) :
    (s.completeVlan s.outlines s.claims w).hostnameOf? s p name = none ↔
      s.OnlyRouterAlias x.2 name := by
  rw [hostnameOf?_eq_none h hp hx (name_completeVlan hw)]
  constructor
  · rintro ⟨hentries, hhosts⟩
    have hdeclared : ∀ e ∈ x.2.entries, e.answersTo name = false := fun e he =>
      hentries e ((mem_entries_completeVlan hw).2 (.inr (.inl he)))
    rcases hasNameOn_iff.1 hn with ⟨e, he, ha⟩ | ⟨host, hh, ha, hon⟩
    · rw [hdeclared e he] at ha
      cases ha
    · -- Only the alias of the router is left, and with a gateway it has an entry.
      have hcalled := hhosts host hh hon
      unfold Host.isCalled at hcalled
      rw [Host.answersTo, hcalled, Bool.false_or, Bool.and_eq_true] at ha
      obtain ⟨hrole, halias⟩ := ha
      refine ⟨?_, halias, hdeclared, hhosts⟩
      cases hroutable : x.2.routable with
      | false => rfl
      | true =>
        obtain ⟨router, hr⟩ := exists_router? hh hrole
        have hgate := hentries (router.gatewayEntry w.gateway4 w.gateway6)
          ((mem_entries_completeVlan hw).2 (.inl ⟨hroutable, router, hr, rfl⟩))
        simp [Entry.answersTo, Host.gatewayEntry, halias] at hgate
  · rintro ⟨hroutable, -, hdeclared, hhosts⟩
    refine ⟨fun e he => ?_, hhosts⟩
    rcases (mem_entries_completeVlan hw).1 he with
      ⟨hr, -⟩ | he | ⟨host, hh, i, hi, hv, he⟩
    · rw [hroutable] at hr
      cases hr
    · exact hdeclared e he
    · rw [name_of_vlanOutline? hw] at hv
      have hcalled := hhosts host hh (isOn_of_planDeclared h hh hx hi hv)
      obtain ⟨he, ha⟩ := PlannedVlan.names_of_interfaceEntry? he
      simp only [Host.isCalled, Bool.or_eq_false_iff] at hcalled
      simp [Entry.answersTo, he, ha, hcalled.1]

end Site

end NetworkSite
