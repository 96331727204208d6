/-
  Hosts by their names.

  A hostname in a rule stands for the first entry of the vlan that answers to it, by
  its own name or by an alias.  The entry of the gateway is asked first, then the
  declared ones, then those of hosts.  So a host with a fixed address on a vlan is
  meant by its hostname unless somebody else answers before it
  (`Host.IsForestalled`), which the check does not rule out: it compares the names of
  declared entries with one another only.  The addresses are those that entries of
  the vlan have (`Site.named_host`, `Site.shared_names`).
-/
import NetworkSite.Proofs.ImpliedRules
import NetworkSite.Proofs.PublishedAddresses

namespace NetworkSite

theorem eq_of_mem_withEarlier {α : Type} {items before earlier : List α} {a : α} (hn : items.Nodup)
    (hb : (before, a) ∈ withEarlier items) (he : (earlier, a) ∈ withEarlier items) :
    before = earlier := by
  rw [← map_snd_withEarlier items] at hn
  exact congrArg Prod.fst (List.inj_on_of_nodup_map hn hb he rfl)

theorem Entry.answersTo_iff {e : Entry} {name : String} : e.answersTo name = true ↔
    ∃ own ∈ e.hostname :: e.aliases, Text.sameIgnoringCase own name = true := by
  rw [answersTo, Bool.or_eq_true, List.any_eq_true, List.exists_mem_cons_iff]

theorem Entry.answersTo_of_eq {e : Entry} {name : String} (h : e.hostname = name) :
    e.answersTo name = true :=
  answersTo_iff.2 ⟨e.hostname, List.mem_cons_self, h ▸ Text.sameIgnoringCase_refl _⟩

/-! ## Who answers to a name -/

/-- The host has a fixed address on the vlan with this name, on an interface that it
    declares. -/
def Host.HasFixedOn (s : Site) (host : Host) (vlan : String) : Prop :=
  ∃ i ∈ host.planDeclared s s.outlines, i.vlan = some vlan ∧ i.fixedAddresses ≠ []

/-- The host owns the gateway addresses of the vlan. -/
def Host.OwnsGateway (s : Site) (x : Switch × Vlan) (host : Host) : Prop :=
  x.2.routable = true ∧ s.isRouter host = true

/-- Somebody else answers to the name of the host on the vlan before it does. -/
inductive Host.IsForestalled (s : Site) (x : Switch × Vlan) (host : Host) : Prop
  | gateway {router : Host} (hr : x.2.routable = true) (hrouter : s.router? = some router)
      (hne : router.hostname ≠ host.hostname)
      (hname : Text.sameIgnoringCase router.hostname host.hostname = true ∨
        Text.sameIgnoringCase Site.routerAlias host.hostname = true) : IsForestalled s x host
  | entry {e : Entry} (hg : ¬host.OwnsGateway s x) (he : e ∈ x.2.entries)
      (hne : e.hostname ≠ host.hostname) (hname : e.answersTo host.hostname = true) :
      IsForestalled s x host
  | host {before : List Host} {g : Host} (hg : ¬host.OwnsGateway s x)
      (he : ∀ e ∈ x.2.entries, e.hostname ≠ host.hostname)
      (hb : (before, host) ∈ withEarlier s.hosts) (hmem : g ∈ before)
      (hname : Text.sameIgnoringCase g.hostname host.hostname = true)
      (hfixed : g.HasFixedOn s x.2.name) : IsForestalled s x host

namespace Site

/-- The entry of the gateway of a vlan. -/
def gatewayOn? (s : Site) (v : Vlan) (w : PlannedVlan) : Option Entry :=
  if v.routable then s.router?.map (·.gatewayEntry w.gateway4 w.gateway6) else none

/-- The gateway of the vlan goes by this name. -/
def GatewayAnswers (s : Site) (v : Vlan) (w : PlannedVlan) (name : String) : Prop :=
  ∃ e, s.gatewayOn? v w = some e ∧ e.answersTo name = true

/-- The first entry of a vlan that answers to a name, and who comes before it. -/
inductive AnswersFirst (s : Site) (x : Switch × Vlan) (w : PlannedVlan) (name : String)
    (e : Entry) : Prop
  | gateway (he : s.gatewayOn? x.2 w = some e) (ha : e.answersTo name = true) :
      AnswersFirst s x w name e
  | declared (hg : ¬s.GatewayAnswers x.2 w name) (he : e ∈ x.2.entries)
      (ha : e.answersTo name = true) : AnswersFirst s x w name e
  | host {before : List Host} {g : Host} (hg : ¬s.GatewayAnswers x.2 w name)
      (hd : ∀ e ∈ x.2.entries, e.answersTo name = false) (hb : (before, g) ∈ withEarlier s.hosts)
      (hnone : ∀ g ∈ before, ∀ e ∈ s.hostEntries s.outlines w g, e.answersTo name = false)
      (he : e ∈ s.hostEntries s.outlines w g) (ha : e.answersTo name = true) :
      AnswersFirst s x w name e

variable {s : Site} {p : AddressPlan} {x : Switch × Vlan} {w : PlannedVlan} {host g : Host}
  {name : String} {e : Entry}

theorem gatewayOn?_eq_some {v : Vlan} : s.gatewayOn? v w = some e ↔
    v.routable = true ∧ ∃ router, s.router? = some router ∧
      router.gatewayEntry w.gateway4 w.gateway6 = e := by
  rw [gatewayOn?, Option.ite_none_right_eq_some, Option.map_eq_some_iff]

/-- The gateway of a routable vlan goes by the hostname of the router and by the
    name of its role. -/
theorem gatewayAnswers_iff {v : Vlan} : s.GatewayAnswers v w name ↔ v.routable = true ∧
    ∃ router, s.router? = some router ∧ (Text.sameIgnoringCase router.hostname name = true ∨
      Text.sameIgnoringCase routerAlias name = true) := by
  simp [GatewayAnswers, gatewayOn?_eq_some, Entry.answersTo, Host.gatewayEntry, and_assoc]

theorem entries_completeVlan (hw : s.vlanOutline? s.effectiveDelegation x.1 x.2 = some w) :
    (s.completeVlan s.outlines s.claims w).entries = (s.gatewayOn? x.2 w).toList ++
      (x.2.entries ++ s.hosts.flatMap (s.hostEntries s.outlines w)) := by
  have hgate : w.entries = (s.gatewayOn? x.2 w).toList ++ x.2.entries := by
    obtain ⟨n, -, rfl⟩ := vlanOutline?_eq_some.1 hw
    rw [outlineOn, gatewayOn?]
    split <;> cases s.router? <;> rfl
  rw [completeVlan, hgate, List.append_assoc]

theorem find?_entries (hw : s.vlanOutline? s.effectiveDelegation x.1 x.2 = some w)
    (q : Entry → Bool) : (s.completeVlan s.outlines s.claims w).entries.find? q =
      ((s.gatewayOn? x.2 w).filter q).or ((x.2.entries.find? q).or
        (s.hosts.findSome? fun g => (s.hostEntries s.outlines w g).find? q)) := by
  rw [entries_completeVlan hw, List.find?_append, List.find?_append, List.find?_flatMap]
  cases s.gatewayOn? x.2 w <;> simp [Option.filter]

theorem answersFirst_of_find? (hw : s.vlanOutline? s.effectiveDelegation x.1 x.2 = some w)
    (he : (s.completeVlan s.outlines s.claims w).entries.find? (·.answersTo name) = some e) :
    s.AnswersFirst x w name e := by
  rw [find?_entries hw, Option.or_eq_some_iff, Option.or_eq_some_iff] at he
  rcases he with he | ⟨hnone, he⟩
  · obtain ⟨he, ha⟩ := Option.filter_eq_some_iff.1 he
    exact .gateway he ha
  · have hg : ¬s.GatewayAnswers x.2 w name := by
      rintro ⟨g, hg, ha⟩
      exact Option.filter_eq_none_iff.1 hnone g hg ha
    rcases he with he | ⟨hd, he⟩
    · have ha := List.find?_some (p := fun d : Entry => d.answersTo name) he
      exact .declared hg (List.mem_of_find?_eq_some he) ha
    · obtain ⟨before, g, back, hhosts, he, hnone⟩ := List.findSome?_eq_some_iff.1 he
      refine .host hg (fun d hd' => ?_) (mem_withEarlier.2 ⟨back, hhosts⟩) (fun g hg d hd' => ?_)
        (List.mem_of_find?_eq_some he)
        (List.find?_some (p := fun d : Entry => d.answersTo name) he)
      · exact Bool.eq_false_iff.2 (List.find?_eq_none.1 hd d hd')
      · exact Bool.eq_false_iff.2 (List.find?_eq_none.1 (hnone g hg) d hd')

/-- Of the declared entries of a vlan one at most answers to a name. -/
theorem eq_of_answersTo (h : s.findings = []) (hx : x ∈ s.vlans) {d : Entry} (he : e ∈ x.2.entries)
    (hd : d ∈ x.2.entries) (ha : e.answersTo name = true) (ha' : d.answersTo name = true) :
    e = d := by
  have hone : x.2.entries.Pairwise fun e d =>
      ¬(e.answersTo name = true ∧ d.answersTo name = true) := by
    refine (pairwise_entryNames h hx).imp ?_
    rintro e d hapart ⟨ha, ha'⟩
    obtain ⟨own, hown, hn⟩ := Entry.answersTo_iff.1 ha
    obtain ⟨other, hother, hn'⟩ := Entry.answersTo_iff.1 ha'
    exact hapart own hown other hother ((Text.lower_eq_of_sameIgnoringCase hn).trans
      (Text.lower_eq_of_sameIgnoringCase hn').symm)
  refine List.Pairwise.forall_of_forall_of_flip
    (R := fun e d => e.answersTo name = true → d.answersTo name = true → e = d)
    (fun _ _ _ _ => rfl) ?_ ?_ he hd ha ha'
  · exact hone.imp fun hne ha ha' => absurd ⟨ha, ha'⟩ hne
  · exact hone.imp fun hne ha ha' => absurd ⟨ha', ha⟩ hne

/-! ## Entries of a host -/

theorem ownsGateway_iff :
    host.OwnsGateway s x ↔ ∃ e, s.gatewayOn? x.2 w = some e ∧ e.hostname = host.hostname := by
  unfold Host.OwnsGateway gatewayOn? isRouter
  by_cases hr : x.2.routable = true
  · cases s.router? <;> simp [hr, Host.gatewayEntry]
  · simp [hr]

theorem not_ownsGateway (hg : ¬s.GatewayAnswers x.2 w name)
    (hn : Text.sameIgnoringCase host.hostname name = true) : ¬host.OwnsGateway s x := by
  intro howns
  obtain ⟨e, he, hsame⟩ := (ownsGateway_iff (w := w)).1 howns
  exact hg ⟨e, he, Entry.answersTo_iff.2 ⟨_, List.mem_cons_self, hsame ▸ hn⟩⟩

theorem hostname_of_mem_hostEntries (he : e ∈ s.hostEntries s.outlines w host) :
    e.hostname = host.hostname := by
  obtain ⟨i, -, -, he⟩ := mem_hostEntries.1 he
  exact (PlannedVlan.names_of_interfaceEntry? he).1

theorem answersTo_of_mem_hostEntries (he : e ∈ s.hostEntries s.outlines w host) :
    e.answersTo name = Text.sameIgnoringCase host.hostname name := by
  obtain ⟨i, -, -, he⟩ := mem_hostEntries.1 he
  obtain ⟨hname, haliases⟩ := PlannedVlan.names_of_interfaceEntry? he
  simp [Entry.answersTo, hname, haliases]

/-- A host with fixed addresses on a vlan has an entry there, unless it owns the
    gateway. -/
theorem exists_mem_hostEntries (hw : s.vlanOutline? s.effectiveDelegation x.1 x.2 = some w)
    (hg : ¬host.OwnsGateway s x) (hf : host.HasFixedOn s x.2.name) :
    ∃ e, e ∈ s.hostEntries s.outlines w host := by
  obtain ⟨i, hi, hv, hne⟩ := hf
  obtain ⟨a, ha⟩ := List.exists_mem_of_ne_nil _ hne
  rw [← name_of_vlanOutline? hw] at hv
  rcases PlannedInterface.exists_interfaceEntry_or w (s.isRouter host) host.hostname ha with
    ⟨e, he⟩ | ⟨hr, b, hb, -⟩
  · exact ⟨e, mem_hostEntries.2 ⟨i, hi, hv, he⟩⟩
  · exact absurd ⟨((gateway4_eq_some hw).1 hb).1, hr⟩ hg

theorem hasFixedOn_of_mem_hostEntries
    (hw : s.vlanOutline? s.effectiveDelegation x.1 x.2 = some w)
    (he : e ∈ s.hostEntries s.outlines w host) : host.HasFixedOn s x.2.name := by
  obtain ⟨i, hi, hv, he⟩ := mem_hostEntries.1 he
  rw [name_of_vlanOutline? hw] at hv
  exact ⟨i, hi, hv, PlannedVlan.fixedAddresses_ne_nil_of_interfaceEntry? he⟩

/-! ## The first one that answers -/

/-- A host whose entry is the first to answer forestalls those behind it. -/
theorem isForestalled_of_host (hw : s.vlanOutline? s.effectiveDelegation x.1 x.2 = some w)
    (hh : host ∈ s.hosts) (hf : host.HasFixedOn s x.2.name)
    (hg : ¬s.GatewayAnswers x.2 w host.hostname)
    (hd : ∀ e ∈ x.2.entries, e.answersTo host.hostname = false) {before : List Host}
    (hb : (before, g) ∈ withEarlier s.hosts)
    (hnone : ∀ g ∈ before, ∀ e ∈ s.hostEntries s.outlines w g, e.answersTo host.hostname = false)
    (he : e ∈ s.hostEntries s.outlines w g) (ha : e.answersTo host.hostname = true)
    (hne : g ≠ host) : host.IsForestalled s x := by
  have hself := Text.sameIgnoringCase_refl host.hostname
  have howns := not_ownsGateway hg hself
  obtain ⟨back, hhosts⟩ := mem_withEarlier.1 hb
  have hback : host ∈ back := by
    rw [hhosts, List.mem_append, List.mem_cons] at hh
    rcases hh with hh | rfl | hh
    · obtain ⟨d, hd⟩ := exists_mem_hostEntries hw howns hf
      have hno := hnone host hh d hd
      rw [answersTo_of_mem_hostEntries hd, hself] at hno
      cases hno
    · exact absurd rfl hne
    · exact hh
  obtain ⟨middle, rest, rfl⟩ := List.append_of_mem hback
  have hfront : (before ++ g :: middle, host) ∈ withEarlier s.hosts :=
    mem_withEarlier.2 ⟨rest, by simp [hhosts]⟩
  refine .host howns (fun d hd' hsame => ?_) hfront (by simp)
    ((answersTo_of_mem_hostEntries he).symm.trans ha) (hasFixedOn_of_mem_hostEntries hw he)
  have hno := hd d hd'
  rw [Entry.answersTo_of_eq hsame] at hno
  cases hno

theorem isForestalled_of_answersFirst (hw : s.vlanOutline? s.effectiveDelegation x.1 x.2 = some w)
    (hh : host ∈ s.hosts) (hf : host.HasFixedOn s x.2.name)
    (he : s.AnswersFirst x w host.hostname e) (hne : e.hostname ≠ host.hostname) :
    host.IsForestalled s x := by
  cases he with
  | gateway he ha =>
    obtain ⟨hr, router, hrouter, rfl⟩ := gatewayOn?_eq_some.1 he
    refine .gateway hr hrouter hne ?_
    simpa [Entry.answersTo, Host.gatewayEntry] using ha
  | declared hg he ha =>
    exact .entry (not_ownsGateway hg (Text.sameIgnoringCase_refl _)) he hne ha
  | host hg hd hb hnone he ha =>
    refine isForestalled_of_host hw hh hf hg hd hb hnone he ha ?_
    rintro rfl
    exact hne (hostname_of_mem_hostEntries he)

theorem AnswersFirst.eq_gateway {d : Entry} (he : s.AnswersFirst x w name e)
    (hd : s.gatewayOn? x.2 w = some d) (ha : d.answersTo name = true) : e = d := by
  cases he with
  | gateway he => exact Option.some.inj (he.symm.trans hd)
  | declared hg => exact absurd ⟨d, hd, ha⟩ hg
  | host hg => exact absurd ⟨d, hd, ha⟩ hg

theorem AnswersFirst.eq_declared (h : s.findings = []) (hx : x ∈ s.vlans)
    (he : s.AnswersFirst x w name e) (hg : s.gatewayOn? x.2 w ≠ some e) {d : Entry}
    (hd : d ∈ x.2.entries) (ha : d.answersTo name = true) : e = d := by
  cases he with
  | gateway he => exact absurd he hg
  | declared _ he ha' => exact eq_of_answersTo h hx he hd ha' ha
  | host _ hnone =>
    rw [hnone d hd] at ha
    cases ha

/-- If the entry of a host answers first, earlier hosts with this name have no fixed
    address on the vlan. -/
theorem AnswersFirst.not_hasFixedOn (h : s.findings = [])
    (hw : s.vlanOutline? s.effectiveDelegation x.1 x.2 = some w) (hh : host ∈ s.hosts)
    (he : s.AnswersFirst x w name e) (hg : s.gatewayOn? x.2 w ≠ some e) (hd : e ∉ x.2.entries)
    (hsame : e.hostname = host.hostname) {before : List Host}
    (hb : (before, host) ∈ withEarlier s.hosts) (hmem : g ∈ before)
    (hname : Text.sameIgnoringCase g.hostname name = true) : ¬g.HasFixedOn s x.2.name := by
  intro hfixed
  cases he with
  | gateway he => exact absurd he hg
  | declared _ he => exact absurd he hd
  | @host earlier k hanswers _ hearlier hnone he =>
    obtain ⟨back, hhosts⟩ := mem_withEarlier.1 hearlier
    have hk : k ∈ s.hosts := hhosts ▸ List.mem_append_right _ List.mem_cons_self
    obtain rfl : k = host :=
      eq_of_key_eq (nodup_hostnames h) hk hh ((hostname_of_mem_hostEntries he).symm.trans hsame)
    obtain rfl := eq_of_mem_withEarlier ((nodup_hostnames h).of_map _) hb hearlier
    obtain ⟨d, hd⟩ := exists_mem_hostEntries hw (not_ownsGateway hanswers hname) hfixed
    have hno := hnone g hmem d hd
    rw [answersTo_of_mem_hostEntries hd, hname] at hno
    cases hno

theorem ne_of_isForestalled (h : s.findings = []) (hx : x ∈ s.vlans)
    (hw : s.vlanOutline? s.effectiveDelegation x.1 x.2 = some w) (hh : host ∈ s.hosts)
    (he : s.AnswersFirst x w host.hostname e) (hfor : host.IsForestalled s x) :
    e.hostname ≠ host.hostname := by
  intro hsame
  have hgate (hg : ¬host.OwnsGateway s x) : s.gatewayOn? x.2 w ≠ some e :=
    fun he => hg (ownsGateway_iff.2 ⟨e, he, hsame⟩)
  cases hfor with
  | @gateway router hr hrouter hne hname =>
    obtain rfl := he.eq_gateway (gatewayOn?_eq_some.2 ⟨hr, router, hrouter, rfl⟩)
      (by simpa [Entry.answersTo, Host.gatewayEntry] using hname)
    exact hne hsame
  | entry hg hd hne hname =>
    obtain rfl := he.eq_declared h hx (hgate hg) hd hname
    exact hne hsame
  | host hg hd hb hmem hname hfixed =>
    exact he.not_hasFixedOn h hw hh (hgate hg) (fun hin => hd e hin hsame) hsame hb hmem hname
      hfixed

/-- **The hostname of a host finds somebody else** exactly if the host is
    forestalled. -/
theorem hostname_ne_iff (h : s.findings = []) (hx : x ∈ s.vlans)
    (hw : s.vlanOutline? s.effectiveDelegation x.1 x.2 = some w) (hh : host ∈ s.hosts)
    (hf : host.HasFixedOn s x.2.name) (he : s.AnswersFirst x w host.hostname e) :
    e.hostname ≠ host.hostname ↔ host.IsForestalled s x :=
  ⟨isForestalled_of_answersFirst hw hh hf he, ne_of_isForestalled h hx hw hh he⟩

/-! ## Endpoints -/

/-- A host with a fixed address on a vlan has an entry with addresses: that of its
    interface or, for the router, that of the gateway. -/
theorem exists_entry_of_hasFixedOn (hw : s.vlanOutline? s.effectiveDelegation x.1 x.2 = some w)
    (hh : host ∈ s.hosts) (hf : host.HasFixedOn s x.2.name) :
    ∃ e ∈ (s.completeVlan s.outlines s.claims w).entries,
      e.hostname = host.hostname ∧ e.addresses ≠ [] := by
  obtain ⟨i, hi, hv, hne⟩ := hf
  obtain ⟨a, ha⟩ := List.exists_mem_of_ne_nil _ hne
  rw [← name_of_vlanOutline? hw] at hv
  rcases PlannedInterface.exists_interfaceEntry_or w (s.isRouter host) host.hostname ha with
    ⟨e, he⟩ | ⟨hr, b, hb, -⟩
  · obtain ⟨hname, -, haddresses⟩ := PlannedVlan.addresses_of_interfaceEntry? he
    refine ⟨e, (mem_entries_completeVlan hw).2 (.inr (.inr ⟨host, hh, i, hi, hv, he⟩)), hname, ?_⟩
    rwa [haddresses]
  · obtain ⟨router, hrouter, hname⟩ := (Option.any_eq_true _ _).1 hr
    have hroutable := ((gateway4_eq_some hw).1 hb).1
    refine ⟨_, (mem_entries_completeVlan hw).2 (.inl ⟨hroutable, router, hrouter, rfl⟩),
      beq_iff_eq.1 hname, List.ne_nil_of_mem (a := .v4 b) ?_⟩
    exact Entry.mem_addresses.2 (.inl ⟨b, hb, rfl⟩)

/-- A host has those of its addresses on a vlan that some entry has. -/
theorem mem_addressesOf_iff_entry (h : s.findings = []) (hx : x ∈ s.vlans)
    (hw : s.vlanOutline? s.effectiveDelegation x.1 x.2 = some w) {a : IpAddress}
    (hc : s.Claims a name) : a ∈ (s.completeVlan s.outlines s.claims w).addressesOf name ↔
      ∃ e ∈ (s.completeVlan s.outlines s.claims w).entries, a ∈ e.addresses := by
  rw [PlannedVlan.mem_addressesOf]
  constructor
  · rintro ⟨e, he, -, ha⟩
    exact ⟨e, he, ha⟩
  · rintro ⟨e, he, ha⟩
    have hname := claims_unique (claimErrors_eq_nil h) (claims_of_mem_entries hx hw he ha) hc
    exact ⟨e, he, hname, ha⟩

/-- The hostname of a host leads to the host itself, with these addresses. -/
def LeadsToHost (s : Site) (p : AddressPlan) (x : Switch × Vlan) (host : Host)
    (addresses : List IpAddress) : Prop :=
  (Locator.ofHost x.2.name host.hostname).endpoints s p =
    .ok [{ endpoint := .host x.2.name host.hostname addresses }]

theorem leadsToHost_iff (h : s.findings = []) (hv : p.vlans = s.planVlans) (hx : x ∈ s.vlans)
    (hw : s.vlanOutline? s.effectiveDelegation x.1 x.2 = some w)
    (he : (s.completeVlan s.outlines s.claims w).entries.find? (·.answersTo host.hostname) = some e)
    {addresses : List IpAddress} : s.LeadsToHost p x host addresses ↔
      e.hostname = host.hostname ∧ addresses ≠ [] ∧
        (s.completeVlan s.outlines s.claims w).addressesOf host.hostname = addresses := by
  have hsome : (s.completeVlan s.outlines s.claims w).hostnameOf? s p host.hostname =
      some e.hostname := by
    rw [PlannedVlan.hostnameOf?, he]
  rw [LeadsToHost, endpoints_ofHost h hv hx hw, Locator.hostEndpoints, hsome, name_completeVlan hw]
  dsimp only
  split
  next hnil =>
    refine iff_of_false (by simp) ?_
    rintro ⟨hsame, hne, rfl⟩
    exact hne (hsame ▸ hnil)
  next hne =>
    simp only [Except.ok.injEq, List.cons.injEq, SideEndpoint.mk.injEq, Endpoint.host.injEq,
      true_and, and_true]
    constructor
    · rintro ⟨hsame, rfl⟩
      exact ⟨hsame, hne, by rw [hsame]⟩
    · rintro ⟨hsame, -, rfl⟩
      exact ⟨hsame, by rw [hsame]⟩

/-- **A hostname means the host** that has it, if this one has a fixed address on the
    vlan, unless the host is forestalled.  The fixed addresses of the host are then
    those that entries of the vlan have; only an address beside the IPv4 gateway may
    be missing. -/
theorem named_host (h : s.findings = []) (hp : s.addressPlan = .ok p) (hx : x ∈ s.vlans)
    (hh : host ∈ s.hosts) (hf : host.HasFixedOn s x.2.name) : ∃ w ∈ p.vlans, w.name = x.2.name ∧
      ((∃ addresses, s.LeadsToHost p x host addresses) ↔ ¬host.IsForestalled s x) ∧
      ∀ addresses, s.LeadsToHost p x host addresses →
        ∀ i ∈ host.planDeclared s s.outlines, i.vlan = some x.2.name → ∀ a ∈ i.fixedAddresses,
          (¬i.HidesBesideGateway (s.isRouter host) w a → a ∈ addresses) ∧
          (a ∈ addresses ↔ ∃ e ∈ w.entries, a ∈ e.addresses) := by
  have hv := vlans_of_addressPlan hp
  obtain ⟨w, hw⟩ := exists_vlanOutline? (d := s.effectiveDelegation) h hx
  obtain ⟨own, hown, hname, hne⟩ := exists_entry_of_hasFixedOn hw hh hf
  obtain ⟨e, he⟩ : ∃ e, (s.completeVlan s.outlines s.claims w).entries.find?
      (·.answersTo host.hostname) = some e :=
    Option.isSome_iff_exists.1 (List.find?_isSome.2 ⟨own, hown, Entry.answersTo_of_eq hname⟩)
  have hleads : ∀ addresses, s.LeadsToHost p x host addresses ↔ e.hostname = host.hostname ∧
      addresses ≠ [] ∧
        (s.completeVlan s.outlines s.claims w).addressesOf host.hostname = addresses :=
    fun _ => leadsToHost_iff h hv hx hw he
  refine ⟨s.completeVlan s.outlines s.claims w, ?_, name_completeVlan hw, ?_, ?_⟩
  · rw [hv, planVlans_eq h]
    exact List.mem_map_of_mem (mem_outlines hx hw)
  · rw [← hostname_ne_iff h hx hw hh hf (answersFirst_of_find? hw he), not_not]
    constructor
    · rintro ⟨addresses, hto⟩
      exact ((hleads addresses).1 hto).1
    · intro hsame
      refine ⟨_, (hleads _).2 ⟨hsame, fun hnil => hne ?_, rfl⟩⟩
      exact PlannedVlan.addressesOf_eq_nil.1 hnil own hown hname
  · intro addresses hto i hi hvlan a ha
    obtain ⟨-, -, rfl⟩ := (hleads addresses).1 hto
    have hmem := mem_addressesOf_iff_entry h hx hw (.interface hh hi hvlan ha)
    refine ⟨fun hnot => hmem.2 ?_, hmem⟩
    rw [← name_of_vlanOutline? hw] at hvlan
    exact exists_entry_of_not_hides hh hw hi hvlan ha hnot

/-- A router that has an address beside the IPv4 gateway. -/
def besideGateway : Host where
  hostname := "gw"
  roles := [.router]
  interfaces := [
    { uplink := some "wan0" },
    { switch := some "sw", ipv4 := .fixed "10.0.0.1", ipv6 := some (.fixed "fd00:1::5") }]

/-- A host with a name that a static host of the site has as an alias. -/
def fileServer : Host where
  hostname := "files"
  interfaces := [{ switch := some "sw", ipv4 := .fixed "10.0.0.6" }]

/-- A host with a name of its own. -/
def jukebox : Host where
  hostname := "box"
  interfaces := [
    { switch := some "sw", ipv4 := .fixed "10.0.0.7", ipv6 := some (.fixed "fd00:1::7") }]

def storageSwitch : Switch where
  name := "sw"
  vlans := [
    { name := "lan", ipv4Subnet := "10.0.0.0/24", ipv6Subnet := some "fd00:1::/64"
      allowDhcp := false
      staticHosts := [{ hostname := "nas", ipv4 := "10.0.0.5", aliases := ["files"] }] }]

/-- The site of these hosts. -/
def storage : Site where
  name := "home"
  domain := "example.net"
  switches := [storageSwitch]
  hosts := [besideGateway, fileServer, jukebox]

theorem addressPlan_storage : storage.addressPlan = .ok storage.plannedAddresses :=
  addressPlan_eq_ok (by decide) (by decide)

/-- The host with a name of its own is found with both addresses. -/
theorem jukebox_named : storage.findings = [] ∧
    storage.addressPlan = .ok storage.plannedAddresses ∧ jukebox ∈ storage.hosts ∧
    ∃ x ∈ storage.vlans, jukebox.HasFixedOn storage x.2.name ∧
      ∃ addresses, storage.LeadsToHost storage.plannedAddresses x jukebox addresses ∧
        ∀ i ∈ jukebox.planDeclared storage storage.outlines, i.vlan = some x.2.name →
          ∀ a ∈ i.fixedAddresses, a ∈ addresses := by
  have hf : storage.findings = [] := by with_unfolding_all decide
  have hh : jukebox ∈ storage.hosts := by simp [storage]
  have hx : (storageSwitch, storageSwitch.vlans[0]) ∈ storage.vlans := List.mem_cons_self
  have hfixed : jukebox.HasFixedOn storage "lan" := by
    unfold Host.HasFixedOn
    decide
  obtain ⟨w, -, -, hiff, hall⟩ := named_host hf addressPlan_storage hx hh hfixed
  have hfree : ¬jukebox.IsForestalled storage (storageSwitch, storageSwitch.vlans[0]) := by
    rintro (⟨hr, hrouter, hne, hname⟩ | ⟨hg, he, hne, hname⟩ | ⟨hg, he, hb, hmem, hname, hfixed⟩)
    · obtain rfl : besideGateway = _ := Option.some.inj hrouter
      revert hname
      decide
    · have hnone : ∀ e ∈ storageSwitch.vlans[0].entries, e.answersTo "box" = false := by decide
      exact Bool.false_ne_true ((hnone _ he).symm.trans hname)
    · have hnone : ∀ y ∈ withEarlier storage.hosts, y.2.hostname = "box" →
          ∀ g ∈ y.1, Text.sameIgnoringCase g.hostname "box" = false := by decide
      exact Bool.false_ne_true ((hnone _ hb rfl _ hmem).symm.trans hname)
  obtain ⟨addresses, hto⟩ := hiff.2 hfree
  refine ⟨hf, addressPlan_storage, hh, _, hx, hfixed, addresses, hto, fun i hi hv a ha => ?_⟩
  refine (hall addresses hto i hi hv a ha).1 fun hhides => ?_
  have hrouter : storage.isRouter jukebox = false := by decide
  rw [hrouter] at hhides
  cases hhides.1

/-- **Names and addresses are lost.**  The name of a host finds the static host that
    has it as an alias, and that of the router does not lead to its address beside
    the gateway. -/
theorem shared_names : storage.findings = [] ∧
    storage.addressPlan = .ok storage.plannedAddresses ∧ ∃ x ∈ storage.vlans,
      (fileServer ∈ storage.hosts ∧ fileServer.HasFixedOn storage x.2.name ∧
        ∀ addresses, ¬storage.LeadsToHost storage.plannedAddresses x fileServer addresses) ∧
      (besideGateway ∈ storage.hosts ∧ ∃ addresses,
        storage.LeadsToHost storage.plannedAddresses x besideGateway addresses ∧
        ∃ i ∈ besideGateway.planDeclared storage storage.outlines, i.vlan = some x.2.name ∧
          ∃ a ∈ i.fixedAddresses, a ∉ addresses) := by
  have hx : (storageSwitch, storageSwitch.vlans[0]) ∈ storage.vlans := List.mem_cons_self
  refine ⟨by with_unfolding_all decide, addressPlan_storage, _, hx, ⟨by simp [storage], ?_, ?_⟩,
    by simp [storage], [.v4 (.ofNat 0x0a000001), .v6 (.ofNat 0xfd000001000000000000000000000001)],
    ?_, ?_⟩
  · unfold Host.HasFixedOn
    decide
  · intro addresses hto
    have hfound : (Locator.ofHost "lan" "files").endpoints storage storage.plannedAddresses =
        .ok [{ endpoint := .host "lan" "nas" [.v4 (.ofNat 0x0a000005)] }] := by decide
    simpa [fileServer] using hfound.symm.trans hto
  · unfold LeadsToHost
    decide
  · decide

end Site

end NetworkSite
