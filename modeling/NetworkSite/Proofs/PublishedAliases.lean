/-
  Aliases that are published.

  The aliases of static hosts and reservations have their records, except where the
  router's gateway goes by the name already; that entry may have no address.  The
  aliases of hosts come to nothing: the entries that stand for their interfaces have
  none.  So a name has a record exactly if an entry with an address has it, or a
  declared entry has it for an alias that is not the gateway's, or it is a reverse
  name (`Site.published_aliases`, `Site.aliased_records`).
-/
import NetworkSite.Proofs.AliasTargets
import NetworkSite.Proofs.NamedHosts

namespace NetworkSite

/-! ## Labels up to their case -/

namespace Text

variable {a b : String}

theorem toNat_lt_of_isLabelChar {c : Char} (h : isLabelChar c = true) : c.toNat < 128 := by
  have hbounds : (((decide (c.val ≥ 'A'.val ∧ c.val ≤ 'Z'.val) ||
      c.val ≥ 'a'.val && c.val ≤ 'z'.val) || c.val ≥ '0'.val && c.val ≤ '9'.val) ||
      c == '-') = true := h
  simp only [Bool.or_eq_true, Bool.and_eq_true, decide_eq_true_eq, beq_iff_eq,
    UInt32.le_iff_toNat_le] at hbounds
  rcases hbounds with ((h | h) | h) | rfl
  · exact Nat.lt_of_le_of_lt h.2 (by decide)
  · exact Nat.lt_of_le_of_lt h.2 (by decide)
  · exact Nat.lt_of_le_of_lt h.2 (by decide)
  · decide

/-- Two labels have one lower-case form exactly if they are the same up to the case
    of ASCII letters. -/
theorem lower_eq_iff_of_isHostname (ha : isHostname a = true) (hb : isHostname b = true) :
    lower a = lower b ↔ sameIgnoringCase a b = true :=
  lower_eq_iff (fun _ hc => toNat_lt_of_isLabelChar (isLabelChar_of_isLabel ha hc))
    fun _ hc => toNat_lt_of_isLabelChar (isLabelChar_of_isLabel hb hc)

end Text

namespace Site

open Text

variable {s : Site} {p : AddressPlan} {x : Switch × Vlan} {v w : PlannedVlan} {e : Entry}
  {before : List Entry} {a name : String}

theorem isTaken_eq_false {names : List String} :
    isTaken names a = false ↔ ∀ other ∈ names, lower other ≠ lower a := by
  simp only [isTaken, List.any_eq_false, beq_iff_eq]

/-! ## Aliases of declared entries -/

/-- An alias that is published is not the gateway's. -/
theorem not_gatewayAnswers (hw : s.vlanOutline? s.effectiveDelegation x.1 x.2 = some w)
    (hb : (before, e) ∈ withEarlier (s.completeVlan s.outlines s.claims w).entries)
    (he : e.kind ≠ .gateway) (ha : a ∈ ownAliases before e) : ¬s.GatewayAnswers x.2 w a := by
  rintro ⟨g, hg, hanswers⟩
  obtain ⟨back, hentries⟩ := mem_withEarlier.1 hb
  rw [entries_completeVlan hw, hg, Option.toList_some, List.singleton_append] at hentries
  -- The gateway's entry comes first, so it is in front of the other one.
  have hfront : g ∈ before := by
    cases before with
    | nil =>
      obtain ⟨rfl, -⟩ := List.cons.inj hentries
      obtain ⟨-, router, -, rfl⟩ := gatewayOn?_eq_some.1 hg
      exact absurd rfl he
    | cons first before =>
      rw [(List.cons.inj hentries).1]
      exact List.mem_cons_self
  obtain ⟨own, hown, hsame⟩ := Entry.answersTo_iff.1 hanswers
  rw [sameIgnoringCase_ownAliases ha (.inr ⟨g, hfront, hown⟩)] at hsame
  cases hsame

/-- A name that the gateway does not answer to is none of its names. -/
theorem lower_ne_of_not_gatewayAnswers (h : s.findings = []) (ha : isHostname a = true)
    (hg : ¬s.GatewayAnswers x.2 w a) {g : Entry} (hgate : s.gatewayOn? x.2 w = some g) :
    ∀ other ∈ g.names, lower other ≠ lower a := by
  intro other ho he
  have hlabel : isHostname other = true := by
    obtain ⟨-, router, hrouter, rfl⟩ := gatewayOn?_eq_some.1 hgate
    rcases List.mem_pair.1 ho with rfl | rfl
    · exact isHostname_of_mem_hosts h (mem_hosts_of_router? hrouter)
    · decide
  have hsame := (lower_eq_iff_of_isHostname hlabel ha).1 he
  exact hg ⟨g, hgate, Entry.answersTo_iff.2 ⟨other, ho, hsame⟩⟩

/-- An alias of a declared entry is none of the names in front of it. -/
theorem lower_ne_of_declared (h : s.findings = []) (hx : x ∈ s.vlans) {front back : List Entry}
    (hentries : x.2.entries = front ++ e :: back) {earlier : List String}
    (ha : (earlier, a) ∈ withEarlier e.aliases) :
    ∀ other ∈ front.flatMap (·.names) ++ e.hostname :: earlier, lower other ≠ lower a := by
  obtain ⟨later, haliases⟩ := mem_withEarlier.1 ha
  have hm : a ∈ e.aliases := by
    rw [haliases]
    simp
  intro other ho
  rcases List.mem_append.1 ho with ho | ho
  · obtain ⟨d, hd, ho⟩ := List.mem_flatMap.1 ho
    have hapart := pairwise_entryNames h hx
    rw [hentries, List.pairwise_append] at hapart
    exact hapart.2.2 d hd e List.mem_cons_self other ho a (List.mem_cons_of_mem _ hm)
  · have he : e ∈ x.2.entries := by
      rw [hentries]
      simp
    obtain ⟨place, taken, hf⟩ := exists_entryFindings_eq_nil h hx he
    have hapart := pairwise_of_entryFindings hf
    rw [haliases, ← List.cons_append, List.pairwise_append] at hapart
    exact hapart.2.2 other ho a List.mem_cons_self

/-- An alias of a declared entry is published if it is not the gateway's. -/
theorem exists_mem_ownAliases (h : s.findings = []) (hx : x ∈ s.vlans)
    (hw : s.vlanOutline? s.effectiveDelegation x.1 x.2 = some w) (he : e ∈ x.2.entries)
    (ha : a ∈ e.aliases) (hg : ¬s.GatewayAnswers x.2 w a) :
    ∃ before, (before, e) ∈ withEarlier (s.completeVlan s.outlines s.claims w).entries ∧
      a ∈ ownAliases before e := by
  obtain ⟨front, back, hentries⟩ := List.append_of_mem he
  obtain ⟨earlier, hearlier⟩ := exists_mem_withEarlier ha
  refine ⟨(s.gatewayOn? x.2 w).toList ++ front, ?_, ?_⟩
  · refine mem_withEarlier.2 ⟨back ++ s.hosts.flatMap (s.hostEntries s.outlines w), ?_⟩
    rw [entries_completeVlan hw, hentries]
    simp only [List.append_assoc, List.cons_append]
  · refine List.mem_map.2 ⟨(earlier, a), List.mem_filter.2 ⟨hearlier, ?_⟩, rfl⟩
    rw [Bool.not_eq_true', isTaken_eq_false, List.flatMap_append, List.append_assoc]
    intro other ho
    rcases List.mem_append.1 ho with ho | ho
    · obtain ⟨g, hgate, ho⟩ := List.mem_flatMap.1 ho
      have hlabel := (isHostname_of_mem_aliases h hx he ha).1
      exact lower_ne_of_not_gatewayAnswers h hlabel hg (Option.mem_toList.1 hgate) other ho
    · exact lower_ne_of_declared h hx hentries hearlier other ho

/-! ## Who has a name -/

/-- Somebody has the name in the domain of the vlan: an entry with an address, or
    a declared entry for an alias that is not the gateway's; or it is the reverse
    name of an address. -/
inductive HasHolder (s : Site) (p : AddressPlan) (w : PlannedVlan) (name : String) : Prop
  | address {v : PlannedVlan} {e : Entry} (hv : v ∈ p.vlans)
      (hd : sameIgnoringCase v.domain w.domain = true) (he : e ∈ v.entries) (ha : e.addresses ≠ [])
      (hn : sameIgnoringCase e.hostname name = true) : HasHolder s p w name
  | declared {x : Switch × Vlan} {v : PlannedVlan} {e : Entry} {a : String} (hx : x ∈ s.vlans)
      (hv : v ∈ p.vlans) (hname : v.name = x.2.name)
      (hd : sameIgnoringCase v.domain w.domain = true) (he : e ∈ x.2.entries) (ha : a ∈ e.aliases)
      (hg : ¬s.GatewayAnswers x.2 v a) (hn : sameIgnoringCase a name = true) : HasHolder s p w name
  | reverse {x : String × IpAddress} (hx : x ∈ s.published p)
      (hn : sameIgnoringCase x.2.reverseName (s.fullName name w.domain) = true) : HasHolder s p w name

/-- An alias that is a record of a vlan is one of a declared entry, unless it is the
    name of a role. -/
theorem exists_declared_of_cname
    (hw : s.vlanOutline? s.effectiveDelegation x.1 x.2 = some w)
    (hb : (before, e) ∈ withEarlier (s.completeVlan s.outlines s.claims w).entries)
    (ha : a ∈ ownAliases before e) (hrole : Role.isName a = false) :
    e ∈ x.2.entries ∧ a ∈ e.aliases ∧ ¬s.GatewayAnswers x.2 w a := by
  have haliases := mem_aliases_of_mem_ownAliases ha
  obtain ⟨back, hentries⟩ := mem_withEarlier.1 hb
  have he : e ∈ (s.completeVlan s.outlines s.claims w).entries := by
    rw [hentries]
    simp
  rcases (mem_entries_completeVlan hw).1 he with
    ⟨-, router, -, rfl⟩ | hd | ⟨host, -, i, -, -, hi⟩
  · rw [List.mem_singleton.1 haliases] at hrole
    exact absurd hrole (by decide)
  · refine ⟨hd, haliases, not_gatewayAnswers hw hb ?_ ha⟩
    intro hk
    rcases isDeclared_of_mem hd with hd | hd <;> rw [hk] at hd <;> cases hd
  · rw [(PlannedVlan.names_of_interfaceEntry? hi).2] at haliases
    cases haliases

theorem isName_eq_of_sameIgnoringCase (h : sameIgnoringCase a name = true) :
    Role.isName a = Role.isName name := by
  simp only [Role.isName, sameIgnoringCase, sameIgnoringCase_iff.1 h]

theorem aliasRecord_mem (h : s.findings = []) (hp : p.vlans = s.planVlans) (hx : x ∈ s.vlans)
    (hv : v ∈ p.vlans) (hname : v.name = x.2.name) (he : e ∈ x.2.entries) (ha : a ∈ e.aliases)
    (hg : ¬s.GatewayAnswers x.2 v a) : s.aliasRecord v a e.hostname ∈ s.dnsRecords p := by
  rw [hp] at hv
  obtain ⟨w, ho, rfl⟩ := exists_outline_of_name_eq h hx hv hname
  obtain ⟨before, hb, hown⟩ := exists_mem_ownAliases h hx ho he ha hg
  rw [← hp] at hv
  exact (mem_and_cname_iff.2 ⟨_, hv, .inl ⟨before, e, hb, a, hown, rfl⟩⟩).1

section

variable (h : s.findings = []) (hp : p.vlans = s.planVlans) (hw : w ∈ p.vlans)
  (ha : isHostname a = true)
include h hp hw ha

theorem sameIgnoringCase_fullName_iff (hv : v ∈ p.vlans) (hn : isHostname name = true) :
    sameIgnoringCase (s.fullName name v.domain) (s.fullName a w.domain) = true ↔
      sameIgnoringCase name a = true ∧ sameIgnoringCase v.domain w.domain = true := by
  rw [hp] at hv hw
  rw [sameIgnoringCase_fullName h hv hw hn ha, Bool.and_eq_true]

theorem hasHolder_of_cname (hrole : Role.isName a = false) {t : DnsRecord}
    (ht : t ∈ s.dnsRecords p) (hc : t.type = .cname)
    (hsame : sameIgnoringCase t.name (s.fullName a w.domain) = true) : s.HasHolder p w a := by
  obtain ⟨v, hv, ⟨before, e, hb, name, hown, rfl⟩ | ⟨r, -, hr⟩⟩ := mem_and_cname_iff.1 ⟨ht, hc⟩
  · obtain ⟨back, hentries⟩ := mem_withEarlier.1 hb
    have hlabel := isHostname_of_mem_aliasLabels h hp hv
      (mem_aliasLabels.2 (.inl ⟨before, e, back, hentries, hown⟩))
    obtain ⟨hn, hd⟩ := (sameIgnoringCase_fullName_iff h hp hw ha hv hlabel).1 hsame
    have hplan := hv
    rw [hp] at hplan
    obtain ⟨x, hx, o, ho, rfl⟩ := exists_of_mem_planVlans h hplan
    obtain ⟨he, hmem, hg⟩ := exists_declared_of_cname ho hb hown
      ((isName_eq_of_sameIgnoringCase hn).trans hrole)
    exact .declared hx hv (name_completeVlan ho) hd he hmem hg hn
  · obtain ⟨holder, -, -, rfl⟩ := roleRecord?_eq_some.1 hr
    have hlabel : isHostname r.name = true := by cases r <;> decide
    obtain ⟨hn, -⟩ := (sameIgnoringCase_fullName_iff h hp hw ha hv hlabel).1 hsame
    rw [← isName_eq_of_sameIgnoringCase hn] at hrole
    cases r <;> exact absurd hrole (by decide)

/-- **Which names have records**: those that somebody has, for any label that is no
    name of a role. -/
theorem exists_record_iff (hrole : Role.isName a = false) :
    (∃ t ∈ s.dnsRecords p, sameIgnoringCase t.name (s.fullName a w.domain) = true) ↔
      s.HasHolder p w a := by
  constructor
  · rintro ⟨t, ht, hsame⟩
    by_cases hc : t.type = .cname
    · exact hasHolder_of_cname h hp hw ha hrole ht hc hsame
    · refine (forall_others_iff (q := fun name =>
        sameIgnoringCase name (s.fullName a w.domain) = true → s.HasHolder p w a)).2 ?_ t ht hc hsame
      refine fun x hx => ⟨fun hsame => ?_, .reverse hx⟩
      obtain ⟨v, hv, e, he, hmem, hn⟩ := mem_published.1 hx
      have hlabel := isHostname_of_mem_planned h hp hv he List.mem_cons_self
      rw [hn] at hsame
      obtain ⟨hn, hd⟩ := (sameIgnoringCase_fullName_iff h hp hw ha hv hlabel).1 hsame
      exact .address hv hd he (List.ne_nil_of_mem hmem) hn
  · rintro (⟨hv, hd, he, hne, hn⟩ | ⟨hx, hv, hname, hd, he, hmem, hg, hn⟩ | ⟨hx, hn⟩)
    · obtain ⟨t, ht, -, hname⟩ := exists_isAddress_iff.2 ⟨_, hv, _, he, hne, rfl⟩
      have hlabel := isHostname_of_mem_planned h hp hv he List.mem_cons_self
      exact ⟨t, ht, hname ▸ (sameIgnoringCase_fullName_iff h hp hw ha hv hlabel).2 ⟨hn, hd⟩⟩
    · have hlabel := (isHostname_of_mem_aliases h hx he hmem).1
      exact ⟨_, aliasRecord_mem h hp hx hv hname he hmem hg,
        (sameIgnoringCase_fullName_iff h hp hw ha hv hlabel).2 ⟨hn, hd⟩⟩
    · exact ⟨_, (mem_and_ptr_iff.2 ⟨_, hx, rfl⟩).1, hn⟩

end

variable {templates : List Template} {plan : BuildPlan}

/-- The name of a gateway with addresses has their records. -/
theorem exists_isAddress_of_gatewayAnswers (h : s.findings = []) (hp : p.vlans = s.planVlans)
    (hw : s.vlanOutline? s.effectiveDelegation x.1 x.2 = some w)
    (hm : s.completeVlan s.outlines s.claims w ∈ p.vlans) (ha : isHostname a = true)
    (hrole : Role.isName a = false) (hg : s.GatewayAnswers x.2 w a) (hne : w.gateways ≠ []) :
    ∃ t ∈ s.dnsRecords p, t.isAddress = true ∧
      sameIgnoringCase t.name (s.fullName a w.domain) = true := by
  obtain ⟨hr, router, hrouter, hn⟩ := gatewayAnswers_iff.1 hg
  have he := (mem_entries_completeVlan hw).2 (.inl ⟨hr, router, hrouter, rfl⟩)
  obtain ⟨t, ht, haddress, hname⟩ := exists_isAddress_iff.2 ⟨_, hm, _, he, hne, rfl⟩
  have hn : sameIgnoringCase router.hostname a = true := by
    refine hn.resolve_right fun hn => ?_
    rw [← isName_eq_of_sameIgnoringCase hn] at hrole
    exact absurd hrole (by decide)
  have hlabel := isHostname_of_mem_hosts h (mem_hosts_of_router? hrouter)
  refine ⟨t, ht, haddress, ?_⟩
  rw [hname]
  exact (sameIgnoringCase_fullName_iff h hp hm ha hm hlabel).2 ⟨hn, sameIgnoringCase_refl _⟩

/-- **Which aliases are published.**  The aliases of static hosts and reservations
    have their records, except those that the gateway of the vlan goes by: of these
    there are address records if the gateway has addresses.  Of an alias, whether an
    entry or a host declares it, there is a record in the domain of the vlan exactly
    if somebody has that name there, and hosts do not have theirs. -/
theorem published_aliases (h : s.compile templates = .ok plan) (hx : x ∈ s.vlans) :
    ∃ w ∈ plan.addresses.vlans, w.name = x.2.name ∧
      (∀ e ∈ x.2.entries, ∀ a ∈ e.aliases,
        (¬s.GatewayAnswers x.2 w a → s.aliasRecord w a e.hostname ∈ s.dnsRecords plan.addresses) ∧
        (s.GatewayAnswers x.2 w a → w.gateways ≠ [] → ∃ t ∈ s.dnsRecords plan.addresses,
          t.isAddress = true ∧ sameIgnoringCase t.name (s.fullName a w.domain) = true)) ∧
      ∀ a, (∃ e ∈ x.2.entries, a ∈ e.aliases) ∨ (∃ host ∈ s.hosts, a ∈ host.aliases) →
        ((∃ t ∈ s.dnsRecords plan.addresses,
            sameIgnoringCase t.name (s.fullName a w.domain) = true) ↔
          s.HasHolder plan.addresses w a) := by
  obtain ⟨hf, hp⟩ := addresses_of_compile h
  have hvlans := vlans_of_addressPlan hp
  obtain ⟨w, ho⟩ := exists_vlanOutline? (d := s.effectiveDelegation) hf hx
  have hw : s.completeVlan s.outlines s.claims w ∈ plan.addresses.vlans := by
    rw [hvlans]
    exact completeVlan_mem_planVlans hf hx ho
  have hname := name_completeVlan ho
  refine ⟨_, hw, hname, fun e he a ha => ⟨fun hg => ?_, fun hg => ?_⟩, ?_⟩
  · exact aliasRecord_mem hf hvlans hx hw hname he ha hg
  · obtain ⟨hlabel, hrole⟩ := isHostname_of_mem_aliases hf hx he ha
    exact exists_isAddress_of_gatewayAnswers (w := w) hf hvlans ho hw hlabel hrole hg
  · rintro a (⟨e, he, ha⟩ | ⟨host, hh, ha⟩)
    · obtain ⟨hlabel, hrole⟩ := isHostname_of_mem_aliases hf hx he ha
      exact exists_record_iff hf hvlans hw hlabel hrole
    · obtain ⟨hlabel, hrole⟩ := isHostname_of_mem_hostAliases hf hh ha
      exact exists_record_iff hf hvlans hw hlabel hrole

/-- The alias of a static host has its record. -/
theorem zoned_published_alias : ∃ plan w, zoned.compile [] = .ok plan ∧
    w ∈ plan.addresses.vlans ∧ w.name = "lan" ∧
    zoned.aliasRecord w "files" "nas" ∈ zoned.dnsRecords plan.addresses ∧
    zoned.HasHolder plan.addresses w "files" := by
  obtain ⟨plan, hplan⟩ := zoned_compiles
  obtain ⟨x, hx, hn, e, he, hhost, ha⟩ : ∃ x ∈ zoned.vlans, x.2.name = "lan" ∧
      ∃ e ∈ x.2.entries, e.hostname = "nas" ∧ "files" ∈ e.aliases := by
    decide
  obtain ⟨w, hw, hname, hrecords, hiff⟩ := published_aliases hplan hx
  have hanswers : ¬zoned.GatewayAnswers x.2 w "files" := by
    intro hanswers
    obtain ⟨-, router, hrouter, hanswers⟩ := gatewayAnswers_iff.1 hanswers
    have hgw : ∀ router ∈ zoned.router?, router.hostname = "gw" := by decide
    rw [hgw router hrouter] at hanswers
    exact absurd hanswers (by decide)
  have hrecord := (hrecords e he "files" ha).1 hanswers
  rw [hhost] at hrecord
  exact ⟨plan, w, hplan, hw, hname.trans hn, hrecord,
    (hiff "files" (.inl ⟨e, he, ha⟩)).1 ⟨_, hrecord, sameIgnoringCase_refl _⟩⟩

/-- A site whose host has an alias, and a link on which a static host has the name
    of the router for an alias. -/
def aliased : Site where
  name := "home"
  domain := "example.net"
  switches := [{
    name := "sw"
    vlans := [
      { name := "lan", ipv4Subnet := "10.0.0.0/24" },
      { name := "link", id := some 20, ipv4Subnet := "10.0.1.0/31", domain := "link.example.net"
        allowDhcp := false
        staticHosts := [{ hostname := "peer", ipv4 := "10.0.1.1", aliases := ["gw"] }] }] }]
  hosts := [
    { hostname := "gw", roles := [.router], interfaces := [{ uplink := some "wan0" }] },
    { hostname := "nas", aliases := ["files"]
      interfaces := [{ switch := some "sw", vlan := some (.name "lan"), ipv4 := .fixed "10.0.0.6" }] }]

theorem aliased_compiles : ∃ plan, aliased.compile [] = .ok plan :=
  exists_compile_nil (by with_unfolding_all decide) (by decide) (by with_unfolding_all decide)
    (by decide) (by with_unfolding_all decide) (by decide)

/-- **An alias may have no record**, although its owner has an address: that of the
    host, and that of the static host beside the router. -/
theorem aliased_records : ∃ plan, aliased.compile [] = .ok plan ∧
    (∃ host ∈ aliased.hosts, host.hostname = "nas" ∧ "files" ∈ host.aliases) ∧
    { name := "nas.example.net", type := .a, value := "10.0.0.6" } ∈
      aliased.dnsRecords plan.addresses ∧
    { name := "peer.link.example.net", type := .a, value := "10.0.1.1" } ∈
      aliased.dnsRecords plan.addresses ∧
    ∀ t ∈ aliased.dnsRecords plan.addresses,
      sameIgnoringCase t.name "files.example.net" = false ∧
      sameIgnoringCase t.name "gw.link.example.net" = false := by
  obtain ⟨plan, hplan⟩ := aliased_compiles
  refine ⟨plan, hplan, by decide, ?_⟩
  rw [addresses_eq_of_compile hplan]
  decide

end Site

end NetworkSite
