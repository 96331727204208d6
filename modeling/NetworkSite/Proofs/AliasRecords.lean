/-
  Alias records and the other records of their names.

  A name with an alias record has no other record, up to its case.  The records
  of a vlan are made with an eye on this: an alias is left out if its name stands
  for an entry in front, or for an alias in front.  That is not enough.  A host
  behind may have the name, and vlans may share their domain, where the records of
  each vlan are made without regard to the others.  Without such names the records
  of a build plan are compatible, and only then (`Site.compatible_records`,
  `Site.doubled_records`).
-/
import NetworkSite.Proofs.EndpointNames
import NetworkSite.Proofs.PublishedAddresses

namespace NetworkSite

/-! ## Full names -/

namespace Text

variable {a b c d : String}

theorem dot_not_mem_of_isLabel {cs : List Char} (h : isLabel cs = true) : '.' ∉ cs :=
  fun hm => absurd (isLabelChar_of_isLabel h hm) (by decide)

theorem dot_mem_map_toLower_iff {cs : List Char} : '.' ∈ cs.map Char.toLower ↔ '.' ∈ cs :=
  mem_map_toLower_iff (by decide)

theorem sameIgnoringCase_empty (h : a ≠ "") : sameIgnoringCase a "" = false := by
  simpa [sameIgnoringCase] using h

/-- Full names are the same if their labels and their domains are. -/
theorem sameIgnoringCase_append (ha : '.' ∉ a.toList) (hb : '.' ∉ b.toList) :
    sameIgnoringCase (a ++ "." ++ c) (b ++ "." ++ d) =
      (sameIgnoringCase a b && sameIgnoringCase c d) := by
  have hcut : ∀ front back : List Char, '.' ∉ front →
      cut (· == '.') (front ++ '.' :: back) = some (front, back) := by
    intro front back hf
    refine cut_eq_some_iff.2 ⟨'.', rfl, fun x hx he => hf ?_, rfl⟩
    rw [← beq_iff_eq.1 he]
    exact hx
  have hlist : ∀ x y : String, (x ++ "." ++ y).toList.map Char.toLower =
      x.toList.map Char.toLower ++ '.' :: y.toList.map Char.toLower := by
    intro x y
    simp
  rw [Bool.eq_iff_iff, Bool.and_eq_true, sameIgnoringCase_iff, sameIgnoringCase_iff,
    sameIgnoringCase_iff, hlist, hlist]
  constructor
  · intro he
    have ha := hcut _ (c.toList.map Char.toLower) (dot_mem_map_toLower_iff.not.2 ha)
    rw [he, hcut _ _ (dot_mem_map_toLower_iff.not.2 hb)] at ha
    obtain ⟨hlabel, hdomain⟩ := Prod.mk.inj (Option.some.inj ha)
    exact ⟨hlabel.symm, hdomain.symm⟩
  · rintro ⟨hlabel, hdomain⟩
    rw [hlabel, hdomain]

theorem sameIgnoringCase_label_append (ha : '.' ∉ a.toList) :
    sameIgnoringCase a (b ++ "." ++ d) = false := by
  rw [← Bool.not_eq_true, sameIgnoringCase_iff]
  intro he
  have hm : '.' ∈ (b ++ "." ++ d).toList.map Char.toLower :=
    List.mem_map.2 ⟨'.', by simp, rfl⟩
  rw [← he] at hm
  exact ha (dot_mem_map_toLower_iff.1 hm)

end Text

namespace Site

open Text

variable {s : Site} {p : AddressPlan} {v w : PlannedVlan} {a b : String}

theorem domain_of_mem_planVlans (h : s.findings = []) (hw : w ∈ s.planVlans)
    (hd : w.domain = "") : s.domain = "" := by
  obtain ⟨x, hx, w, ho, rfl⟩ := exists_of_mem_planVlans h hw
  change w.domain = "" at hd
  rw [domain_of_vlanOutline? ho, domainOf] at hd
  split at hd
  · exact hd
  next hne => simp [hd] at hne

theorem fullName_eq (h : s.findings = []) (hw : w ∈ s.planVlans) (a : String) :
    s.fullName a w.domain = if w.domain = "" then a else a ++ "." ++ w.domain := by
  by_cases hd : w.domain = ""
  · simp [fullName, hd, domain_of_mem_planVlans h hw hd]
  · simp [fullName, hd, toString]

/-- **Names on vlans are the same** if their labels and the domains are. -/
theorem sameIgnoringCase_fullName (h : s.findings = []) (hv : v ∈ s.planVlans)
    (hw : w ∈ s.planVlans) (ha : isHostname a = true) (hb : isHostname b = true) :
    sameIgnoringCase (s.fullName a v.domain) (s.fullName b w.domain) =
      (sameIgnoringCase a b && sameIgnoringCase v.domain w.domain) := by
  have ha := dot_not_mem_of_isLabel ha
  have hb := dot_not_mem_of_isLabel hb
  rw [fullName_eq h hv, fullName_eq h hw]
  by_cases hdv : v.domain = ""
  · by_cases hdw : w.domain = ""
    · simp [hdv, hdw]
    · rw [if_pos hdv, if_neg hdw, sameIgnoringCase_label_append ha, hdv, sameIgnoringCase_comm "",
        sameIgnoringCase_empty hdw, Bool.and_false]
  · by_cases hdw : w.domain = ""
    · rw [if_neg hdv, if_pos hdw, sameIgnoringCase_comm, sameIgnoringCase_label_append hb, hdw,
        sameIgnoringCase_empty hdv, Bool.and_false]
    · rw [if_neg hdv, if_neg hdw, sameIgnoringCase_append ha hb]

/-! ## Labels of aliases -/

/-- The labels that a vlan publishes as aliases: those of its entries, then the
    names of roles. -/
def aliasLabels (s : Site) (w : PlannedVlan) : List String :=
  ((withEarlier w.entries).flatMap fun (before, e) => ownAliases before e) ++
    ((Role.all.filter (· != .generic)).filter fun r => (s.roleRecord? w r).isSome).map (·.name)

theorem sameIgnoringCase_of_not_isTaken {names : List String} (h : isTaken names a = false)
    (hb : b ∈ names) : sameIgnoringCase b a = false := by
  rw [← Bool.not_eq_true]
  intro hs
  have htaken : isTaken names a = true :=
    List.any_eq_true.2 ⟨b, hb, beq_iff_eq.2 (lower_eq_of_sameIgnoringCase hs)⟩
  rw [h] at htaken
  cases htaken

section

variable {before : List Entry} {e : Entry}

theorem exists_of_mem_ownAliases (ha : a ∈ ownAliases before e) :
    ∃ earlier, (earlier, a) ∈ withEarlier e.aliases ∧
      isTaken (before.flatMap (·.names) ++ e.hostname :: earlier) a = false := by
  obtain ⟨⟨earlier, name⟩, hm, rfl⟩ := List.mem_map.1 ha
  obtain ⟨hm, hfree⟩ := List.mem_filter.1 hm
  exact ⟨earlier, hm, by simpa using hfree⟩

theorem mem_aliases_of_mem_ownAliases (ha : a ∈ ownAliases before e) : a ∈ e.aliases := by
  obtain ⟨earlier, hm, -⟩ := exists_of_mem_ownAliases ha
  obtain ⟨back, he⟩ := mem_withEarlier.1 hm
  rw [he]
  simp

theorem sameIgnoringCase_ownAliases (ha : a ∈ ownAliases before e)
    (hb : b = e.hostname ∨ ∃ other ∈ before, b ∈ other.names) : sameIgnoringCase b a = false := by
  obtain ⟨earlier, -, hfree⟩ := exists_of_mem_ownAliases ha
  refine sameIgnoringCase_of_not_isTaken hfree (List.mem_append.2 ?_)
  rcases hb with rfl | ⟨other, ho, hb⟩
  · exact .inr List.mem_cons_self
  · exact .inl (List.mem_flatMap.2 ⟨other, ho, hb⟩)

theorem pairwise_ownAliases :
    (ownAliases before e).Pairwise fun a b => sameIgnoringCase a b = false := by
  rw [ownAliases, List.pairwise_map]
  refine ((pairwise_withEarlier e.aliases).filter _).imp_of_mem ?_
  rintro x ⟨earlier, b⟩ - hy hx
  obtain ⟨-, hfree⟩ := List.mem_filter.1 hy
  have hfree : isTaken (before.flatMap (·.names) ++ e.hostname :: earlier) b = false := by
    simpa using hfree
  exact sameIgnoringCase_of_not_isTaken hfree
    (List.mem_append_right _ (List.mem_cons_of_mem _ hx))

end

theorem sameIgnoringCase_roleRecord {r : Role} (hr : (s.roleRecord? w r).isSome = true) {e : Entry}
    (he : e ∈ w.entries) (hb : b ∈ e.names) : sameIgnoringCase b r.name = false := by
  obtain ⟨t, ht⟩ := Option.isSome_iff_exists.1 hr
  obtain ⟨holder, -, hfree, -⟩ := roleRecord?_eq_some.1 ht
  exact sameIgnoringCase_of_not_isTaken hfree (List.mem_flatMap.2 ⟨e, he, hb⟩)

theorem mem_aliasLabels : a ∈ s.aliasLabels w ↔
    (∃ before e after, w.entries = before ++ e :: after ∧ a ∈ ownAliases before e) ∨
      ∃ r, r ≠ .generic ∧ (s.roleRecord? w r).isSome = true ∧ a = r.name := by
  rw [aliasLabels, List.mem_append]
  refine or_congr ?_ ?_
  · rw [List.mem_flatMap]
    constructor
    · rintro ⟨⟨before, e⟩, hm, ha⟩
      obtain ⟨after, he⟩ := mem_withEarlier.1 hm
      exact ⟨before, e, after, he, ha⟩
    · rintro ⟨before, e, after, he, ha⟩
      exact ⟨(before, e), mem_withEarlier.2 ⟨after, he⟩, ha⟩
  · simp only [List.mem_map, List.mem_filter, bne_iff_ne]
    constructor
    · rintro ⟨r, ⟨⟨-, hr⟩, hs⟩, rfl⟩
      exact ⟨r, hr, hs, rfl⟩
    · rintro ⟨r, hr, hs, rfl⟩
      refine ⟨r, ⟨⟨?_, hr⟩, hs⟩, rfl⟩
      cases r <;> simp [Role.all]

/-- **A vlan publishes no alias twice.** -/
theorem pairwise_aliasLabels :
    (s.aliasLabels w).Pairwise fun a b => sameIgnoringCase a b = false := by
  refine List.pairwise_append.2 ⟨List.pairwise_flatMap.2 ⟨?_, ?_⟩, ?_, ?_⟩
  · exact fun x _ => pairwise_ownAliases
  · refine (pairwise_withEarlier w.entries).imp fun hx a ha b hb => ?_
    refine sameIgnoringCase_ownAliases hb (.inr ⟨_, hx, ?_⟩)
    exact List.mem_cons_of_mem _ (mem_aliases_of_mem_ownAliases ha)
  · rw [List.pairwise_map]
    refine List.Pairwise.filter _ ?_
    decide
  · intro a ha b hb
    obtain ⟨⟨before, e⟩, hm, ha⟩ := List.mem_flatMap.1 ha
    obtain ⟨after, he⟩ := mem_withEarlier.1 hm
    obtain ⟨r, hr, rfl⟩ := List.mem_map.1 hb
    refine sameIgnoringCase_roleRecord (e := e) (List.mem_filter.1 hr).2 ?_ ?_
    · rw [he]
      simp
    · exact List.mem_cons_of_mem _ (mem_aliases_of_mem_ownAliases ha)

/-- What the aliases of a vlan are kept apart from when its records are made. -/
structure LabelsApart (s : Site) (w : PlannedVlan) : Prop where
  /-- No label is published twice. -/
  labels : (s.aliasLabels w).Pairwise fun a b => sameIgnoringCase a b = false
  /-- No alias of an entry is its hostname, or that of an entry in front. -/
  hostnames : ∀ before e after, w.entries = before ++ e :: after → ∀ a ∈ ownAliases before e,
    ∀ other ∈ e :: before, sameIgnoringCase a other.hostname = false
  /-- No name of a role that is published is a name of an entry. -/
  roles : ∀ r, (s.roleRecord? w r).isSome = true → ∀ e ∈ w.entries, ∀ b ∈ e.names,
    sameIgnoringCase r.name b = false

theorem labelsApart (s : Site) (w : PlannedVlan) : s.LabelsApart w where
  labels := pairwise_aliasLabels
  hostnames before e after _ a ha other ho := by
    rw [sameIgnoringCase_comm]
    refine sameIgnoringCase_ownAliases ha ?_
    rcases List.mem_cons.1 ho with rfl | ho
    · exact .inl rfl
    · exact .inr ⟨other, ho, List.mem_cons_self⟩
  roles r hr e he b hb := by
    rw [sameIgnoringCase_comm]
    exact sameIgnoringCase_roleRecord hr he hb

theorem isHostname_of_mem_aliasLabels (h : s.findings = []) (hp : p.vlans = s.planVlans)
    (hw : w ∈ p.vlans) (ha : a ∈ s.aliasLabels w) : isHostname a = true := by
  rcases mem_aliasLabels.1 ha with ⟨before, e, after, he, ha⟩ | ⟨r, -, -, rfl⟩
  · have hm : e ∈ w.entries := by
      rw [he]
      simp
    refine isHostname_of_mem_planned h hp hw hm ?_
    exact List.mem_cons_of_mem _ (mem_aliases_of_mem_ownAliases ha)
  · cases r <;> decide

/-- On its vlan an alias is the hostname of no entry with addresses, unless such
    an entry stands behind that of the alias. -/
theorem forall_aliasLabels_iff {q : Entry → Prop} :
    (∀ a ∈ s.aliasLabels w, ∀ e ∈ w.entries, q e → sameIgnoringCase a e.hostname = false) ↔
      ∀ before e after, w.entries = before ++ e :: after → ∀ a ∈ ownAliases before e,
        ∀ other ∈ after, q other → sameIgnoringCase a other.hostname = false := by
  constructor
  · intro hall before e after he a ha other ho hq
    refine hall a (mem_aliasLabels.2 (.inl ⟨before, e, after, he, ha⟩)) other ?_ hq
    rw [he]
    exact List.mem_append_right _ (List.mem_cons_of_mem _ ho)
  · intro hlater a ha other ho hq
    rcases mem_aliasLabels.1 ha with ⟨before, e, after, he, ha⟩ | ⟨r, -, hr, rfl⟩
    · have hfront := (s.labelsApart w).hostnames before e after he a ha other
      rw [he, List.mem_append, List.mem_cons] at ho
      rcases ho with ho | rfl | ho
      · exact hfront (List.mem_cons_of_mem _ ho)
      · exact hfront List.mem_cons_self
      · exact hlater before e after he a ha other ho hq
    · exact (s.labelsApart w).roles r hr other ho _ List.mem_cons_self

end Site

/-! ## Records -/

namespace DnsRecord

/-- The names of two records differ up to their case if one of them is an
    alias. -/
def Compatible (r t : DnsRecord) : Prop :=
  r.type = .cname ∨ t.type = .cname → Text.sameIgnoringCase r.name t.name = false

instance (r t : DnsRecord) : Decidable (r.Compatible t) :=
  inferInstanceAs (Decidable (_ → _))

/-- Records are compatible if aliases have different names and these are those of
    no other records. -/
theorem pairwise_compatible_iff {records : List DnsRecord} : records.Pairwise Compatible ↔
    ((records.filter (·.type == .cname)).map (·.name)).Pairwise
        (fun a b => Text.sameIgnoringCase a b = false) ∧
      ∀ a ∈ (records.filter (·.type == .cname)).map (·.name), ∀ t ∈ records, t.type ≠ .cname →
        Text.sameIgnoringCase a t.name = false := by
  induction records with
  | nil => simp
  | cons r rest ih =>
    rw [List.pairwise_cons, ih]
    by_cases hr : r.type = .cname
    · have hfilter : (r :: rest).filter (·.type == .cname) = r :: rest.filter (·.type == .cname) :=
        List.filter_cons_of_pos (beq_iff_eq.2 hr)
      rw [hfilter, List.map_cons, List.pairwise_cons, List.forall_mem_cons]
      simp only [List.forall_mem_cons, hr, ne_eq, not_true, false_implies, true_and]
      constructor
      · rintro ⟨hall, hpairs, hother⟩
        refine ⟨⟨?_, hpairs⟩, fun t ht _ => hall t ht (.inl hr), hother⟩
        intro a ha
        obtain ⟨t, ht, rfl⟩ := List.mem_map.1 ha
        exact hall t (List.mem_filter.1 ht).1 (.inl hr)
      · rintro ⟨⟨halias, hpairs⟩, hown, hother⟩
        refine ⟨fun t ht _ => ?_, hpairs, hother⟩
        by_cases hc : t.type = .cname
        · exact halias _ (List.mem_map_of_mem (List.mem_filter.2 ⟨ht, beq_iff_eq.2 hc⟩))
        · exact hown t ht hc
    · have hfilter : (r :: rest).filter (·.type == .cname) = rest.filter (·.type == .cname) :=
        List.filter_cons_of_neg fun hc => hr (beq_iff_eq.1 hc)
      rw [hfilter]
      simp only [List.forall_mem_cons, hr, ne_eq, not_false_eq_true, true_implies]
      constructor
      · rintro ⟨hall, hpairs, hother⟩
        refine ⟨hpairs, fun a ha => ⟨?_, hother a ha⟩⟩
        obtain ⟨t, ht, rfl⟩ := List.mem_map.1 ha
        obtain ⟨ht, hc⟩ := List.mem_filter.1 ht
        rw [Text.sameIgnoringCase_comm]
        exact hall t ht (.inr (beq_iff_eq.1 hc))
      · rintro ⟨hpairs, hall⟩
        refine ⟨fun t ht hc => ?_, hpairs, fun a ha => (hall a ha).2⟩
        have hc := hc.resolve_left hr
        rw [Text.sameIgnoringCase_comm]
        exact (hall _ (List.mem_map_of_mem (List.mem_filter.2 ⟨ht, beq_iff_eq.2 hc⟩))).1

end DnsRecord

namespace Site

open Text

variable {s : Site} {p : AddressPlan} {v w : PlannedVlan} {a b : String}

theorem map_name_filterMap_roleRecord (roles : List Role) :
    (roles.filterMap (s.roleRecord? w)).map (·.name) =
      (roles.filter fun r => (s.roleRecord? w r).isSome).map fun r => s.fullName r.name w.domain := by
  induction roles with
  | nil => rfl
  | cons r rest ih =>
    cases hr : s.roleRecord? w r with
    | none => rw [List.filterMap_cons_none hr, List.filter_cons_of_neg (by simp [hr]), ih]
    | some t =>
      have hname : t.name = s.fullName r.name w.domain := by
        obtain ⟨holder, -, -, rfl⟩ := roleRecord?_eq_some.1 hr
        rfl
      rw [List.filterMap_cons_some hr, List.filter_cons_of_pos (by simp [hr]), List.map_cons,
        List.map_cons, ih, hname]

/-- The aliases of a plan are those of its vlans. -/
theorem map_name_filter_cname : ((s.dnsRecords p).filter (·.type == .cname)).map (·.name) =
    p.vlans.flatMap fun w => (s.aliasLabels w).map fun a => s.fullName a w.domain := by
  have hentry (w : PlannedVlan) (before : List Entry) (e : Entry) :
      ((s.entryRecords w.domain before e).filter (·.type == .cname)).map (·.name) =
        (ownAliases before e).map fun a => s.fullName a w.domain := by
    have haddress : (e.addresses.flatMap (addressRecords (s.fullName e.hostname w.domain))).filter
        (·.type == .cname) = [] := by
      refine List.filter_eq_nil_iff.2 fun t ht => ?_
      obtain ⟨x, -, ht⟩ := List.mem_flatMap.1 ht
      rcases List.mem_pair.1 ht with rfl | rfl
      · cases x <;> simp [IpAddress.recordType]
      · simp
    have haliases : ∀ t ∈ (ownAliases before e).map fun other => ({
        name := s.fullName other w.domain
        type := .cname
        value := s.fullName e.hostname w.domain } : DnsRecord), (t.type == .cname) = true := by
      intro t ht
      obtain ⟨other, -, rfl⟩ := List.mem_map.1 ht
      rfl
    rw [entryRecords, List.filter_append, haddress, List.nil_append, List.filter_eq_self.2 haliases,
      List.map_map]
    rfl
  have hroles (w : PlannedVlan) : ∀ t ∈ (Role.all.filter (· != .generic)).filterMap
      (s.roleRecord? w), (t.type == .cname) = true := by
    intro t ht
    obtain ⟨r, -, ht⟩ := List.mem_filterMap.1 ht
    exact beq_iff_eq.2 (type_of_mem_roleRecord ht)
  rw [dnsRecords, List.filter_flatMap, List.map_flatMap]
  refine List.flatMap_congr fun w _ => ?_
  rw [vlanRecords, List.filter_append, List.map_append, List.filter_eq_self.2 (hroles w),
    map_name_filterMap_roleRecord, aliasLabels, List.map_append, List.filter_flatMap,
    List.map_flatMap, List.map_flatMap, List.map_map]
  simp only [hentry]
  rfl

/-- The names of all other records are those of the published addresses and the
    reverse names of these. -/
theorem forall_others_iff {q : String → Prop} :
    (∀ t ∈ s.dnsRecords p, t.type ≠ .cname → q t.name) ↔
      ∀ x ∈ s.published p, q x.1 ∧ q x.2.reverseName := by
  constructor
  · intro hall x hx
    have htype : (DnsRecord.ofAddress x.1 x.2).type ≠ .cname := by
      cases x.2 <;> simp [DnsRecord.ofAddress, IpAddress.recordType]
    constructor
    · exact hall _ (mem_and_isAddress_iff.2 ⟨x, hx, rfl⟩).1 htype
    · exact hall (.reverseOf x.1 x.2) (mem_and_ptr_iff.2 ⟨x, hx, rfl⟩).1 nofun
  · intro hall t ht hc
    have hkind : t.isAddress = true ∨ t.type = .ptr := by
      cases htype : t.type with
      | cname => exact absurd htype hc
      | _ => simp [DnsRecord.isAddress, htype]
    rcases hkind with hk | hk
    · obtain ⟨x, hx, rfl⟩ := mem_and_isAddress_iff.1 ⟨ht, hk⟩
      exact (hall x hx).1
    · obtain ⟨x, hx, rfl⟩ := mem_and_ptr_iff.1 ⟨ht, hk⟩
      exact (hall x hx).2

/-! ## Compatible records -/

/-- What keeps the records of a plan compatible. -/
structure AliasesApart (s : Site) (p : AddressPlan) : Prop where
  /-- No alias of an entry is the hostname of an entry with addresses behind it. -/
  behind : ∀ w ∈ p.vlans, ∀ before e after, w.entries = before ++ e :: after →
    ∀ a ∈ ownAliases before e, ∀ other ∈ after, other.addresses ≠ [] →
      sameIgnoringCase a other.hostname = false
  /-- Vlans of one domain have no alias in common. -/
  aliases : p.vlans.Pairwise fun v w => sameIgnoringCase v.domain w.domain = true →
    ∀ a ∈ s.aliasLabels v, ∀ b ∈ s.aliasLabels w, sameIgnoringCase a b = false
  /-- Vlans of one domain have no aliases that are hostnames of the other with
      addresses there. -/
  hostnames : ∀ v ∈ p.vlans, ∀ w ∈ p.vlans, v.name ≠ w.name →
    sameIgnoringCase v.domain w.domain = true →
      ∀ a ∈ s.aliasLabels v, ∀ e ∈ w.entries, e.addresses ≠ [] →
        sameIgnoringCase a e.hostname = false
  /-- No alias is the reverse name of an address. -/
  reverse : ∀ w ∈ p.vlans, ∀ a ∈ s.aliasLabels w, ∀ x ∈ s.published p,
    sameIgnoringCase (s.fullName a w.domain) x.2.reverseName = false

section

variable (h : s.findings = []) (hp : p.vlans = s.planVlans)
include h hp

/-- The names of aliases differ if those of vlans with one domain do. -/
theorem pairwise_aliasNames_iff :
    (p.vlans.flatMap fun w => (s.aliasLabels w).map fun a => s.fullName a w.domain).Pairwise
        (fun a b => sameIgnoringCase a b = false) ↔
      p.vlans.Pairwise fun v w => sameIgnoringCase v.domain w.domain = true →
        ∀ a ∈ s.aliasLabels v, ∀ b ∈ s.aliasLabels w, sameIgnoringCase a b = false := by
  have hsame {v w : PlannedVlan} (hv : v ∈ p.vlans) (hw : w ∈ p.vlans) {a b : String}
      (ha : a ∈ s.aliasLabels v) (hb : b ∈ s.aliasLabels w) :
      sameIgnoringCase (s.fullName a v.domain) (s.fullName b w.domain) =
        (sameIgnoringCase a b && sameIgnoringCase v.domain w.domain) := by
    have ha := isHostname_of_mem_aliasLabels h hp hv ha
    have hb := isHostname_of_mem_aliasLabels h hp hw hb
    rw [hp] at hv hw
    exact sameIgnoringCase_fullName h hv hw ha hb
  have hown : ∀ w ∈ p.vlans, ((s.aliasLabels w).map fun a => s.fullName a w.domain).Pairwise
      (fun a b => sameIgnoringCase a b = false) := by
    intro w hw
    refine List.pairwise_map.2 (pairwise_aliasLabels.imp_of_mem fun ha hb hab => ?_)
    rw [hsame hw hw ha hb, hab, Bool.false_and]
  rw [List.pairwise_flatMap, and_iff_right hown]
  refine List.Pairwise.iff_of_mem fun {v w} hv hw => ?_
  simp only [List.forall_mem_map]
  constructor
  · intro hall hd a ha b hb
    have hab := hall a ha b hb
    rwa [hsame hv hw ha hb, hd, Bool.and_true] at hab
  · intro hall a ha b hb
    rw [hsame hv hw ha hb]
    cases hd : sameIgnoringCase v.domain w.domain with
    | false => exact Bool.and_false _
    | true => rw [hall hd a ha b hb, Bool.false_and]

/-- The names of aliases have no addresses if those of one vlan are no hostnames
    behind, and no hostnames on vlans with its domain. -/
theorem forall_published_iff :
    (∀ v ∈ p.vlans, ∀ a ∈ s.aliasLabels v, ∀ x ∈ s.published p,
        sameIgnoringCase (s.fullName a v.domain) x.1 = false) ↔
      (∀ w ∈ p.vlans, ∀ before e after, w.entries = before ++ e :: after →
        ∀ a ∈ ownAliases before e, ∀ other ∈ after, other.addresses ≠ [] →
          sameIgnoringCase a other.hostname = false) ∧
      ∀ v ∈ p.vlans, ∀ w ∈ p.vlans, v.name ≠ w.name →
        sameIgnoringCase v.domain w.domain = true →
          ∀ a ∈ s.aliasLabels v, ∀ e ∈ w.entries, e.addresses ≠ [] →
            sameIgnoringCase a e.hostname = false := by
  have hsame {v w : PlannedVlan} (hv : v ∈ p.vlans) (hw : w ∈ p.vlans) {a : String} {e : Entry}
      (ha : a ∈ s.aliasLabels v) (he : e ∈ w.entries) :
      sameIgnoringCase (s.fullName a v.domain) (s.fullName e.hostname w.domain) =
        (sameIgnoringCase a e.hostname && sameIgnoringCase v.domain w.domain) := by
    have ha := isHostname_of_mem_aliasLabels h hp hv ha
    have he := isHostname_of_mem_planned h hp hw he List.mem_cons_self
    rw [hp] at hv hw
    exact sameIgnoringCase_fullName h hv hw ha he
  constructor
  · intro hall
    have hone {v w : PlannedVlan} (hv : v ∈ p.vlans) (hw : w ∈ p.vlans)
        (hd : sameIgnoringCase v.domain w.domain = true) {a : String} (ha : a ∈ s.aliasLabels v)
        {e : Entry} (he : e ∈ w.entries) (hne : e.addresses ≠ []) :
        sameIgnoringCase a e.hostname = false := by
      obtain ⟨x, hx⟩ := List.exists_mem_of_ne_nil _ hne
      have hx := hall v hv a ha (s.fullName e.hostname w.domain, x)
        (mem_published.2 ⟨w, hw, e, he, hx, rfl⟩)
      rwa [hsame hv hw ha he, hd, Bool.and_true] at hx
    refine ⟨fun w hw => (forall_aliasLabels_iff (s := s)).1 ?_, ?_⟩
    · exact fun a ha e he hne => hone hw hw (sameIgnoringCase_refl _) ha he hne
    · exact fun v hv w hw _ hd a ha e he hne => hone hv hw hd ha he hne
  · rintro ⟨hbehind, hother⟩ v hv a ha ⟨name, x⟩ hx
    obtain ⟨w, hw, e, he, hmem, rfl⟩ := mem_published.1 hx
    have hne : e.addresses ≠ [] := List.ne_nil_of_mem hmem
    rw [hsame hv hw ha he]
    cases hd : sameIgnoringCase v.domain w.domain with
    | false => exact Bool.and_false _
    | true =>
      rw [Bool.and_true]
      by_cases hname : v.name = w.name
      · have hvw : v = w := by
          rw [hp] at hv hw
          exact eq_of_key_eq (nodup_name_planVlans h) hv hw hname
        subst hvw
        exact forall_aliasLabels_iff.2 (hbehind v hv) a ha e he hne
      · exact hother v hv w hw hname hd a ha e he hne

end

/-- **The records of a build plan are compatible** exactly if its aliases stay
    apart: within a vlan from hostnames behind them, among vlans of one domain from
    the aliases and hostnames of each other, and from reverse names.  Within a vlan
    they always stay apart from each other and from hostnames in front, and the
    names of roles from all names of entries. -/
theorem compatible_records {templates : List Template} {plan : BuildPlan}
    (h : s.compile templates = .ok plan) :
    ((s.dnsRecords plan.addresses).Pairwise DnsRecord.Compatible ↔
      s.AliasesApart plan.addresses) ∧ ∀ w ∈ plan.addresses.vlans, s.LabelsApart w := by
  refine ⟨?_, fun w _ => s.labelsApart w⟩
  obtain ⟨hf, hp⟩ := addresses_of_compile h
  have hp := vlans_of_addressPlan hp
  have hothers : (∀ a ∈ plan.addresses.vlans.flatMap fun w =>
        (s.aliasLabels w).map fun a => s.fullName a w.domain,
      ∀ t ∈ s.dnsRecords plan.addresses, t.type ≠ .cname → sameIgnoringCase a t.name = false) ↔
      (∀ v ∈ plan.addresses.vlans, ∀ a ∈ s.aliasLabels v, ∀ x ∈ s.published plan.addresses,
        sameIgnoringCase (s.fullName a v.domain) x.1 = false) ∧
      ∀ v ∈ plan.addresses.vlans, ∀ a ∈ s.aliasLabels v, ∀ x ∈ s.published plan.addresses,
        sameIgnoringCase (s.fullName a v.domain) x.2.reverseName = false := by
    have hname (v : PlannedVlan) (a : String) := forall_others_iff (s := s) (p := plan.addresses)
      (q := fun name => sameIgnoringCase (s.fullName a v.domain) name = false)
    simp only [List.forall_mem_flatMap, List.forall_mem_map]
    constructor
    · intro hall
      constructor
      · exact fun v hv a ha x hx => ((hname v a).1 (hall v hv a ha) x hx).1
      · exact fun v hv a ha x hx => ((hname v a).1 (hall v hv a ha) x hx).2
    · rintro ⟨haddress, hreverse⟩ v hv a ha
      exact (hname v a).2 fun x hx => ⟨haddress v hv a ha x hx, hreverse v hv a ha x hx⟩
  rw [DnsRecord.pairwise_compatible_iff, map_name_filter_cname, pairwise_aliasNames_iff hf hp,
    hothers, forall_published_iff hf hp]
  constructor
  · rintro ⟨haliases, ⟨hbehind, hhostnames⟩, hreverse⟩
    exact ⟨hbehind, haliases, hhostnames, hreverse⟩
  · rintro ⟨hbehind, haliases, hhostnames, hreverse⟩
    exact ⟨haliases, ⟨hbehind, hhostnames⟩, hreverse⟩

/-- A site with two vlans, one of them with a domain of its own.  A static host
    has an alias, and both vlans publish one for the gateway. -/
def zoned : Site where
  name := "home"
  domain := "example.net"
  switches := [{
    name := "sw"
    vlans := [
      { name := "lan", ipv4Subnet := "10.0.0.0/24"
        staticHosts := [{ hostname := "nas", ipv4 := "10.0.0.5", aliases := ["files"] }] },
      { name := "lab", id := some 20, ipv4Subnet := "10.0.1.0/24", domain := "lab.example.net" }] }]
  hosts := [
    { hostname := "gw", roles := [.router], interfaces := [{ uplink := some "wan0" }] },
    { hostname := "ns"
      roles := [.dns]
      interfaces := [{ switch := some "sw", vlan := some (.name "lan"), ipv4 := .fixed "10.0.0.6" }] }]

theorem zoned_compiles : ∃ plan, zoned.compile [] = .ok plan :=
  exists_compile_nil (by with_unfolding_all decide) (by decide) (by with_unfolding_all decide)
    (by decide) (by with_unfolding_all decide) (by decide)

/-- Its records are compatible, so its aliases stay apart. -/
theorem zoned_records : ∃ plan, zoned.compile [] = .ok plan ∧
    (zoned.dnsRecords plan.addresses).Pairwise DnsRecord.Compatible ∧
    zoned.AliasesApart plan.addresses ∧ ∀ w ∈ plan.addresses.vlans, zoned.LabelsApart w := by
  obtain ⟨plan, hplan⟩ := zoned_compiles
  obtain ⟨-, hp⟩ := addresses_of_compile hplan
  obtain ⟨-, -, hplanned⟩ := addressPlan_eq_ok_iff.1 hp
  have hpairs : (zoned.dnsRecords plan.addresses).Pairwise DnsRecord.Compatible := by
    rw [hplanned]
    decide
  obtain ⟨hiff, hlabels⟩ := compatible_records hplan
  exact ⟨plan, hplan, hpairs, hiff.1 hpairs, hlabels⟩

/-- A site with two vlans of one domain, a name server on each, and a host that
    has the alias of a static host for its name. -/
def doubled : Site where
  name := "home"
  domain := "example.net"
  switches := [{
    name := "sw"
    vlans := [
      { name := "lan", ipv4Subnet := "10.0.0.0/24"
        staticHosts := [{ hostname := "nas", ipv4 := "10.0.0.5", aliases := ["files"] }] },
      { name := "lab", id := some 20, ipv4Subnet := "10.0.1.0/24" }] }]
  hosts := [
    { hostname := "gw", roles := [.router], interfaces := [{ uplink := some "wan0" }] },
    { hostname := "files"
      roles := [.dns]
      interfaces := [{ switch := some "sw", vlan := some (.name "lan"), ipv4 := .fixed "10.0.0.6" }] },
    { hostname := "ns"
      roles := [.dns]
      interfaces := [{ switch := some "sw", vlan := some (.name "lab"), ipv4 := .fixed "10.0.1.6" }] }]

theorem doubled_compiles : ∃ plan, doubled.compile [] = .ok plan :=
  exists_compile_nil (by with_unfolding_all decide) (by decide) (by with_unfolding_all decide)
    (by decide) (by with_unfolding_all decide) (by decide)

/-- **A name may have an alias and an address, or two aliases**: the alias of the
    static host is a host behind it, and the name of a role leads to a host on each
    vlan. -/
theorem doubled_records : ∃ plan, doubled.compile [] = .ok plan ∧
    { name := "files.example.net", type := .cname, value := "nas.example.net" } ∈
      doubled.dnsRecords plan.addresses ∧
    { name := "files.example.net", type := .a, value := "10.0.0.6" } ∈
      doubled.dnsRecords plan.addresses ∧
    { name := "dns.example.net", type := .cname, value := "files.example.net" } ∈
      doubled.dnsRecords plan.addresses ∧
    { name := "dns.example.net", type := .cname, value := "ns.example.net" } ∈
      doubled.dnsRecords plan.addresses ∧
    ¬(doubled.dnsRecords plan.addresses).Pairwise DnsRecord.Compatible := by
  obtain ⟨plan, hplan⟩ := doubled_compiles
  obtain ⟨-, hp⟩ := addresses_of_compile hplan
  obtain ⟨-, -, hplanned⟩ := addressPlan_eq_ok_iff.1 hp
  refine ⟨plan, hplan, ?_⟩
  rw [hplanned]
  decide

end Site

end NetworkSite
