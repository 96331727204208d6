/-
  The names in DNS records.

  A full name is made of valid labels with dots between them.  Reverse names are,
  and so are a label and a domain with a dot between them, if the domain is.  But a
  domain passes the check with dots at its end as well, which do not count there and
  stay in the records: the records of a vlan are well formed exactly if its domain
  does not end in a dot (`Site.record_names`, `Site.dotted_records`).
-/
import NetworkSite.Proofs.AliasTargets

namespace NetworkSite

/-! ## Full names -/

namespace Text

variable {cs front back : List Char}

/-- Valid labels with dots between them. -/
def isFullName (cs : List Char) : Bool :=
  (split (· == '.') cs).all isLabel

theorem isFullName_iff : isFullName cs = true ↔ ∃ labels : List (List Char), labels ≠ [] ∧
    (∀ label ∈ labels, isLabel label = true) ∧ cs = join ['.'] labels := by
  rw [isFullName, List.all_eq_true]
  constructor
  · intro h
    exact ⟨_, split_ne_nil _ cs, h, (join_split '.' cs).symm⟩
  · rintro ⟨labels, hne, hlabels, rfl⟩
    rwa [split_join hne fun label hl => dot_not_mem_of_isLabel (hlabels label hl)]

theorem isFullName_of_isLabel (h : isLabel cs = true) : isFullName cs = true :=
  isFullName_iff.2 ⟨[cs], List.cons_ne_nil _ _, by simpa using h, rfl⟩

theorem isFullName_append :
    isFullName (front ++ '.' :: back) = (isFullName front && isFullName back) := by
  rw [isFullName, split_append (p := (· == '.')) rfl, List.all_append]
  rfl

theorem getLast?_ne_of_isFullName (h : isFullName cs = true) : cs.getLast? ≠ some '.' := by
  intro hdot
  obtain ⟨front, rfl⟩ := List.getLast?_eq_some_iff.1 hdot
  rw [isFullName_append] at h
  simp [isFullName, split, isLabel] at h

theorem dropLastDots_eq_self (h : cs.getLast? ≠ some '.') : dropLastDots cs = cs := by
  rw [List.getLast?_eq_head?_reverse] at h
  rw [dropLastDots, List.reverse_eq_iff]
  cases hcs : cs.reverse with
  | nil => rfl
  | cons c rest =>
    rw [hcs] at h
    rw [List.dropWhile_cons_of_neg]
    simpa using h

theorem dropLastDots_append (h : dropLastDots back ≠ []) :
    dropLastDots (front ++ back) = front ++ dropLastDots back := by
  unfold dropLastDots at h ⊢
  rw [ne_eq, List.reverse_eq_nil_iff] at h
  rw [List.reverse_append, List.dropWhile_append, if_neg (by simpa using h), List.reverse_append,
    List.reverse_reverse]

theorem isFullName_dropLastDots {d : String} (h : isDomain d = true) (hne : d ≠ "") :
    isFullName (dropLastDots d.toList) = true := by
  rw [isDomain, Bool.or_eq_true] at h
  exact h.resolve_left (by simpa using hne)

section

variable {a d : String} (ha : isHostname a = true) (hd : isDomain d = true) (hne : d ≠ "")
include ha hd hne

theorem isFullName_in_domain :
    isFullName (a ++ "." ++ d).toList = true ↔ d.toList.getLast? ≠ some '.' := by
  have hlist : (a ++ "." ++ d).toList = a.toList ++ '.' :: d.toList := by simp
  rw [hlist, isFullName_append, isFullName_of_isLabel ha, Bool.true_and]
  constructor
  · exact getLast?_ne_of_isFullName
  · intro hdot
    rw [← dropLastDots_eq_self hdot]
    exact isFullName_dropLastDots hd hne

theorem isFullName_dropLastDots_in_domain :
    isFullName (dropLastDots (a ++ "." ++ d).toList) = true := by
  have hcore := isFullName_dropLastDots hd hne
  have hnil : dropLastDots d.toList ≠ [] := by
    intro hnil
    rw [hnil] at hcore
    cases hcore
  have hlist : (a ++ "." ++ d).toList = (a.toList ++ ['.']) ++ d.toList := by simp
  rw [hlist, dropLastDots_append hnil, List.append_assoc, List.singleton_append, isFullName_append,
    isFullName_of_isLabel ha, hcore]
  rfl

end

end Text

/-! ## Reverse names -/

theorem Family.isLabel_label (f : Family) (n : Nat) : Text.isLabel (f.label n) = true := by
  cases f with
  | v4 =>
    have hoctets : ∀ k < 256, Text.isLabel (Text.decimal k) = true := by decide +kernel
    exact hoctets _ (Nat.mod_lt n (by decide))
  | v6 =>
    have hdigits : ∀ k < 16, Text.isLabel [Nat.digitChar k] = true := by decide
    exact hdigits _ (Nat.mod_lt n (by decide))

/-- **Reverse names are full names.** -/
theorem IpAddress.isFullName_reverseName (a : IpAddress) :
    Text.isFullName a.reverseName.toList = true := by
  have hlabels {f : Family} (a : Address f) : a.reverseLabels ≠ [] ∧
      ∀ label ∈ a.reverseLabels, Text.isLabel label = true := by
    rw [a.reverseLabels_eq]
    refine ⟨by cases f <;> simp [Family.labelCount], fun label hl => ?_⟩
    obtain ⟨k, -, rfl⟩ := List.mem_map.1 hl
    exact f.isLabel_label _
  have hname {f : Family} (a : Address f) : Text.isFullName a.reverseName.toList = true := by
    obtain ⟨hne, hall⟩ := hlabels a
    have hroot : Text.isFullName f.reverseRoot = true := by cases f <;> decide
    rw [Address.reverseName, String.toList_ofList,
      Text.join_append (by simpa using hne) (List.cons_ne_nil _ _), List.append_assoc,
      List.singleton_append, Text.isFullName_append, Text.join, hroot, Bool.and_true]
    exact Text.isFullName_iff.2 ⟨_, by simpa using hne, fun label hl => hall label (by simpa using hl),
      rfl⟩
  cases a with
  | v4 a => exact hname a
  | v6 a => exact hname a

/-! ## Records -/

/-- The name of the record is a full name, and so is the name that it leads to. -/
structure DnsRecord.IsWellFormed (t : DnsRecord) : Prop where
  name : Text.isFullName t.name.toList = true
  target : t.type = .cname ∨ t.type = .ptr → Text.isFullName t.value.toList = true

/-- The names are full names, if dots at the end do not count. -/
structure DnsRecord.IsWellFormedUpToDots (t : DnsRecord) : Prop where
  name : Text.isFullName (Text.dropLastDots t.name.toList) = true
  target : t.type = .cname ∨ t.type = .ptr →
    Text.isFullName (Text.dropLastDots t.value.toList) = true

namespace Site

open Text Finding

variable {s : Site} {p : AddressPlan} {w : PlannedVlan} {a : String} {t : DnsRecord}

theorem isDomain_of_mem_planVlans (h : s.findings = []) (hw : w ∈ s.planVlans) :
    isDomain w.domain = true := by
  obtain ⟨x, hx, w, ho, rfl⟩ := exists_of_mem_planVlans h hw
  change isDomain w.domain = true
  rw [domain_of_vlanOutline? ho]
  unfold domainOf
  split
  · have hown := (findings_eq_nil.1 h).1
    rwa [ownFindings, require_eq_nil] at hown
  · have hf := domainFindings_eq_nil h hx
    unfold Vlan.domainFindings at hf
    split at hf
    · cases hf
    next hd => simpa using hd

/-- A name on a vlan is a full name if the domain does not end in a dot; dots at
    the end do not count, it always is. -/
theorem isFullName_fullName (h : s.findings = []) (hw : w ∈ s.planVlans)
    (ha : isHostname a = true) :
    (isFullName (s.fullName a w.domain).toList = true ↔ w.domain.toList.getLast? ≠ some '.') ∧
      isFullName (dropLastDots (s.fullName a w.domain).toList) = true := by
  rw [fullName_eq h hw]
  split
  next hd =>
    have hlabel : isFullName a.toList = true := isFullName_of_isLabel ha
    rw [dropLastDots_eq_self (getLast?_ne_of_isFullName hlabel), hd]
    exact ⟨iff_of_true hlabel nofun, hlabel⟩
  next hd =>
    have hdomain := isDomain_of_mem_planVlans h hw
    exact ⟨isFullName_in_domain ha hdomain hd, isFullName_dropLastDots_in_domain ha hdomain hd⟩

/-- What the names of a record are made of: labels in the domain of its vlan, except
    for reverse names. -/
structure IsNamedOn (s : Site) (w : PlannedVlan) (t : DnsRecord) : Prop where
  own : t.type ≠ .ptr → ∃ a, isHostname a = true ∧ t.name = s.fullName a w.domain
  reverse : t.type = .ptr → ∃ a : IpAddress, t.name = a.reverseName
  target : t.type = .cname ∨ t.type = .ptr →
    ∃ a, isHostname a = true ∧ t.value = s.fullName a w.domain

theorem IsNamedOn.of_cname (hc : t.type = .cname)
    (hname : ∃ a, isHostname a = true ∧ t.name = s.fullName a w.domain)
    (hvalue : ∃ a, isHostname a = true ∧ t.value = s.fullName a w.domain) : s.IsNamedOn w t := by
  refine ⟨fun _ => hname, fun hptr => ?_, fun _ => hvalue⟩
  rw [hc] at hptr
  cases hptr

theorem isNamedOn_of_mem_vlanRecords (h : s.findings = []) (hp : p.vlans = s.planVlans)
    (hw : w ∈ p.vlans) (ht : t ∈ s.vlanRecords w) : s.IsNamedOn w t := by
  rcases mem_vlanRecords.1 ht with
    ⟨e, he, a, -, ht⟩ | ⟨before, e, hb, a, ha, rfl⟩ | ⟨r, -, hr⟩
  · have hlabel := isHostname_of_mem_planned h hp hw he List.mem_cons_self
    rcases List.mem_pair.1 ht with rfl | rfl
    · refine ⟨fun _ => ⟨_, hlabel, rfl⟩, ?_, ?_⟩ <;> cases a <;> simp [IpAddress.recordType]
    · exact ⟨fun hne => absurd rfl hne, fun _ => ⟨a, rfl⟩, fun _ => ⟨_, hlabel, rfl⟩⟩
  · obtain ⟨back, hentries⟩ := mem_withEarlier.1 hb
    have he : e ∈ w.entries := by simp [hentries]
    have hown := isHostname_of_mem_aliasLabels h hp hw
      (mem_aliasLabels.2 (.inl ⟨before, e, back, hentries, ha⟩))
    have hlabel := isHostname_of_mem_planned h hp hw he List.mem_cons_self
    exact .of_cname rfl ⟨_, hown, rfl⟩ ⟨_, hlabel, rfl⟩
  · obtain ⟨holder, hholder, -, rfl⟩ := roleRecord?_eq_some.1 hr
    have hrole : isHostname r.name = true := by cases r <;> decide
    have hmem : holder ∈ s.hosts := List.mem_of_mem_filter (List.mem_of_find?_eq_some hholder)
    exact .of_cname rfl ⟨_, hrole, rfl⟩ ⟨_, isHostname_of_mem_hosts h hmem, rfl⟩

theorem IsNamedOn.isFullName_of_ptr (ht : s.IsNamedOn w t) (hptr : t.type = .ptr) :
    isFullName t.name.toList = true := by
  obtain ⟨a, hname⟩ := ht.reverse hptr
  rw [hname]
  exact a.isFullName_reverseName

/-- A record of a vlan is well formed exactly if the domain does not end in a dot. -/
theorem IsNamedOn.isWellFormed_iff (h : s.findings = []) (hw : w ∈ s.planVlans)
    (ht : s.IsNamedOn w t) : t.IsWellFormed ↔ w.domain.toList.getLast? ≠ some '.' := by
  constructor
  · intro hwell
    by_cases hptr : t.type = .ptr
    · obtain ⟨a, ha, hvalue⟩ := ht.target (.inr hptr)
      have hfull := hwell.target (.inr hptr)
      rw [hvalue] at hfull
      exact (isFullName_fullName h hw ha).1.1 hfull
    · obtain ⟨a, ha, hname⟩ := ht.own hptr
      have hfull := hwell.name
      rw [hname] at hfull
      exact (isFullName_fullName h hw ha).1.1 hfull
  · intro hdot
    refine ⟨?_, fun htype => ?_⟩
    · by_cases hptr : t.type = .ptr
      · exact ht.isFullName_of_ptr hptr
      · obtain ⟨a, ha, hname⟩ := ht.own hptr
        rw [hname]
        exact (isFullName_fullName h hw ha).1.2 hdot
    · obtain ⟨a, ha, hvalue⟩ := ht.target htype
      rw [hvalue]
      exact (isFullName_fullName h hw ha).1.2 hdot

theorem IsNamedOn.isWellFormedUpToDots (h : s.findings = []) (hw : w ∈ s.planVlans)
    (ht : s.IsNamedOn w t) : t.IsWellFormedUpToDots := by
  refine ⟨?_, fun htype => ?_⟩
  · by_cases hptr : t.type = .ptr
    · have hfull := ht.isFullName_of_ptr hptr
      rwa [dropLastDots_eq_self (getLast?_ne_of_isFullName hfull)]
    · obtain ⟨a, ha, hname⟩ := ht.own hptr
      rw [hname]
      exact (isFullName_fullName h hw ha).2
  · obtain ⟨a, ha, hvalue⟩ := ht.target htype
    rw [hvalue]
    exact (isFullName_fullName h hw ha).2

variable {templates : List Template} {plan : BuildPlan}

/-- **Which records are well formed.**  A record comes from a vlan, and its names are
    full names up to the dots at their ends.  It has no such dots exactly if the
    domain of the vlan has none; reverse names never have any. -/
theorem record_names (h : s.compile templates = .ok plan)
    (ht : t ∈ s.dnsRecords plan.addresses) :
    ∃ w ∈ plan.addresses.vlans, t ∈ s.vlanRecords w ∧ t.IsWellFormedUpToDots ∧
      (t.IsWellFormed ↔ w.domain.toList.getLast? ≠ some '.') ∧
      (t.type = .ptr → isFullName t.name.toList = true) := by
  obtain ⟨hf, hp⟩ := addresses_of_compile h
  have hvlans := vlans_of_addressPlan hp
  obtain ⟨w, hw, ht⟩ := List.mem_flatMap.1 ht
  have hnamed := isNamedOn_of_mem_vlanRecords hf hvlans hw ht
  refine ⟨w, hw, ht, ?_⟩
  rw [hvlans] at hw
  exact ⟨hnamed.isWellFormedUpToDots hf hw, hnamed.isWellFormed_iff hf hw, hnamed.isFullName_of_ptr⟩

/-- The alias of a static host is a record with full names. -/
theorem zoned_record_names : ∃ plan t, zoned.compile [] = .ok plan ∧
    t ∈ zoned.dnsRecords plan.addresses ∧ t.name = "files.example.net" ∧ t.IsWellFormed := by
  obtain ⟨plan, hplan⟩ := zoned_compiles
  have hdomains : ∀ w ∈ plan.addresses.vlans, w.domain.toList.getLast? ≠ some '.' := by
    rw [addresses_eq_of_compile hplan]
    decide
  obtain ⟨t, ht, hname⟩ : ∃ t ∈ zoned.dnsRecords plan.addresses, t.name = "files.example.net" := by
    rw [addresses_eq_of_compile hplan]
    decide
  obtain ⟨w, hw, -, -, hwell, -⟩ := record_names hplan ht
  exact ⟨plan, t, hplan, ht, hname, hwell.2 (hdomains w hw)⟩

/-- A site whose domain ends in a dot. -/
def dotted : Site where
  name := "home"
  domain := "example.net."
  switches := [{
    name := "sw"
    vlans := [{ name := "lan", ipv4Subnet := "10.0.0.0/24" }] }]
  hosts := [
    { hostname := "nas", interfaces := [{ switch := some "sw", ipv4 := .fixed "10.0.0.6" }] }]

theorem dotted_compiles : ∃ plan, dotted.compile [] = .ok plan :=
  exists_compile_nil (by with_unfolding_all decide) (by decide) (by with_unfolding_all decide)
    (by decide) (by with_unfolding_all decide) (by decide)

/-- **Names may end in a dot**: that of the host and the one to which its address
    leads back. -/
theorem dotted_records : ∃ plan, dotted.compile [] = .ok plan ∧
    ∀ t ∈ ([
        { name := "nas.example.net.", type := .a, value := "10.0.0.6" },
        { name := "6.0.0.10.in-addr.arpa", type := .ptr, value := "nas.example.net." }] :
          List DnsRecord),
      t ∈ dotted.dnsRecords plan.addresses ∧ ¬t.IsWellFormed := by
  obtain ⟨plan, hplan⟩ := dotted_compiles
  refine ⟨plan, hplan, fun t ht => ⟨?_, fun hwell => ?_⟩⟩
  · rw [addresses_eq_of_compile hplan]
    revert t
    decide
  · have hname : isFullName "nas.example.net.".toList = false := by decide
    rcases List.mem_pair.1 ht with rfl | rfl
    · exact absurd (hname.symm.trans hwell.name) nofun
    · exact absurd (hname.symm.trans (hwell.target (.inr rfl))) nofun

end Site

end NetworkSite
