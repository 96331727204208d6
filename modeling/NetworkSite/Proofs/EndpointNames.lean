/-
  The names of endpoints.

  A narrowed endpoint is called by its zone, a colon and what it is narrowed
  to.  Within a zone different endpoints have different names
  (`Endpoint.eq_of_zone_eq`).  Names of vlans may have colons themselves, so an
  endpoint may have the name of one in another zone, but only if the name of the
  other zone is that of the one, a colon and more (`Site.agree_of_name_eq`).
-/
import NetworkSite.Proofs.AddressTexts
import NetworkSite.Proofs.Locators
import NetworkSite.Proofs.References

namespace NetworkSite

/-! ## Labels -/

theorem Text.isLabelChar_of_isLabel {cs : List Char} (h : Text.isLabel cs = true) {c : Char}
    (hc : c ∈ cs) : Text.isLabelChar c = true := by
  simp only [Text.isLabel, Bool.and_eq_true, List.all_eq_true] at h
  exact h.1.1.2 c hc

theorem Text.ne_nil_of_isLabel {cs : List Char} (h : Text.isLabel cs = true) : cs ≠ [] := by
  rintro rfl
  cases h

theorem Text.colon_not_mem_of_isHostname {name : String} (h : Text.isHostname name = true) :
    ':' ∉ name.toList :=
  fun hc => absurd (Text.isLabelChar_of_isLabel h hc) (by decide)

theorem Text.plus_not_mem_of_isHostname {name : String} (h : Text.isHostname name = true) :
    '+' ∉ name.toList :=
  fun hc => absurd (Text.isLabelChar_of_isLabel h hc) (by decide)

theorem IpAddress.plus_not_mem_text (a : IpAddress) : '+' ∉ a.text.toList :=
  a.not_mem_text (by decide) (by decide) fun _ => Nat.digitChar_ne '+' (by decide)

theorem IpAddress.toList_text_ne {name : String} (h : Text.isHostname name = true) (a : IpAddress) :
    name.toList ≠ a.text.toList := by
  intro he
  rcases a.exists_mark with hm | hm
  · rw [← he] at hm
    exact absurd (Text.isLabelChar_of_isLabel h hm) (by decide)
  · rw [← he] at hm
    exact absurd (Text.isLabelChar_of_isLabel h hm) (by decide)

/-! ## Zones and what comes after them -/

namespace Endpoint

variable {e f : Endpoint} {p : AddressPlan}

/-- The name after the zone. -/
def tail : Endpoint → List Char
  | vlan _ | internet | firewall => []
  | host _ hostname _ => ':' :: hostname.toList
  | address _ a => ':' :: a.text.toList
  | ipset _ name => ':' :: '+' :: name.toList

theorem toList_name (e : Endpoint) : e.name.toList = e.zone.toList ++ e.tail := by
  cases e <;> simp [name, zone, tail, String.toList_append, toString]

theorem exists_tail (ht : e.tail ≠ []) : e.isNarrowed = true ∧ ∃ cs, e.tail = ':' :: cs := by
  cases e with
  | vlan | internet | firewall => exact absurd rfl ht
  | host | address | ipset => exact ⟨rfl, _, rfl⟩

/-! ## What locators stand for -/

/-- The zone is a vlan of the plan or everything outside. -/
def IsZone (p : AddressPlan) (zone : String) : Prop :=
  zone = internetZone ∨ ∃ w ∈ p.vlans, w.name = zone

/-- What locators stand for under a plan. -/
inductive Denoted (p : AddressPlan) : Endpoint → Prop
  | vlan {w : PlannedVlan} (hw : w ∈ p.vlans) : Denoted p (.vlan w.name)
  | internet : Denoted p .internet
  | firewall : Denoted p .firewall
  | host {w : PlannedVlan} {hostname : String} (hw : w ∈ p.vlans)
      (hlabel : Text.isHostname hostname = true) :
      Denoted p (.host w.name hostname (w.addressesOf hostname))
  | address {zone : String} {a : IpAddress} (hz : IsZone p zone) : Denoted p (.address zone a)
  | ipset {zone name : String} (hz : IsZone p zone) : Denoted p (.ipset zone name)

theorem IsZone.exists_vlan {zone : String} (hz : IsZone p zone) (hc : ':' ∈ zone.toList) :
    ∃ w ∈ p.vlans, w.name = zone := by
  rcases hz with rfl | hw
  · exact absurd hc (by decide)
  · exact hw

/-- The endpoint of a whole zone. -/
def whole (zone : String) : Endpoint :=
  if zone = internetZone then .internet
  else if zone = firewallZone then .firewall
  else .vlan zone

namespace Denoted

theorem isZone_of_ne (he : Denoted p e) (hf : e ≠ .firewall) : IsZone p e.zone := by
  cases he with
  | vlan hw => exact .inr ⟨_, hw, rfl⟩
  | internet => exact .inl rfl
  | firewall => exact absurd rfl hf
  | host hw => exact .inr ⟨_, hw, rfl⟩
  | address hz => exact hz
  | ipset hz => exact hz

theorem isZone (he : Denoted p e) (hn : e.isNarrowed = true) : IsZone p e.zone := by
  refine he.isZone_of_ne ?_
  rintro rfl
  cases hn

theorem exists_vlan (he : Denoted p e) (hc : ':' ∈ e.zone.toList) :
    ∃ w ∈ p.vlans, w.name = e.zone := by
  refine (he.isZone_of_ne ?_).exists_vlan hc
  rintro rfl
  exact absurd hc (by decide)

variable (hf : Denoted p f)

include hf

theorem eq_whole (hfree : ∀ w ∈ p.vlans, w.name ≠ internetZone ∧ w.name ≠ firewallZone)
    (ht : f.tail = []) : f = whole f.zone := by
  cases hf with
  | @vlan w hw =>
    obtain ⟨hi, hf⟩ := hfree w hw
    exact ((if_neg hi).trans (if_neg hf)).symm
  | internet => rfl
  | firewall => rfl
  | host | address | ipset => cases ht

theorem eq_host (hnames : (p.vlans.map (·.name)).Nodup) {w : PlannedVlan} (hw : w ∈ p.vlans)
    {hostname : String} (hlabel : Text.isHostname hostname = true) (hz : f.zone = w.name)
    (ht : f.tail = ':' :: hostname.toList) : f = .host w.name hostname (w.addressesOf hostname) := by
  cases hf with
  | vlan | internet | firewall => cases ht
  | @host w' hostname' hw' =>
    obtain rfl := eq_of_key_eq hnames hw' hw hz
    obtain rfl := String.toList_injective (List.cons.inj ht).2
    rfl
  | @address _ a => exact absurd (List.cons.inj ht).2.symm (a.toList_text_ne hlabel)
  | ipset =>
    refine absurd ?_ (Text.plus_not_mem_of_isHostname hlabel)
    rw [← (List.cons.inj ht).2]
    exact List.mem_cons_self

theorem eq_address {a : IpAddress} (ht : f.tail = ':' :: a.text.toList) : f = .address f.zone a := by
  cases hf with
  | vlan | internet | firewall => cases ht
  | host _ hlabel => exact absurd (List.cons.inj ht).2 (a.toList_text_ne hlabel)
  | address =>
    obtain rfl := IpAddress.text_inj (String.toList_injective (List.cons.inj ht).2)
    rfl
  | ipset =>
    refine absurd ?_ a.plus_not_mem_text
    rw [← (List.cons.inj ht).2]
    exact List.mem_cons_self

theorem eq_ipset {name : String} (ht : f.tail = ':' :: '+' :: name.toList) :
    f = .ipset f.zone name := by
  cases hf with
  | vlan | internet | firewall => cases ht
  | host _ hlabel =>
    refine absurd ?_ (Text.plus_not_mem_of_isHostname hlabel)
    rw [(List.cons.inj ht).2]
    exact List.mem_cons_self
  | @address _ a =>
    refine absurd ?_ a.plus_not_mem_text
    rw [(List.cons.inj ht).2]
    exact List.mem_cons_self
  | ipset =>
    obtain rfl := String.toList_injective (List.cons.inj (List.cons.inj ht).2).2
    rfl

end Denoted

/-- **In a zone different endpoints have different names**, if the names of
    vlans are different and none is that of another zone. -/
theorem eq_of_zone_eq (hnames : (p.vlans.map (·.name)).Nodup)
    (hfree : ∀ w ∈ p.vlans, w.name ≠ internetZone ∧ w.name ≠ firewallZone) (he : Denoted p e)
    (hf : Denoted p f) (hz : e.zone = f.zone) (ht : e.tail = f.tail) : e = f := by
  by_cases hwhole : e.tail = []
  · rw [he.eq_whole hfree hwhole, hf.eq_whole hfree (ht ▸ hwhole), hz]
  · cases he with
    | vlan | internet | firewall => exact absurd rfl hwhole
    | host hw hlabel => exact (hf.eq_host hnames hw hlabel hz.symm ht.symm).symm
    | address =>
      rw [hf.eq_address ht.symm, ← hz]
      rfl
    | ipset =>
      rw [hf.eq_ipset ht.symm, ← hz]
      rfl

/-! ## Endpoints of one name -/

/-- What an endpoint is narrowed to is no name of another one after its zone. -/
theorem Denoted.tail_ne (he : Denoted p e) (hf : Denoted p f) : e.tail ≠ ':' :: f.tail := by
  intro ht
  cases he with
  | vlan | internet | firewall => cases ht
  | host _ hlabel =>
    have hname := (List.cons.inj ht).2
    by_cases hwhole : f.tail = []
    · exact Text.ne_nil_of_isLabel hlabel (hname.trans hwhole)
    · obtain ⟨-, cs, hcs⟩ := exists_tail hwhole
      refine Text.colon_not_mem_of_isHostname hlabel ?_
      rw [hname, hcs]
      exact List.mem_cons_self
  | @address _ a =>
    have hname := (List.cons.inj ht).2
    cases hf with
    | vlan | internet | firewall =>
      rcases a.exists_mark with hm | hm
      all_goals
        rw [hname] at hm
        cases hm
    | host _ hlabel =>
      obtain ⟨rest, hrest, -⟩ := IpAddress.exists_of_text_eq_cons hname
      refine Text.colon_not_mem_of_isHostname hlabel ?_
      rw [hrest]
      exact List.mem_cons_self
    | address =>
      obtain ⟨rest, hrest, hhead⟩ := IpAddress.exists_of_text_eq_cons hname
      obtain ⟨more, rfl, -⟩ := IpAddress.exists_of_text_eq_cons hrest
      exact hhead rfl
    | ipset =>
      obtain ⟨rest, hrest, -⟩ := IpAddress.exists_of_text_eq_cons hname
      exact absurd (List.cons.inj hrest).1 (by decide)
  | ipset =>
    cases hf with
    | vlan | internet | firewall => cases ht
    | host | address | ipset => exact absurd (List.cons.inj (List.cons.inj ht).2).1 (by decide)

/-- The endpoint is narrowed, and the name of the other zone is that of its zone,
    a colon and more. -/
def Shadows (e f : Endpoint) : Prop :=
  e.isNarrowed = true ∧ ∃ rest, rest ≠ "" ∧ f.zone = e.zone ++ ":" ++ rest

/-- The endpoints are the same, or one is in the shadow of the other. -/
def Agree (e f : Endpoint) : Prop :=
  e = f ∨ e.Shadows f ∨ f.Shadows e

theorem shadows_of_append (he : Denoted p e) (hf : Denoted p f) {gap : List Char} (hgap : gap ≠ [])
    (hz : f.zone.toList = e.zone.toList ++ gap) (ht : e.tail = gap ++ f.tail) : e.Shadows f := by
  obtain ⟨c, rest, rfl⟩ := List.exists_cons_of_ne_nil hgap
  obtain ⟨hn, cs, htail⟩ := exists_tail (e := e) (by rw [ht]; exact nofun)
  obtain rfl : ':' = c := by
    rw [htail, List.cons_append] at ht
    exact (List.cons.inj ht).1
  refine ⟨hn, String.ofList rest, fun hnil => ?_, String.toList_injective ?_⟩
  · obtain rfl : rest = [] := by simpa using congrArg String.toList hnil
    exact he.tail_ne hf ht
  · rw [hz]
    simp

/-- With one name, the zones are the same or one endpoint is in the shadow of
    the other. -/
theorem zone_eq_or_shadows (he : Denoted p e) (hf : Denoted p f) (hn : e.name = f.name) :
    e.zone = f.zone ∨ e.Shadows f ∨ f.Shadows e := by
  have hchars := congrArg String.toList hn
  rw [toList_name, toList_name] at hchars
  by_cases hz : e.zone = f.zone
  · exact .inl hz
  · right
    rcases List.append_eq_append_iff.1 hchars with ⟨gap, hzone, htail⟩ | ⟨gap, hzone, htail⟩
    · refine .inl (shadows_of_append he hf ?_ hzone htail)
      rintro rfl
      exact hz (String.toList_injective (by rw [hzone, List.append_nil]))
    · refine .inr (shadows_of_append hf he ?_ hzone htail)
      rintro rfl
      exact hz (String.toList_injective (by rw [hzone, List.append_nil]))

end Endpoint

/-! ## Hostnames are labels -/

namespace Site

open Finding

variable {s : Site} {p : AddressPlan} {x : Switch × Vlan} {w : PlannedVlan} {e : Entry}

theorem isHostname_of_mem_hosts (h : s.findings = []) {host : Host} (hh : host ∈ s.hosts) :
    Text.isHostname host.hostname = true := by
  have hf := (findings_eq_nil.1 h).2.2.2.1
  rw [hostFindings, List.append_eq_nil_iff, List.flatMap_eq_nil_iff] at hf
  obtain ⟨before, hb⟩ := exists_mem_withEarlier hh
  have hown := hf.1 _ hb
  simp only [Host.ownFindings, List.append_eq_nil_iff, require_eq_nil] at hown
  exact hown.1.1.1

theorem aliasFindings_eq_nil {place : Place} {name : String} :
    aliasFindings place name = [] ↔ Text.isHostname name = true ∧ Role.isName name = false := by
  unfold aliasFindings
  cases Text.isHostname name <;> simp

theorem isHostname_of_mem_hostAliases (h : s.findings = []) {host : Host} (hh : host ∈ s.hosts)
    {name : String} (hn : name ∈ host.aliases) :
    Text.isHostname name = true ∧ Role.isName name = false := by
  have hf := (findings_eq_nil.1 h).2.2.2.1
  rw [hostFindings, List.append_eq_nil_iff, List.flatMap_eq_nil_iff] at hf
  obtain ⟨before, hb⟩ := exists_mem_withEarlier hh
  have hown := hf.1 _ hb
  simp only [Host.ownFindings, List.append_eq_nil_iff, List.flatMap_eq_nil_iff,
    aliasFindings_eq_nil] at hown
  exact hown.1.2 name hn

theorem isHostname_of_entryAliasFindings {place : Place} {v : Vlan} {taken aliases : List String}
    (h : entryAliasFindings place v taken aliases = []) :
    ∀ name ∈ aliases, Text.isHostname name = true ∧ Role.isName name = false := by
  induction aliases generalizing taken with
  | nil => simp
  | cons first rest ih =>
    simp only [entryAliasFindings, List.append_eq_nil_iff, aliasFindings_eq_nil] at h
    exact List.forall_mem_cons.2 ⟨h.1.1, ih h.2⟩

theorem isHostname_of_mem_aliases (h : s.findings = []) (hx : x ∈ s.vlans) (he : e ∈ x.2.entries)
    {name : String} (hn : name ∈ e.aliases) :
    Text.isHostname name = true ∧ Role.isName name = false := by
  obtain ⟨place, taken, hf⟩ := exists_entryFindings_eq_nil h hx he
  simp only [entryFindings, List.append_eq_nil_iff] at hf
  exact isHostname_of_entryAliasFindings hf.2 name hn

theorem isHostname_of_mem_names (h : s.findings = []) (hx : x ∈ s.vlans) (he : e ∈ x.2.entries)
    {name : String} (hn : name ∈ e.hostname :: e.aliases) : Text.isHostname name = true := by
  rcases List.mem_cons.1 hn with rfl | hn
  · obtain ⟨place, taken, hf⟩ := exists_entryFindings_eq_nil h hx he
    simp only [entryFindings, List.append_eq_nil_iff, require_eq_nil] at hf
    exact hf.1.1
  · exact (isHostname_of_mem_aliases h hx he hn).1

/-- The names of all entries of a plan are labels. -/
theorem isHostname_of_mem_planned (h : s.findings = []) (hv : p.vlans = s.planVlans)
    (hw : w ∈ p.vlans) (he : e ∈ w.entries) {name : String} (hn : name ∈ e.hostname :: e.aliases) :
    Text.isHostname name = true := by
  rw [hv] at hw
  obtain ⟨x, hx, w, ho, rfl⟩ := exists_of_mem_planVlans h hw
  rcases (mem_entries_completeVlan ho).1 he with
    ⟨-, router, hr, rfl⟩ | he | ⟨host, hh, i, -, -, he⟩
  · rcases List.mem_cons.1 hn with rfl | hn
    · exact isHostname_of_mem_hosts h (mem_hosts_of_router? hr)
    · rw [List.mem_singleton.1 hn]
      decide
  · exact isHostname_of_mem_names h hx he hn
  · obtain ⟨hname, haliases⟩ := PlannedVlan.names_of_interfaceEntry? he
    rw [hname, haliases, List.mem_singleton] at hn
    rw [hn]
    exact isHostname_of_mem_hosts h hh

theorem isHostname_of_hostnameOf? (h : s.findings = []) (hv : p.vlans = s.planVlans)
    (hw : w ∈ p.vlans) {name hostname : String} (hn : w.hostnameOf? s p name = some hostname) :
    Text.isHostname hostname = true := by
  unfold PlannedVlan.hostnameOf? at hn
  split at hn
  next e he =>
    obtain rfl := Option.some.inj hn
    exact isHostname_of_mem_planned h hv hw (List.mem_of_find?_eq_some he) List.mem_cons_self
  next =>
    obtain ⟨host, hfound, rfl⟩ := Option.map_eq_some_iff.1 hn
    obtain ⟨g, -, hg⟩ := List.mem_filterMap.1 (List.mem_of_find?_eq_some hfound)
    exact isHostname_of_mem_hosts h (List.mem_of_find?_eq_some hg)

end Site

/-! ## Locators -/

namespace Locator

open Endpoint

variable {s : Site} {p : AddressPlan} {l : Locator}

theorem IsOn.mem {w : PlannedVlan} (hw : l.IsOn s p w) : w ∈ p.vlans := by
  obtain ⟨ref, x, -, -, hw⟩ := hw
  exact List.mem_of_find?_eq_some hw

theorem IsIn.denoted {zone : String} {whole : Endpoint} (hz : l.IsIn s p zone whole) :
    IsZone p zone ∧ Denoted p whole := by
  cases hz with
  | internet => exact ⟨.inl rfl, .internet⟩
  | vlan hw => exact ⟨.inr ⟨_, hw.mem, rfl⟩, .vlan hw.mem⟩

theorem Narrows.denoted {zone : String} (hz : IsZone p zone) {e : Endpoint}
    (he : l.Narrows s zone e) : Denoted p e := by
  cases he with
  | ipset => exact .ipset hz
  | address => exact .address hz

theorem StandsFor.denoted (h : s.findings = []) (hv : p.vlans = s.planVlans) {e : SideEndpoint}
    (he : l.StandsFor s p e) : Denoted p e.endpoint := by
  cases standsFor_iff.1 he with
  | routable _ hw => exact .vlan hw
  | firewall => exact .firewall
  | whole hz => exact hz.denoted.2
  | narrowed hz hl => exact hl.denoted hz.denoted.1
  | host hw _ hn => exact .host hw.mem (Site.isHostname_of_hostnameOf? h hv hw.mem hn)

end Locator

namespace Site

open Endpoint

variable {s : Site} {p : AddressPlan} {e f : Endpoint}

theorem nodup_name_planVlans (h : s.findings = []) : (s.planVlans.map (·.name)).Nodup := by
  rw [planVlans_eq h, List.map_map]
  exact nodup_name_outlines h

theorem exists_of_name_planVlans (h : s.findings = []) {w : PlannedVlan} (hw : w ∈ s.planVlans) :
    ∃ x ∈ s.vlans, w.name = x.2.name := by
  obtain ⟨x, hx, w, ho, rfl⟩ := exists_of_mem_planVlans h hw
  exact ⟨x, hx, name_completeVlan ho⟩

theorem eq_internetZone_or_of_isZone (h : s.findings = []) (hv : p.vlans = s.planVlans) {zone : String}
    (hz : IsZone p zone) : zone = internetZone ∨ ∃ x ∈ s.vlans, x.2.name = zone := by
  refine hz.imp_right ?_
  rintro ⟨w, hw, rfl⟩
  rw [hv] at hw
  obtain ⟨x, hx, hname⟩ := exists_of_name_planVlans h hw
  exact ⟨x, hx, hname.symm⟩

theorem name_ne_of_mem_vlans (h : s.findings = []) {x : Switch × Vlan} (hx : x ∈ s.vlans) :
    x.2.name ≠ internetZone ∧ x.2.name ≠ firewallZone := by
  have hr := isReservedName_eq_false h hx
  constructor
  · intro he
    rw [he] at hr
    exact absurd hr (by decide)
  · intro he
    rw [he] at hr
    exact absurd hr (by decide)

theorem name_ne_of_mem_planVlans (h : s.findings = []) {w : PlannedVlan} (hw : w ∈ s.planVlans) :
    w.name ≠ internetZone ∧ w.name ≠ firewallZone := by
  obtain ⟨x, hx, hname⟩ := exists_of_name_planVlans h hw
  rw [hname]
  exact name_ne_of_mem_vlans h hx

/-- **Endpoints with one name** are the same, or the name of the zone of the one
    and a colon begin that of the other. -/
theorem agree_of_name_eq (h : s.findings = []) (hv : p.vlans = s.planVlans) (he : Denoted p e)
    (hf : Denoted p f) (hn : e.name = f.name) : e.Agree f := by
  rcases zone_eq_or_shadows he hf hn with hz | hs
  · have htail := congrArg String.toList hn
    rw [toList_name, toList_name, hz, List.append_cancel_left_eq] at htail
    refine .inl (eq_of_zone_eq ?_ (fun w hw => ?_) he hf hz htail)
    · rw [hv]
      exact nodup_name_planVlans h
    · rw [hv] at hw
      exact name_ne_of_mem_planVlans h hw
  · exact .inr hs

end Site

end NetworkSite
