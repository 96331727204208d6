/-
  Sites, written and read back.

  What is read as a host, a rule or a site is written as a document that is read
  as the same value, whichever way the first document spelled it
  (`values_readBack`).  Lease times are left out there on both sides; of any site
  the document without them is read as the site with the default ones
  (`Site.ofDocument?_toDocument`).
-/
import NetworkSite.Proofs.Decoders
import Mathlib.Data.List.DropRight

namespace NetworkSite

open Decode Document

/-! ## Names, references and modes -/

theorem VlanRef.readsBack : ReadsBack ofDocument? toDocument := by
  intro d ref h
  unfold ofDocument? at h
  obtain ⟨e, -, h⟩ := Option.bind_eq_some_iff.1 h
  split at h
  next => cases h; rfl
  next =>
    obtain ⟨n, hn, rfl⟩ := Option.map_eq_some_iff.1 h
    exact congrArg (Option.map id) (readsBack_natural 16 hn)

theorem VlanRef.settled_toDocument (ref : VlanRef) : ref.toDocument.Settled := by
  cases ref <;> rfl

theorem VlanRef.nullable_toDocument (ref : VlanRef) :
    nullable ofDocument? ref.toDocument = (ofDocument? ref.toDocument).map some := by
  cases ref <;> rfl

theorem VlanRef.ofDocument?_list (items : List Document) : ofDocument? (.list items) = none := by
  unfold ofDocument?
  rw [resolve?]
  cases resolveItems? items <;> rfl

theorem Role.readsBack : ReadsBack ofDocument? toDocument := by
  intro d role _
  cases role <;> rfl

theorem Role.settled_toDocument (role : Role) : role.toDocument.Settled :=
  settled_text role.name

/-- White space that is trimmed away is trimmed away at once. -/
theorem Text.trim_trim (s : String) : trim (trim s) = trim s := by
  have htrim : ∀ cs, trimChars cs = (cs.dropWhile isBlank).rdropWhile isBlank := fun _ => rfl
  have hfront : ∀ cs : List Char, ((cs.dropWhile isBlank).rdropWhile isBlank).dropWhile isBlank =
      (cs.dropWhile isBlank).rdropWhile isBlank := by
    intro cs
    -- What is left begins like the text without white space in front.
    obtain ⟨blanks, hsplit⟩ := List.rdropWhile_prefix isBlank (cs.dropWhile isBlank)
    cases hleft : (cs.dropWhile isBlank).rdropWhile isBlank with
    | nil => rfl
    | cons c rest =>
      rw [hleft] at hsplit
      refine List.dropWhile_cons_of_neg ?_
      have hhead := List.head?_dropWhile_not isBlank cs
      rw [← hsplit] at hhead
      simpa using hhead
  have hchars : ∀ cs, trimChars (trimChars cs) = trimChars cs := fun cs => by
    rw [htrim, htrim, hfront, List.rdropWhile_idempotent]
  rw [trim, trim, String.toList_ofList, hchars]

theorem AddressMode.ofText_text (s : String) : ofText (ofText s).text = ofText s := by
  have hmode : ofText s = if Text.lower (Text.trim s) == "dhcp" then dhcp
      else if Text.lower (Text.trim s) == "slaac" then slaac else fixed (Text.trim s) := by
    rw [ofText]
  by_cases hdhcp : Text.lower (Text.trim s) == "dhcp"
  · rw [hmode, if_pos hdhcp]
    decide
  · by_cases hslaac : Text.lower (Text.trim s) == "slaac"
    · rw [hmode, if_neg hdhcp, if_pos hslaac]
      decide
    · rw [hmode, if_neg hdhcp, if_neg hslaac, text, ofText, Text.trim_trim]
      simp only [hdhcp, hslaac, Bool.false_eq_true, if_false]

theorem AddressMode.readsBack : ReadsBack ofDocument? fun mode => .text mode.text := by
  intro d mode h
  obtain ⟨s, -, rfl⟩ := Option.map_eq_some_iff.1 h
  exact congrArg some (ofText_text s)

/-! ## Services -/

theorem PortValue.readsBack : ReadsBack ofDocument? toDocument := by
  intro d value h
  unfold ofDocument? at h
  split at h
  next => cases h; rfl
  next =>
    obtain ⟨n, hn, rfl⟩ := Option.map_eq_some_iff.1 h
    have hread := readsBack_signed 64 hn
    cases n <;> exact congrArg (Option.map number) hread

theorem PortValue.settled_toDocument (value : PortValue) : value.toDocument.Settled := by
  cases value with
  | number n => exact settled_integer n
  | text s => exact settled_text s

theorem PortSpec.ofDocument?_toDocument_one {value : PortValue} {d : Document}
    (h : PortValue.ofDocument? d = some value) :
    ofDocument? (one value).toDocument = some (one value) := by
  have hread := congrArg (Option.map one) (PortValue.readsBack h)
  -- Neither a number nor a text is a list.
  cases value with
  | number n => cases n <;> exact hread
  | text s => exact hread

theorem PortSpec.readsBack : ReadsBack ofDocument? toDocument := by
  intro d spec h
  unfold ofDocument? at h
  split at h
  next items =>
    obtain ⟨values, hvalues, rfl⟩ := Option.map_eq_some_iff.1 h
    exact congrArg (Option.map many) (readsBack_list PortValue.readsBack (d := .list items) hvalues)
  next =>
    obtain ⟨value, hvalue, rfl⟩ := Option.map_eq_some_iff.1 h
    exact ofDocument?_toDocument_one hvalue

theorem PortSpec.settled_toDocument (spec : PortSpec) : spec.toDocument.Settled := by
  cases spec with
  | one value => exact value.settled_toDocument
  | many values => exact settled_list (List.forall_mem_map.2 fun value _ => value.settled_toDocument)

theorem ServiceSpec.settled_toDocument (spec : ServiceSpec) : spec.toDocument.Settled := by
  cases spec with
  | named name => exact settled_text name
  | ports protocol values comment =>
    refine settled_tableOf ?_
    simp [settled_text, PortSpec.settled_toDocument]

/-- A service by protocol and ports is no text. -/
theorem ServiceSpec.ofDocument?_toDocument_ports {protocol comment : String} {values : PortSpec} :
    ofDocument? (ports protocol values comment).toDocument =
      (record fields (ports protocol values comment).toDocument).bind fun r =>
        (r.required "proto" string).bind fun protocol =>
          (r.required "port" PortSpec.ofDocument?).bind fun values =>
            (r.withDefault "comment" "" string).map (ports protocol values) := by
  have hsettled := settled_toDocument (ports protocol values comment)
  rw [Settled] at hsettled
  rw [ofDocument?, hsettled]
  rfl

theorem ServiceSpec.readsBack : ReadsBack ofDocument? toDocument := by
  intro d spec h
  unfold ofDocument? at h
  obtain ⟨e, -, h⟩ := Option.bind_eq_some_iff.1 h
  split at h
  next => cases h; rfl
  next =>
    simp only [do_eq_some_iff, Option.pure_def, Option.some.injEq] at h
    obtain ⟨r, -, protocol, h1, values, h2, comment, h3, rfl⟩ := h
    obtain ⟨w, hw, hshows⟩ : ∃ w, record fields (ports protocol values comment).toDocument = some w ∧
        Shows w _ := exists_record_tableOf (by decide) rfl
    rw [ofDocument?_toDocument_ports, hw]
    simp only [Option.bind_some, hshows.required readsBack_string h1 rfl,
      hshows.required PortSpec.readsBack h2 rfl, hshows.withDefault readsBack_string rfl h3 rfl,
      Option.map_some]

theorem ServiceSpec.ofDocument?_list (items : List Document) : ofDocument? (.list items) = none := by
  unfold ofDocument?
  rw [resolve?]
  cases resolveItems? items <;> rfl

/-! ## Rules -/

theorem Locator.readsBack : ReadsBack ofDocument? toDocument := by
  intro d l h
  obtain ⟨w, hw, hshows⟩ : ∃ w, record fields (toDocument l) = some w ∧ Shows w _ :=
    exists_record_tableOf (by decide) rfl
  simp only [ofDocument?, do_eq_some_iff, Option.pure_def, Option.some.injEq] at h
  obtain ⟨r, -, vlan, h1, switch, h2, hostname, h3, ipset, h4, ipv4, h5, ipv6, h6, rfl⟩ := h
  simp only [ofDocument?, hw, do_some, Option.pure_def,
    hshows.required VlanRef.readsBack h1 rfl,
    hshows.optional readsBack_string nullable_text h2 rfl,
    hshows.optional readsBack_string nullable_text h3 rfl,
    hshows.optional readsBack_string nullable_text h4 rfl,
    hshows.optional readsBack_string nullable_text h5 rfl,
    hshows.optional readsBack_string nullable_text h6 rfl]

theorem Locator.settled_toDocument (l : Locator) : l.toDocument.Settled := by
  refine settled_tableOf ?_
  simp [VlanRef.settled_toDocument, settled_text]

/-- A list of locators is no locator that is written as a list: it would have to
    begin with a reference to a vlan. -/
theorem Locator.ofDocument?_list (ls : List Locator) :
    ofDocument? (.list (ls.map toDocument)) = none := by
  unfold ofDocument?
  rw [record]
  split
  next =>
    cases ls with
    | nil => rfl
    | cons l rest =>
      have hvlan : VlanRef.ofDocument? l.toDocument = none := by
        have hsettled := l.settled_toDocument
        rw [Settled] at hsettled
        rw [VlanRef.ofDocument?, hsettled]
        rfl
      exact congrArg (fun vlan : Option VlanRef => vlan.bind _) hvlan
  next => rfl

theorem Rule.readsBack : ReadsBack ofDocument? toDocument := by
  intro d x h
  obtain ⟨w, hw, hshows⟩ : ∃ w, record fields (toDocument x) = some w ∧ Shows w _ :=
    exists_record_tableOf (by decide) rfl
  simp only [ofDocument?, do_eq_some_iff, Option.pure_def, Option.some.injEq] at h
  obtain ⟨r, -, comment, h1, sources, h2, destinations, h3, allowAll, h4, allow, h5, forward, h6,
    rfl⟩ := h
  have hlocators : ReadsBack (oneOrMany Locator.ofDocument?) fun ls => .list (ls.map (·.toDocument)) :=
    readsBack_oneOrMany Locator.readsBack Locator.settled_toDocument Locator.ofDocument?_list
  have hservices : ReadsBack (oneOrMany ServiceSpec.ofDocument?)
      fun specs => .list (specs.map (·.toDocument)) :=
    readsBack_oneOrMany ServiceSpec.readsBack ServiceSpec.settled_toDocument
      fun _ => ServiceSpec.ofDocument?_list _
  simp only [ofDocument?, hw, do_some, Option.pure_def,
    hshows.withDefault readsBack_string rfl h1 rfl, hshows.required hlocators h2 rfl,
    hshows.required hlocators h3 rfl, hshows.withDefault readsBack_boolean rfl h4 rfl,
    hshows.unlessEmpty hservices h5 rfl, hshows.unlessEmpty hservices h6 rfl]

theorem IpSet.readsBack : ReadsBack ofDocument? toDocument := by
  intro d x h
  obtain ⟨w, hw, hshows⟩ : ∃ w, record fields (toDocument x) = some w ∧ Shows w _ :=
    exists_record_tableOf (by decide) rfl
  simp only [ofDocument?, do_eq_some_iff, Option.pure_def, Option.some.injEq] at h
  obtain ⟨r, -, name, h1, addresses, h2, rfl⟩ := h
  simp only [ofDocument?, hw, do_some, Option.pure_def,
    hshows.required readsBack_string h1 rfl, hshows.required readsBack_texts h2 rfl]

theorem Policy.readsBack : ReadsBack ofDocument? toDocument := by
  intro d p h
  obtain ⟨w, hw, hshows⟩ : ∃ w, record fields (toDocument p) = some w ∧ Shows w _ :=
    exists_record_tableOf (by decide) rfl
  simp only [ofDocument?, do_eq_some_iff, Option.pure_def, Option.some.injEq] at h
  obtain ⟨r, -, ipsets, h1, rules, h2, rfl⟩ := h
  simp only [ofDocument?, hw, do_some, Option.pure_def,
    hshows.withDefault (readsBack_list IpSet.readsBack) rfl h1 rfl,
    hshows.withDefault (readsBack_list Rule.readsBack) rfl h2 rfl]

/-! ## Hosts -/

theorem Interface.readsBack : ReadsBack ofDocument? toDocument := by
  intro d i h
  obtain ⟨w, hw, hshows⟩ : ∃ w, record fields (toDocument i) = some w ∧ Shows w _ :=
    exists_record_tableOf (by decide) rfl
  simp only [ofDocument?, do_eq_some_iff, Option.pure_def, Option.some.injEq] at h
  obtain ⟨r, -, name, h1, switch, h2, vlan, h3, uplink, h4, ipv4, h5, ipv4Length, h6, ipv4Gateway,
    h7, ipv6, h8, ipv6Disabled, h9, delegationLength, h10, asksForPrefix, h11, delegatedPrefix,
    h12, mac, h13, firewallZone, h14, rfl⟩ := h
  simp only [ofDocument?, hw, do_some, Option.pure_def,
    hshows.optional readsBack_string nullable_text h1 rfl,
    hshows.optional readsBack_string nullable_text h2 rfl,
    hshows.optional VlanRef.readsBack VlanRef.nullable_toDocument h3 rfl,
    hshows.optional readsBack_string nullable_text h4 rfl,
    hshows.withDefault AddressMode.readsBack (by decide) h5 rfl,
    hshows.optional (readsBack_natural 8) nullable_natural h6 rfl,
    hshows.optional readsBack_string nullable_text h7 rfl,
    hshows.optional AddressMode.readsBack (fun _ => nullable_text _) h8 rfl,
    hshows.withDefault readsBack_boolean rfl h9 rfl,
    hshows.optional (readsBack_natural 8) nullable_natural h10 rfl,
    hshows.withDefault readsBack_boolean rfl h11 rfl,
    hshows.optional readsBack_string nullable_text h12 rfl,
    hshows.optional readsBack_string nullable_text h13 rfl,
    hshows.optional readsBack_string nullable_text h14 rfl]

theorem readsBack_oneOrMany_texts : ReadsBack (oneOrMany string) texts :=
  readsBack_oneOrMany readsBack_string settled_text fun _ => rfl

theorem Host.readsBack : ReadsBack ofDocument? toDocument := by
  intro d x h
  obtain ⟨w, hw, hshows⟩ : ∃ w, record fields (toDocument x) = some w ∧ Shows w _ :=
    exists_record_tableOf (by decide) rfl
  simp only [ofDocument?, do_eq_some_iff, Option.pure_def, Option.some.injEq] at h
  obtain ⟨r, -, hostname, h1, roles, h2, isVm, h3, vmhost, h4, vcpus, h5, memoryMb, h6, diskSizeMb,
    h7, localFirewall, h8, aliases, h9, interfaces, h10, rfl⟩ := h
  have hroles : ReadsBack (oneOrMany Role.ofDocument?) fun roles => .list (roles.map (·.toDocument)) :=
    readsBack_oneOrMany Role.readsBack Role.settled_toDocument fun _ => rfl
  have haliases : readAliases w = some aliases :=
    hshows.withDefault readsBack_oneOrMany_texts rfl h9 rfl
  simp only [ofDocument?, hw, do_some, Option.pure_def,
    hshows.withDefault readsBack_string rfl h1 rfl, hshows.withDefault hroles rfl h2 rfl,
    hshows.withDefault readsBack_boolean rfl h3 rfl,
    hshows.optional readsBack_string nullable_text h4 rfl,
    hshows.withDefault (readsBack_natural 32) rfl h5 rfl,
    hshows.withDefault (readsBack_natural 32) rfl h6 rfl,
    hshows.withDefault (readsBack_natural 32) rfl h7 rfl,
    hshows.withDefault readsBack_boolean rfl h8 rfl, haliases,
    hshows.withDefault (readsBack_list Interface.readsBack) rfl h10 rfl]

/-! ## Vlans -/

theorem StaticHost.readsBack : ReadsBack ofDocument? toDocument := by
  intro d x h
  obtain ⟨w, hw, hshows⟩ : ∃ w, record fields (toDocument x) = some w ∧ Shows w _ :=
    exists_record_tableOf (by decide) rfl
  simp only [ofDocument?, do_eq_some_iff, Option.pure_def, Option.some.injEq] at h
  obtain ⟨r, -, hostname, h1, ipv4, h2, ipv6, h3, aliases, h4, rfl⟩ := h
  have haliases : readAliases w = some aliases :=
    hshows.withDefault readsBack_oneOrMany_texts rfl h4 rfl
  simp only [ofDocument?, hw, do_some, Option.pure_def,
    hshows.required readsBack_string h1 rfl, hshows.required readsBack_string h2 rfl,
    hshows.optional readsBack_string nullable_text h3 rfl, haliases]

theorem Reservation.readsBack : ReadsBack ofDocument? toDocument := by
  intro d x h
  obtain ⟨w, hw, hshows⟩ : ∃ w, record fields (toDocument x) = some w ∧ Shows w _ :=
    exists_record_tableOf (by decide) rfl
  simp only [ofDocument?, do_eq_some_iff, Option.pure_def, Option.some.injEq] at h
  obtain ⟨r, -, hostname, h1, mac, h2, ipv4, h3, ipv6, h4, aliases, h5, rfl⟩ := h
  have haliases : readAliases w = some aliases :=
    hshows.withDefault readsBack_oneOrMany_texts rfl h5 rfl
  simp only [ofDocument?, hw, do_some, Option.pure_def,
    hshows.required readsBack_string h1 rfl, hshows.required readsBack_string h2 rfl,
    hshows.optional readsBack_string nullable_text h3 rfl,
    hshows.optional readsBack_string nullable_text h4 rfl, haliases]

theorem readsBack_orNull (bits : Nat) :
    ReadsBack (nullable (Decode.natural bits)) fun o => (o.map .natural).getD .null := by
  intro d o h
  cases o with
  | none => rfl
  | some n => exact nullable_of_readsBack (readsBack_natural bits) nullable_natural h

/-- The vlan with the lease time of a vlan that names none. -/
def Vlan.withDefaultLease (v : Vlan) : Vlan :=
  { v with leaseTime := { seconds := 3600 } }

/-- A vlan that is written without its lease time. -/
theorem Vlan.ofDocument?_toDocument {d : Document} {v : Vlan} (h : ofDocument? d = some v) :
    ofDocument? (v.toDocument fun _ => none) = some v.withDefaultLease := by
  obtain ⟨w, hw, hshows⟩ : ∃ w, record fields (v.toDocument fun _ => none) = some w ∧ Shows w _ :=
    exists_record_tableOf (by decide) rfl
  simp only [ofDocument?, do_eq_some_iff, Option.pure_def, Option.some.injEq] at h
  obtain ⟨r, -, name, h1, id, h2, routable, h3, domain, h4, isDefault, h5, ipv4Subnet, h6, ipv6Subnet,
    h7, ipv6Disabled, h8, ipv6Delegated, h9, delegationIndex, h10, ipv6Length, h11, allowDhcp, h12,
    dhcp6Managed, h13, dhcp4First, h14, dhcp4Last, h15, dhcp6First, h16, dhcp6Last, h17, leaseTime,
    -, allowInternet, h19, allowDnsUpdate, h20, accessVlans, h21, staticHosts, h22, reservations,
    h23, rfl⟩ := h
  have hvlans : ReadsBack (oneOrMany VlanRef.ofDocument?)
      fun refs => .list (refs.map (·.toDocument)) :=
    readsBack_oneOrMany VlanRef.readsBack VlanRef.settled_toDocument
      fun _ => VlanRef.ofDocument?_list _
  simp only [ofDocument?, hw, do_some, Option.pure_def,
    hshows.required readsBack_string h1 rfl, hshows.withDefault (readsBack_orNull 16) rfl h2 rfl,
    hshows.withDefault readsBack_boolean rfl h3 rfl, hshows.withDefault readsBack_string rfl h4 rfl,
    hshows.withDefault readsBack_boolean rfl h5 rfl, hshows.required readsBack_string h6 rfl,
    hshows.optional readsBack_string nullable_text h7 rfl,
    hshows.withDefault readsBack_boolean rfl h8 rfl,
    hshows.withDefault readsBack_boolean rfl h9 rfl,
    hshows.optional (readsBack_natural 64) nullable_natural h10 rfl,
    hshows.withDefault (readsBack_natural 8) rfl h11 rfl,
    hshows.withDefault readsBack_boolean rfl h12 rfl,
    hshows.withDefault readsBack_boolean rfl h13 rfl,
    hshows.withDefault readsBack_word32 rfl h14 rfl,
    hshows.withDefault readsBack_word32 rfl h15 rfl,
    hshows.withDefault readsBack_word64 rfl h16 rfl,
    hshows.withDefault readsBack_word64 rfl h17 rfl,
    hshows.absent "dhcp_lease_time" rfl,
    hshows.withDefault readsBack_boolean rfl h19 rfl,
    hshows.withDefault readsBack_boolean rfl h20 rfl, hshows.withDefault hvlans rfl h21 rfl,
    hshows.withDefault (readsBack_list StaticHost.readsBack) rfl h22 rfl,
    hshows.withDefault (readsBack_list Reservation.readsBack) rfl h23 rfl, withDefaultLease]

/-! ## Sites -/

/-- The switch with the default lease time on its vlans. -/
def Switch.withDefaultLeases (s : Switch) : Switch :=
  { s with vlans := s.vlans.map (·.withDefaultLease) }

/-- The site with the default lease time on its vlans. -/
def Site.withDefaultLeases (s : Site) : Site :=
  { s with switches := s.switches.map (·.withDefaultLeases) }

theorem Switch.ofDocument?_toDocument {d : Document} {s : Switch} (h : ofDocument? d = some s) :
    ofDocument? (s.toDocument fun _ => none) = some s.withDefaultLeases := by
  obtain ⟨w, hw, hshows⟩ : ∃ w, record fields (s.toDocument fun _ => none) = some w ∧ Shows w _ :=
    exists_record_tableOf (by decide) rfl
  simp only [ofDocument?, do_eq_some_iff, Option.pure_def, Option.some.injEq] at h
  obtain ⟨r, -, name, h1, uplink, h2, vlans, h3, rfl⟩ := h
  have hvlans : list Vlan.ofDocument? (.list (vlans.map (·.toDocument fun _ => none))) =
      some (vlans.map (·.withDefaultLease)) := by
    obtain ⟨e, -, he⟩ := Option.bind_eq_some_iff.1 h3
    refine mapM_map_eq fun v hv => ?_
    obtain ⟨item, -, hitem⟩ := exists_of_mem_list he v hv
    exact Vlan.ofDocument?_toDocument hitem
  simp only [ofDocument?, hw, do_some, Option.pure_def,
    hshows.required readsBack_string h1 rfl, hshows.optional readsBack_string nullable_text h2 rfl,
    (hshows.required_eq "vlans" rfl).trans hvlans, withDefaultLeases]

/-- **A site that is written without lease times** is read with the default ones, and
    is the same otherwise. -/
theorem Site.ofDocument?_toDocument {d : Document} {s : Site} (h : ofDocument? d = some s) :
    ofDocument? (s.toDocument fun _ => none) = some s.withDefaultLeases := by
  obtain ⟨w, hw, hshows⟩ : ∃ w, record fields (s.toDocument fun _ => none) = some w ∧ Shows w _ :=
    exists_record_tableOf (by decide) rfl
  simp only [ofDocument?, do_eq_some_iff, Option.pure_def, Option.some.injEq] at h
  obtain ⟨r, -, name, h1, domain, h2, timezone, h3, ntpServers, h4, externalDns, h5,
    firstDelegationIndex, h6, switches, h7, policy, h8, hosts, h9, rfl⟩ := h
  have hswitches : list Switch.ofDocument? (.list (switches.map (·.toDocument fun _ => none))) =
      some (switches.map (·.withDefaultLeases)) := by
    obtain ⟨e, -, he⟩ := Option.bind_eq_some_iff.1 h7
    refine mapM_map_eq fun v hv => ?_
    obtain ⟨item, -, hitem⟩ := exists_of_mem_list he v hv
    exact Switch.ofDocument?_toDocument hitem
  simp only [ofDocument?, hw, do_some, Option.pure_def,
    hshows.withDefault readsBack_string rfl h1 rfl, hshows.withDefault readsBack_string rfl h2 rfl,
    hshows.withDefault readsBack_string rfl h3 rfl, hshows.withDefault readsBack_texts rfl h4 rfl,
    hshows.withDefault readsBack_texts rfl h5 rfl,
    hshows.withDefault (readsBack_natural 64) rfl h6 rfl,
    (hshows.required_eq "vswitches" rfl).trans hswitches, hshows.withDefault Policy.readsBack rfl h8 rfl,
    hshows.withDefault (readsBack_list Host.readsBack) rfl h9 rfl, withDefaultLeases]

/-! ## Documents without lease times -/

/-- The vlan of the document names no lease time. -/
def Vlan.OmitsLease (d : Document) : Prop :=
  ∀ r ∈ record fields d, (r.lookup "dhcp_lease_time").isNone

/-- No vlan of the switch of the document names a lease time. -/
def Switch.OmitsLeases (d : Document) : Prop :=
  ∀ r ∈ record fields d, ∀ vlans ∈ r.lookup "vlans", ∀ v ∈ itemsOf vlans, Vlan.OmitsLease v

/-- No vlan of the site of the document names a lease time. -/
def Site.OmitsLeases (d : Document) : Prop :=
  ∀ r ∈ record fields d, ∀ switches ∈ r.lookup "vswitches", ∀ s ∈ itemsOf switches,
    Switch.OmitsLeases s

theorem Vlan.withDefaultLease_eq {d : Document} {v : Vlan} (hd : OmitsLease d)
    (h : ofDocument? d = some v) : v.withDefaultLease = v := by
  simp only [ofDocument?, do_eq_some_iff, Option.pure_def, Option.some.injEq] at h
  obtain ⟨r, hr, name, -, id, -, routable, -, domain, -, isDefault, -, ipv4Subnet, -, ipv6Subnet, -,
    ipv6Disabled, -, ipv6Delegated, -, delegationIndex, -, ipv6Length, -, allowDhcp, -, dhcp6Managed,
    -, dhcp4First, -, dhcp4Last, -, dhcp6First, -, dhcp6Last, -, leaseTime, hlease, allowInternet, -,
    allowDnsUpdate, -, accessVlans, -, staticHosts, -, reservations, -, rfl⟩ := h
  have hnone : r.lookup "dhcp_lease_time" = none := Option.isNone_iff_eq_none.1 (hd r hr)
  rw [Record.withDefault, hnone] at hlease
  cases hlease
  rfl

theorem Switch.withDefaultLeases_eq {d : Document} {s : Switch} (hd : OmitsLeases d)
    (h : ofDocument? d = some s) : s.withDefaultLeases = s := by
  simp only [ofDocument?, do_eq_some_iff, Option.pure_def, Option.some.injEq] at h
  obtain ⟨r, hr, name, -, uplink, -, vlans, hvlans, rfl⟩ := h
  obtain ⟨e, he, hvlans⟩ := Option.bind_eq_some_iff.1 hvlans
  have hmap : vlans.map (·.withDefaultLease) = vlans := by
    refine (List.map_congr_left fun v hv => ?_).trans (List.map_id _)
    obtain ⟨item, hitem, hread⟩ := exists_of_mem_list hvlans v hv
    exact Vlan.withDefaultLease_eq (hd r hr e he item hitem) hread
  rw [withDefaultLeases, hmap]

/-- A site has the default lease times if the document names none. -/
theorem Site.withDefaultLeases_eq {d : Document} {s : Site} (hd : OmitsLeases d)
    (h : ofDocument? d = some s) : s.withDefaultLeases = s := by
  simp only [ofDocument?, do_eq_some_iff, Option.pure_def, Option.some.injEq] at h
  obtain ⟨r, hr, name, -, domain, -, timezone, -, ntpServers, -, externalDns, -, firstDelegationIndex,
    -, switches, hswitches, policy, -, hosts, -, rfl⟩ := h
  obtain ⟨e, he, hswitches⟩ := Option.bind_eq_some_iff.1 hswitches
  have hmap : switches.map (·.withDefaultLeases) = switches := by
    refine (List.map_congr_left fun w hw => ?_).trans (List.map_id _)
    obtain ⟨item, hitem, hread⟩ := exists_of_mem_list hswitches w hw
    exact Switch.withDefaultLeases_eq (hd r hr e he item hitem) hread
  rw [withDefaultLeases, hmap]

/-! ## Main result -/

/-- **What is read is read back.**  A host, a rule, and a site of a document without
    lease times, whatever their spelling, are written as documents that are read as
    the same values. -/
theorem values_readBack :
    (∀ d h, Host.ofDocument? d = some h → Host.ofDocument? h.toDocument = some h) ∧
    (∀ d r, Rule.ofDocument? d = some r → Rule.ofDocument? r.toDocument = some r) ∧
    (∀ d s, Site.OmitsLeases d → Site.ofDocument? d = some s →
      Site.ofDocument? (s.toDocument fun _ => none) = some s) := by
  refine ⟨fun _ _ => Host.readsBack, fun _ _ => Rule.readsBack, fun d s hd hs => ?_⟩
  rw [Site.ofDocument?_toDocument hs, Site.withDefaultLeases_eq hd hs]

/-- A host and a rule that are lists of fields or of one source, and a site whose
    vlan is a list of fields. -/
theorem lists_readBack :
    (∃ h, Host.ofDocument? (.list [.text "nas", .text "storage", .bool false, .null]) = some h ∧
      h.roles = [.storage] ∧ Host.ofDocument? h.toDocument = some h) ∧
    (∃ r, Rule.ofDocument? (.list [.text "", .list [.text "lan", .text "sw"], .list []]) = some r ∧
      r.sources = [{ vlan := .name "lan", switch := some "sw" }] ∧
      Rule.ofDocument? r.toDocument = some r) ∧
    ∃ s, Site.ofDocument? (.ofFields [("vswitches", .list [.list [.text "sw", .null, .list [
        .list [.text "lan", .natural 20, .bool true, .text "", .bool false, .text "10.0.0.0/24"]]]])]) =
        some s ∧
      s.vlans.map (·.2.id) = [some 20] ∧ Site.ofDocument? (s.toDocument fun _ => none) = some s := by
  obtain ⟨hhost, hrule, hsite⟩ := values_readBack
  refine ⟨?host, ?rule, ?site⟩
  case host =>
    have hread : Host.ofDocument? (.list [.text "nas", .text "storage", .bool false, .null]) =
        some { hostname := "nas", roles := [.storage] } := by decide
    exact ⟨_, hread, rfl, hhost _ _ hread⟩
  case rule =>
    have hread : Rule.ofDocument? (.list [.text "", .list [.text "lan", .text "sw"], .list []]) =
        some { sources := [{ vlan := .name "lan", switch := some "sw" }], destinations := [] } := by
      decide
    exact ⟨_, hread, rfl, hrule _ _ hread⟩
  case site =>
    have hread : Site.ofDocument? (.ofFields [("vswitches", .list [.list [.text "sw", .null, .list [
        .list [.text "lan", .natural 20, .bool true, .text "", .bool false,
          .text "10.0.0.0/24"]]]])]) =
        some { switches := [{ name := "sw", vlans := [
          { name := "lan", id := some 20, ipv4Subnet := "10.0.0.0/24" }] }] } := by decide
    refine ⟨_, hread, by decide, hsite _ _ ?_ hread⟩
    rintro r ⟨⟩ switches ⟨⟩ w hw
    rw [List.mem_singleton.1 hw]
    rintro r ⟨⟩ vlans ⟨⟩ v hv
    rw [List.mem_singleton.1 hv]
    rintro r ⟨⟩
    rfl

end NetworkSite
