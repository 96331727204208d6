/-
  Fields for one value or many, given as lists.

  Such a field tries to take a list for one value first.  Where no list is a value,
  a list stays a list: it has one value for each item, which is what the item
  alone is read as (`oneOrMany_list_iff`).  That is so for roles, texts, references
  to vlans and services.  But a locator may be written as the list of its fields,
  so a list of texts may be one locator (`Locator.oneOrMany_list_iff`); none of
  its items is a locator by itself.
-/
import NetworkSite.Proofs.Compilation
import NetworkSite.Proofs.ReadBack

namespace NetworkSite

open Decode Document

/-! ## Items of lists -/

namespace Document

variable {items settled : List Document}

/-- A list is settled item by item. -/
theorem resolveItems?_eq_some :
    resolveItems? items = some settled ↔
      List.Forall₂ (fun d e => d.resolve? = some e) items settled := by
  induction items generalizing settled with
  | nil => simp [resolveItems?, eq_comm]
  | cons d rest ih =>
    simp only [resolveItems?, do_eq_some_iff, Option.pure_def, Option.some.injEq,
      List.forall₂_cons_left_iff, ih]
    constructor
    · rintro ⟨e, he, rest', hrest, rfl⟩
      exact ⟨e, rest', he, hrest, rfl⟩
    · rintro ⟨e, rest', he, hrest, rfl⟩
      exact ⟨e, he, rest', hrest, rfl⟩

theorem exists_resolveItems? (h : ∀ d ∈ items, ∃ e, d.resolve? = some e) :
    ∃ settled, resolveItems? items = some settled := by
  induction items with
  | nil => exact ⟨[], rfl⟩
  | cons d rest ih =>
    obtain ⟨e, he⟩ := h d List.mem_cons_self
    obtain ⟨rest', hrest⟩ := ih fun d hd => h d (List.mem_cons_of_mem _ hd)
    exact ⟨e :: rest', by rw [resolveItems?, he, hrest]; rfl⟩

end Document

namespace Decode

variable {α : Type} {decode : Decoder α} {items settled : List Document} {values : List α}

/-- The values are what the items are read as, one by one. -/
def ReadEach (decode : Decoder α) (items : List Document) (values : List α) : Prop :=
  List.Forall₂ (fun d a => d.resolve?.bind decode = some a) items values

/-- It makes no difference whether all items are settled first. -/
theorem mapM_eq_some_iff (h : resolveItems? items = some settled) :
    settled.mapM decode = some values ↔ ReadEach decode items values := by
  unfold ReadEach
  rw [resolveItems?_eq_some] at h
  induction h generalizing values with
  | nil => simp [eq_comm]
  | @cons d e rest rest' hd _ ih =>
    simp only [List.mapM_cons, do_eq_some_iff, Option.pure_def, Option.some.injEq, ih,
      List.forall₂_cons_left_iff, hd, Option.bind_some]
    constructor
    · rintro ⟨a, ha, as, has, rfl⟩
      exact ⟨a, as, ha, has, rfl⟩
    · rintro ⟨a, as, ha, has, rfl⟩
      exact ⟨a, ha, as, has, rfl⟩

theorem ReadEach.exists_settled (h : ReadEach decode items values) :
    ∃ settled, resolveItems? items = some settled := by
  refine exists_resolveItems? fun d hd => ?_
  obtain ⟨a, -, ha⟩ := exists_mem_of_forall₂ h hd
  obtain ⟨e, he, -⟩ := Option.bind_eq_some_iff.1 ha
  exact ⟨e, he⟩

theorem oneOrMany_list (h : resolveItems? items = some settled) :
    oneOrMany decode (.list items) =
      ((decode (.list settled)).map ([·])).or (settled.mapM decode) := by
  rw [oneOrMany, resolve?, h]
  dsimp only [Option.map_some]
  rw [do_some]
  cases decode (.list settled) <;> rfl

/-- **A list stays a list** where no list is a value. -/
theorem oneOrMany_list_iff (h : ∀ items, decode (.list items) = none) :
    oneOrMany decode (.list items) = some values ↔ ReadEach decode items values := by
  cases hitems : resolveItems? items with
  | none =>
    refine iff_of_false (fun hread => ?_) fun hread => ?_
    · rw [oneOrMany, resolve?, hitems] at hread
      cases hread
    · obtain ⟨settled, hsettled⟩ := hread.exists_settled
      rw [hitems] at hsettled
      cases hsettled
  | some settled =>
    rw [oneOrMany_list hitems, h, ← mapM_eq_some_iff hitems]
    rfl

end Decode

/-! ## Rows -/

namespace Decode

variable {α : Type} {decode : Decoder α} {names : List String} {items : List Document}
  {name : String} {k : Nat}

/-- The value of a field in a row is the item at its position. -/
theorem lookup_zip (hn : names.Nodup) (hk : names[k]? = some name) :
    (names.zip items).lookup name = items[k]? := by
  induction names generalizing items k with
  | nil => cases hk
  | cons first rest ih =>
    rw [List.nodup_cons] at hn
    cases items with
    | nil => rfl
    | cons d items =>
      rw [List.zip_cons_cons, List.lookup_cons]
      cases k with
      | zero =>
        obtain rfl : first = name := Option.some.inj hk
        rw [beq_self_eq_true]
        rfl
      | succ k =>
        have hne : (name == first) = false := by
          rw [beq_eq_false_iff_ne]
          rintro rfl
          exact hn.1 (List.mem_of_getElem? hk)
        rw [hne]
        exact ih hn.2 hk

/-- A field for a value or nothing holds nothing where the row has ended. -/
theorem withDefault_zip (hn : names.Nodup) (hk : names[k]? = some name) :
    Record.withDefault (names.zip items) name none (nullable decode) =
      nullable decode (items[k]?.getD .null) := by
  rw [Record.withDefault, lookup_zip hn hk]
  cases items[k]? <;> rfl

end Decode

namespace Locator

variable {items rest settled : List Document} {first d : Document} {l : Locator}
  {values : List Locator}

/-- The fields of a locator that are texts, in their order. -/
def texts (l : Locator) : List (Option String) :=
  [l.switch, l.hostname, l.ipset, l.ipv4, l.ipv6]

/-- A list is a locator if it is read so field by field. -/
theorem ofDocument?_row : ofDocument? (.list (first :: rest)) = some l ↔
    VlanRef.ofDocument? first = some l.vlan ∧ rest.length ≤ 5 ∧
      ∀ (k : Nat) t, l.texts[k]? = some t → nullable string (rest[k]?.getD .null) = some t := by
  have hnodup : (fields.map (·.name)).Nodup := by decide
  have htext : ∀ name k, (fields.map (·.name))[k + 1]? = some name →
      Record.withDefault ((fields.map (·.name)).zip (first :: rest)) name none (nullable string) =
        nullable string (rest[k]?.getD .null) := fun name k hk => withDefault_zip hnodup hk
  have hrecord : record fields (.list (first :: rest)) =
      if rest.length ≤ 5 then some ((fields.map (·.name)).zip (first :: rest)) else none := by
    have hlength : (first :: rest).length ≤ fields.length ↔ rest.length ≤ 5 := by
      change rest.length + 1 ≤ 6 ↔ _
      omega
    simp only [record, hlength]
  simp only [ofDocument?, do_eq_some_iff, Option.pure_def, Option.some.injEq, hrecord,
    Option.ite_none_right_eq_some]
  constructor
  · rintro ⟨_, ⟨hlength, rfl⟩, vlan, h0, switch, h1, hostname, h2, ipset, h3, ipv4, h4, ipv6, h5,
      rfl⟩
    refine ⟨h0, hlength, fun k t hk => ?_⟩
    rw [htext _ 0 rfl] at h1
    rw [htext _ 1 rfl] at h2
    rw [htext _ 2 rfl] at h3
    rw [htext _ 3 rfl] at h4
    rw [htext _ 4 rfl] at h5
    rcases k with _ | _ | _ | _ | _ | k
    all_goals cases hk
    exacts [h1, h2, h3, h4, h5]
  · rintro ⟨h0, hlength, hall⟩
    refine ⟨_, ⟨hlength, rfl⟩, _, h0, _, (htext _ 0 rfl).trans (hall 0 _ rfl), _,
      (htext _ 1 rfl).trans (hall 1 _ rfl), _, (htext _ 2 rfl).trans (hall 2 _ rfl), _,
      (htext _ 3 rfl).trans (hall 3 _ rfl), _, (htext _ 4 rfl).trans (hall 4 _ rfl), rfl⟩

/-- A locator is no reference to a vlan and no text. -/
theorem eq_none_of_ofDocument? (h : ofDocument? d = some l) :
    VlanRef.ofDocument? d = none ∧ nullable string d = none := by
  cases d with
  | list items => exact ⟨VlanRef.ofDocument?_list items, rfl⟩
  | table entries =>
    refine ⟨?_, rfl⟩
    rw [VlanRef.ofDocument?, resolve?]
    cases resolveEntries? entries <;> rfl
  | plain s =>
    simp only [ofDocument?, do_eq_some_iff, record] at h
    obtain ⟨r, hr, vlan, hvlan, -⟩ := h
    split at hr
    next => cases hr; cases hvlan
    next => cases hr
  | _ => cases h

/-- The list is a locator written as a row: a reference to a vlan and then, field
    by field, a text or nothing, where a row that ends early has nothing. -/
def IsRow (items : List Document) (l : Locator) : Prop :=
  ∃ first rest, items = first :: rest ∧ first.resolve?.bind VlanRef.ofDocument? = some l.vlan ∧
    rest.length ≤ 5 ∧ ∀ (k : Nat) t, l.texts[k]? = some t →
      (rest[k]?.getD .null).resolve?.bind (nullable string) = some t

/-- Each item of a row is a reference to a vlan, or a text or nothing. -/
theorem IsRow.readAs (h : IsRow items l) (hd : d ∈ items) :
    (∃ vlan, d.resolve?.bind VlanRef.ofDocument? = some vlan) ∨
      ∃ t, d.resolve?.bind (nullable string) = some t := by
  obtain ⟨first, rest, rfl, hvlan, hlength, hall⟩ := h
  rcases List.mem_cons.1 hd with rfl | hd
  · exact .inl ⟨_, hvlan⟩
  · obtain ⟨k, hk⟩ := List.mem_iff_getElem?.1 hd
    have hlt : k < l.texts.length :=
      Nat.lt_of_lt_of_le (List.getElem?_eq_some_iff.1 hk).1 hlength
    have ht := hall k _ (List.getElem?_eq_getElem hlt)
    rw [hk, Option.getD_some] at ht
    exact .inr ⟨_, ht⟩

theorem IsRow.exists_settled (h : IsRow items l) :
    ∃ settled, resolveItems? items = some settled := by
  refine exists_resolveItems? fun d hd => ?_
  rcases h.readAs hd with ⟨_, hread⟩ | ⟨_, hread⟩
  · obtain ⟨e, he, -⟩ := Option.bind_eq_some_iff.1 hread
    exact ⟨e, he⟩
  · obtain ⟨e, he, -⟩ := Option.bind_eq_some_iff.1 hread
    exact ⟨e, he⟩

/-- No item of a row is a locator by itself. -/
theorem IsRow.not_locator (h : IsRow items l) (hd : d ∈ items) :
    d.resolve?.bind ofDocument? = none := by
  rw [Option.eq_none_iff_forall_ne_some]
  intro other hother
  obtain ⟨e, he, hother⟩ := Option.bind_eq_some_iff.1 hother
  obtain ⟨hvlan, htext⟩ := eq_none_of_ofDocument? hother
  have hread := h.readAs hd
  rw [he, Option.bind_some, Option.bind_some, hvlan, htext] at hread
  rcases hread with ⟨_, hread⟩ | ⟨_, hread⟩
  · cases hread
  · cases hread

theorem resolve?_getD (h : List.Forall₂ (fun d e => d.resolve? = some e) rest settled) (k : Nat) :
    (rest[k]?.getD .null).resolve? = some (settled[k]?.getD .null) := by
  induction h generalizing k with
  | nil => rfl
  | cons hd _ ih =>
    cases k with
    | zero => exact hd
    | succ k => exact ih k

theorem ofDocument?_settled (h : resolveItems? items = some settled) :
    ofDocument? (.list settled) = some l ↔ IsRow items l := by
  rw [resolveItems?_eq_some] at h
  cases h with
  | nil => exact iff_of_false nofun (by rintro ⟨_, _, h, -⟩; cases h)
  | cons hfirst hrest =>
    rw [ofDocument?_row]
    constructor
    · rintro ⟨hvlan, hlength, hall⟩
      refine ⟨_, _, rfl, by rw [hfirst]; exact hvlan, hrest.length_eq ▸ hlength, fun k t hk => ?_⟩
      rw [resolve?_getD hrest]
      exact hall k t hk
    · rintro ⟨_, _, heq, hvlan, hlength, hall⟩
      obtain ⟨rfl, rfl⟩ := List.cons.inj heq
      rw [hfirst] at hvlan
      refine ⟨hvlan, hrest.length_eq ▸ hlength, fun k t hk => ?_⟩
      have ht := hall k t hk
      rwa [resolve?_getD hrest] at ht

/-- **A list of locators** has a locator for each item, which is what the item
    alone is read as, or it is one locator written as a row. -/
theorem oneOrMany_list_iff : oneOrMany ofDocument? (.list items) = some values ↔
    ReadEach ofDocument? items values ∨ ∃ l, values = [l] ∧ IsRow items l := by
  cases hitems : resolveItems? items with
  | none =>
    refine iff_of_false (fun hread => ?_) fun hread => ?_
    · rw [oneOrMany, resolve?, hitems] at hread
      cases hread
    · obtain ⟨settled, hsettled⟩ : ∃ settled, resolveItems? items = some settled := by
        rcases hread with hread | ⟨l, -, hrow⟩
        · exact hread.exists_settled
        · exact hrow.exists_settled
      rw [hitems] at hsettled
      cases hsettled
  | some settled =>
    rw [oneOrMany_list hitems]
    cases hone : ofDocument? (.list settled) with
    | none =>
      have hnone : ¬∃ l, values = [l] ∧ IsRow items l := by
        rintro ⟨l, -, hrow⟩
        rw [(ofDocument?_settled hitems).2 hrow] at hone
        cases hone
      rw [or_iff_left hnone, ← mapM_eq_some_iff hitems]
      rfl
    | some l =>
      have hrow := (ofDocument?_settled hitems).1 hone
      have hnone : ¬ReadEach ofDocument? items values := by
        obtain ⟨first, rest, rfl, -⟩ := id hrow
        intro hread
        obtain ⟨a, -, ha⟩ := exists_mem_of_forall₂ hread List.mem_cons_self
        rw [hrow.not_locator List.mem_cons_self] at ha
        cases ha
      rw [or_iff_right hnone]
      constructor
      · intro h
        exact ⟨l, (Option.some.inj h).symm, hrow⟩
      · rintro ⟨other, rfl, hother⟩
        rw [(ofDocument?_settled hitems).2 hother] at hone
        rw [Option.some.inj hone]
        rfl

end Locator

/-! ## Records -/

namespace Decode

variable {α : Type} {decode : Decoder α} {fields : List Field} {d : Document} {r : Record}
  {name : String} {items : List Document} {value a : α}

/-- The record gives the field as a list of these items. -/
def GivesList (fields : List Field) (d : Document) (name : String) (items : List Document) : Prop :=
  ∃ r, record fields d = some r ∧ r.lookup name = some (.list items)

theorem GivesList.required (h : GivesList fields d name items) (hr : record fields d = some r)
    (ha : r.required name decode = some a) : decode (.list items) = some a := by
  obtain ⟨r', hr', hlookup⟩ := h
  obtain rfl := Option.some.inj (hr.symm.trans hr')
  rwa [Record.required, hlookup] at ha

theorem GivesList.withDefault (h : GivesList fields d name items) (hr : record fields d = some r)
    (ha : r.withDefault name value decode = some a) : decode (.list items) = some a := by
  obtain ⟨r', hr', hlookup⟩ := h
  obtain rfl := Option.some.inj (hr.symm.trans hr')
  rwa [Record.withDefault, hlookup] at ha

end Decode

section

variable {d : Document} {items : List Document}

theorem readEach_texts {values : List String} (h : oneOrMany string (.list items) = some values) :
    ReadEach string items values :=
  (oneOrMany_list_iff fun _ => rfl).1 h

theorem Host.readEach {host : Host} (h : ofDocument? d = some host) :
    (GivesList fields d "roles" items → ReadEach Role.ofDocument? items host.roles) ∧
      (GivesList fields d "aliases" items → ReadEach string items host.aliases) := by
  simp only [ofDocument?, do_eq_some_iff, Option.pure_def, Option.some.injEq] at h
  obtain ⟨r, hr, hostname, -, roles, hroles, isVm, -, vmhost, -, vcpus, -, memoryMb, -, diskSizeMb,
    -, localFirewall, -, aliases, haliases, interfaces, -, rfl⟩ := h
  exact ⟨fun hg => (oneOrMany_list_iff fun _ => rfl).1 (hg.withDefault hr hroles),
    fun hg => readEach_texts (hg.withDefault hr haliases)⟩

theorem StaticHost.readEach {host : StaticHost} (h : ofDocument? d = some host)
    (hg : GivesList fields d "aliases" items) : ReadEach string items host.aliases := by
  simp only [ofDocument?, do_eq_some_iff, Option.pure_def, Option.some.injEq] at h
  obtain ⟨r, hr, hostname, -, ipv4, -, ipv6, -, aliases, haliases, rfl⟩ := h
  exact readEach_texts (hg.withDefault hr haliases)

theorem Reservation.readEach {res : Reservation} (h : ofDocument? d = some res)
    (hg : GivesList fields d "aliases" items) : ReadEach string items res.aliases := by
  simp only [ofDocument?, do_eq_some_iff, Option.pure_def, Option.some.injEq] at h
  obtain ⟨r, hr, hostname, -, mac, -, ipv4, -, ipv6, -, aliases, haliases, rfl⟩ := h
  exact readEach_texts (hg.withDefault hr haliases)

theorem Vlan.readEach {v : Vlan} (h : ofDocument? d = some v)
    (hg : GivesList fields d "access_vlans" items) :
    ReadEach VlanRef.ofDocument? items v.accessVlans := by
  simp only [ofDocument?, do_eq_some_iff, Option.pure_def, Option.some.injEq] at h
  obtain ⟨r, hr, name, -, id, -, routable, -, domain, -, isDefault, -, ipv4Subnet, -, ipv6Subnet, -,
    ipv6Disabled, -, ipv6Delegated, -, delegationIndex, -, ipv6Length, -, allowDhcp, -,
    dhcp6Managed, -, dhcp4First, -, dhcp4Last, -, dhcp6First, -, dhcp6Last, -, leaseTime, -,
    allowInternet, -, allowDnsUpdate, -, accessVlans, haccess, staticHosts, -, reservations, -,
    rfl⟩ := h
  exact (oneOrMany_list_iff VlanRef.ofDocument?_list).1 (hg.withDefault hr haccess)

/-- The locators are what the items are read as, one by one, or the one locator
    that the items are a row of; then none of the items is a locator by itself. -/
def Locator.ReadEachOrRow (items : List Document) (values : List Locator) : Prop :=
  ReadEach ofDocument? items values ∨ ∃ l, values = [l] ∧ IsRow items l ∧
    ∀ item ∈ items, item.resolve?.bind ofDocument? = none

theorem Locator.readEachOrRow {values : List Locator}
    (h : oneOrMany ofDocument? (.list items) = some values) : ReadEachOrRow items values :=
  (oneOrMany_list_iff.1 h).imp_right fun ⟨l, hl, hrow⟩ =>
    ⟨l, hl, hrow, fun _ hitem => hrow.not_locator hitem⟩

theorem Rule.readEach {rule : Rule} (h : ofDocument? d = some rule) :
    (GivesList fields d "sources" items → Locator.ReadEachOrRow items rule.sources) ∧
      (GivesList fields d "destinations" items → Locator.ReadEachOrRow items rule.destinations) ∧
      (GivesList fields d "allow" items → ReadEach ServiceSpec.ofDocument? items rule.allow) ∧
      (GivesList fields d "forward" items → ReadEach ServiceSpec.ofDocument? items rule.forward) := by
  simp only [ofDocument?, do_eq_some_iff, Option.pure_def, Option.some.injEq] at h
  obtain ⟨r, hr, comment, -, sources, hsources, destinations, hdestinations, allowAll, -, allow,
    hallow, forward, hforward, rfl⟩ := h
  exact ⟨fun hg => Locator.readEachOrRow (hg.required hr hsources),
    fun hg => Locator.readEachOrRow (hg.required hr hdestinations),
    fun hg => (oneOrMany_list_iff ServiceSpec.ofDocument?_list).1 (hg.withDefault hr hallow),
    fun hg => (oneOrMany_list_iff ServiceSpec.ofDocument?_list).1 (hg.withDefault hr hforward)⟩

/-- **A list stays a list**, in each field for one value or many that is given as
    one: there is a value for each item, which is what the item alone is read as.
    Sources and destinations are so too, except for a list that is one locator
    written as a row. -/
theorem lists_readEach (d : Document) (items : List Document) :
    (∀ host, Host.ofDocument? d = some host →
      (GivesList Host.fields d "roles" items → ReadEach Role.ofDocument? items host.roles) ∧
      (GivesList Host.fields d "aliases" items → ReadEach string items host.aliases)) ∧
    (∀ host, StaticHost.ofDocument? d = some host →
      GivesList StaticHost.fields d "aliases" items → ReadEach string items host.aliases) ∧
    (∀ res, Reservation.ofDocument? d = some res →
      GivesList Reservation.fields d "aliases" items → ReadEach string items res.aliases) ∧
    (∀ v, Vlan.ofDocument? d = some v →
      GivesList Vlan.fields d "access_vlans" items →
        ReadEach VlanRef.ofDocument? items v.accessVlans) ∧
    ∀ rule, Rule.ofDocument? d = some rule →
      (GivesList Rule.fields d "sources" items → Locator.ReadEachOrRow items rule.sources) ∧
      (GivesList Rule.fields d "destinations" items →
        Locator.ReadEachOrRow items rule.destinations) ∧
      (GivesList Rule.fields d "allow" items →
        ReadEach ServiceSpec.ofDocument? items rule.allow) ∧
      (GivesList Rule.fields d "forward" items →
        ReadEach ServiceSpec.ofDocument? items rule.forward) :=
  ⟨fun _ => Host.readEach, fun _ => StaticHost.readEach, fun _ => Reservation.readEach,
    fun _ => Vlan.readEach, fun _ => Rule.readEach⟩

end

/-- A rule for two sources and two services. -/
def pairedRule : Document :=
  ofFields [
    ("sources", .list [ofFields [("vlan", .text "lan")], ofFields [("vlan", .natural 20)]]),
    ("destinations", ofFields [("vlan", .text "internet")]),
    ("allow", .list [.text "ssh", .text "http"])]

/-- It has two of both. -/
theorem pairedRule_readEach : ∃ rule, Rule.ofDocument? pairedRule = some rule ∧
    rule.sources.length = 2 ∧ rule.allow.length = 2 := by
  obtain ⟨rule, hrule⟩ : ∃ rule, Rule.ofDocument? pairedRule = some rule :=
    Option.isSome_iff_exists.1 (by decide)
  have hsources := (((lists_readEach pairedRule
    [ofFields [("vlan", .text "lan")], ofFields [("vlan", .natural 20)]]).2.2.2.2 rule hrule).1
      ⟨_, rfl, rfl⟩)
  have hallow := (((lists_readEach pairedRule [.text "ssh", .text "http"]).2.2.2.2 rule
    hrule).2.2.1 ⟨_, rfl, rfl⟩)
  refine ⟨rule, hrule, ?_, hallow.length_eq.symm⟩
  rcases hsources with hsources | ⟨l, -, -, hnone⟩
  · exact hsources.length_eq.symm
  · exact nomatch hnone _ List.mem_cons_self

/-- A rule whose sources are a list of two texts. -/
def rowRule : Document :=
  ofFields [
    ("sources", .list [.text "lan", .text "sw"]),
    ("destinations", .list [ofFields [("vlan", .text "internet")]]),
    ("allow", .text "ssh")]

/-- **A list may be one value**: the rule has one source, on the switch that the
    second text names. -/
theorem rowRule_sources : ∃ rule, Rule.ofDocument? rowRule = some rule ∧
    GivesList Rule.fields rowRule "sources" [.text "lan", .text "sw"] ∧
    rule.sources = [{ vlan := .name "lan", switch := some "sw" }] ∧
    ¬ReadEach Locator.ofDocument? [.text "lan", .text "sw"] rule.sources :=
  ⟨_, rfl, ⟨_, rfl, rfl⟩, rfl, fun h => nomatch h.length_eq⟩

end NetworkSite
