/-
  Decoders and what they read back.

  A decoder reads back what a writer writes (`ReadsBack`) if of each value that it
  reads out of some document, what is written is read as the same value.  A table
  that is written with one entry a field is the record of these entries
  (`record_tableOf`), and so a type is read back if its fields are.  A list is
  never taken for one value of a field that holds one or many
  (`readsBack_oneOrMany`).
-/
import NetworkSite.Proofs.AddressTexts
import NetworkSite.Site.Reading
import NetworkSite.Site.Writing
import Mathlib.Data.List.Nodup
import Mathlib.Data.List.Pairwise

namespace NetworkSite

open Document

variable {α : Type}

/-! ## Settled documents -/

namespace Document

/-- There is nothing open in the document. -/
def Settled (d : Document) : Prop :=
  d.resolve? = some d

theorem settled_text (s : String) : (text s).Settled :=
  rfl

theorem settled_integer (n : Int) : (integer n).Settled := by
  cases n <;> rfl

theorem settled_list {items : List Document} (h : ∀ d ∈ items, d.Settled) :
    (list items).Settled := by
  have hitems : resolveItems? items = some items := by
    induction items with
    | nil => rfl
    | cons d rest ih =>
      have hd : d.resolve? = some d := h d List.mem_cons_self
      rw [resolveItems?, hd, ih fun e he => h e (List.mem_cons_of_mem d he)]
      rfl
  rw [Settled, resolve?, hitems]
  rfl

theorem settled_ofFields {entries : List (String × Document)} (h : ∀ e ∈ entries, e.2.Settled) :
    (ofFields entries).Settled := by
  have hentries : resolveEntries? (entries.map fun e => (text e.1, e.2)) =
      some (entries.map fun e => (text e.1, e.2)) := by
    induction entries with
    | nil => rfl
    | cons e rest ih =>
      have he : e.2.resolve? = some e.2 := h e List.mem_cons_self
      rw [List.map_cons, resolveEntries?, he, ih fun x hx => h x (List.mem_cons_of_mem e hx)]
      rfl
  rw [Settled, ofFields, resolve?, hentries]
  rfl

theorem settled_tableOf {entries : List (String × Option Document)}
    (h : ∀ e ∈ entries, ∀ d ∈ e.2, d.Settled) : (tableOf entries).Settled := by
  refine settled_ofFields fun e he => ?_
  obtain ⟨⟨key, value⟩, hm, he⟩ := List.mem_filterMap.1 he
  obtain ⟨d, hd, rfl⟩ := Option.map_eq_some_iff.1 he
  exact h _ hm d hd

end Document

namespace Decode

/-! ## Scalars and lists -/

-- Decoders go through a dozen fields and more.  The lemmas on `Option.bind` would
-- have `simp` go through the rest of the fields twice at each of them.
theorem do_eq_some_iff {β : Type} {x : Option α} {f : α → Option β} {b : β} :
    (do let a ← x; f a) = some b ↔ ∃ a, x = some a ∧ f a = some b :=
  Option.bind_eq_some_iff

theorem do_some {β : Type} {a : α} {f : α → Option β} : (do let x ← some a; f x) = f a :=
  rfl

/-- Of what the decoder reads it reads what is written of it, and as the same. -/
def ReadsBack (decode : Decoder α) (write : α → Document) : Prop :=
  ∀ {d a}, decode d = some a → decode (write a) = some a

theorem readsBack_string : ReadsBack string .text :=
  fun _ => rfl

theorem readsBack_boolean : ReadsBack boolean .bool :=
  fun _ => rfl

theorem lt_of_natural {bits n : Nat} {d : Document} (h : natural bits d = some n) : n < 2 ^ bits := by
  have hrange : ∀ {m : Nat}, (if m < 2 ^ bits then some m else none) = some n → n < 2 ^ bits := by
    intro m hm
    split at hm
    next hlt => cases hm; exact hlt
    next => cases hm
  unfold natural at h
  split at h
  next => exact hrange h
  next =>
    split at h
    next => cases h; exact Nat.two_pow_pos bits
    next => cases h
  next =>
    obtain ⟨m, -, hm⟩ := Option.bind_eq_some_iff.1 h
    exact hrange hm
  next => cases h

theorem natural_natural {bits n : Nat} (h : n < 2 ^ bits) : natural bits (.natural n) = some n :=
  if_pos h

theorem readsBack_natural (bits : Nat) : ReadsBack (natural bits) .natural :=
  fun h => natural_natural (lt_of_natural h)

theorem readsBack_word32 : ReadsBack word32 fun n => .natural n.toNat := by
  intro d n _
  rw [word32, natural_natural n.toNat_lt, Option.map_some, UInt32.ofNat_toNat]

theorem readsBack_word64 : ReadsBack word64 fun n => .natural n.toNat := by
  intro d n _
  rw [word64, natural_natural n.toNat_lt, Option.map_some, UInt64.ofNat_toNat]

theorem signed_natural {bits n : Nat} (h : n < 2 ^ (bits - 1)) :
    signed bits (.natural n) = some (n : Int) :=
  if_pos h

theorem signed_negative {bits n : Nat} (h : n ≤ 2 ^ (bits - 1)) :
    signed bits (.negative n) = some (-n : Int) :=
  if_pos h

theorem readsBack_signed (bits : Nat) : ReadsBack (signed bits) .integer := by
  intro d n h
  have hnatural : ∀ {m : Nat}, (if m < 2 ^ (bits - 1) then some (m : Int) else none) = some n →
      signed bits (.integer n) = some n := by
    intro m hm
    split at hm
    next hlt => cases hm; exact signed_natural hlt
    next => cases hm
  have hnegative : ∀ {m : Nat}, (if m ≤ 2 ^ (bits - 1) then some (-m : Int) else none) = some n →
      signed bits (.integer n) = some n := by
    intro m hm
    split at hm
    next hle =>
      cases hm
      cases m with
      | zero => exact signed_natural (Nat.two_pow_pos _)
      | succ m => exact signed_negative hle
    next => cases hm
  unfold signed at h
  split at h
  next => exact hnatural h
  next => exact hnegative h
  next =>
    split at h
    next => exact hnatural h
    next =>
      obtain ⟨m, -, hm⟩ := Option.bind_eq_some_iff.1 h
      exact hnegative hm
  next => cases h

theorem nullable_text {decode : Decoder α} (s : String) :
    nullable decode (.text s) = (decode (.text s)).map some :=
  rfl

theorem nullable_natural {decode : Decoder α} (n : Nat) :
    nullable decode (.natural n) = (decode (.natural n)).map some :=
  rfl

/-- A value under `nullable` is read back if what is written of it is not taken for
    nothing. -/
theorem nullable_of_readsBack {decode : Decoder α} {write : α → Document}
    (hread : ReadsBack decode write)
    (hwrite : ∀ a, nullable decode (write a) = (decode (write a)).map some) {d : Document} {a : α}
    (h : nullable decode d = some (some a)) : nullable decode (write a) = some (some a) := by
  have hdecode : ∃ d, decode d = some a := by
    unfold nullable at h
    split at h
    next => cases h
    next =>
      split at h
      next => cases h
      next =>
        obtain ⟨b, hb, he⟩ := Option.map_eq_some_iff.1 h
        cases he
        exact ⟨_, hb⟩
    next =>
      obtain ⟨b, hb, he⟩ := Option.map_eq_some_iff.1 h
      cases he
      exact ⟨_, hb⟩
  obtain ⟨d, hd⟩ := hdecode
  rw [hwrite, hread hd, Option.map_some]

theorem exists_of_mem_mapM {decode : Decoder α} {items : List Document} {values : List α}
    (h : items.mapM decode = some values) : ∀ a ∈ values, ∃ d ∈ items, decode d = some a := by
  induction items generalizing values with
  | nil =>
    cases h
    exact fun a ha => absurd ha List.not_mem_nil
  | cons d rest ih =>
    rw [List.mapM_cons] at h
    obtain ⟨b, hb, h⟩ := Option.bind_eq_some_iff.1 h
    obtain ⟨bs, hbs, h⟩ := Option.bind_eq_some_iff.1 h
    cases h
    intro a ha
    rcases List.mem_cons.1 ha with rfl | ha
    · exact ⟨d, List.mem_cons_self, hb⟩
    · obtain ⟨e, he, ha⟩ := ih hbs a ha
      exact ⟨e, List.mem_cons_of_mem d he, ha⟩

/-- The items of a document that is a list. -/
def itemsOf : Document → List Document
  | .list items => items
  | .series items => items
  | _ => []

theorem exists_of_mem_list {decode : Decoder α} {d : Document} {values : List α}
    (h : list decode d = some values) : ∀ a ∈ values, ∃ e ∈ itemsOf d, decode e = some a := by
  unfold list at h
  split at h
  next => exact exists_of_mem_mapM h
  next => exact exists_of_mem_mapM h
  next =>
    split at h
    next =>
      cases h
      exact fun a ha => absurd ha List.not_mem_nil
    next => cases h
  next => cases h

theorem readsBack_list {decode : Decoder α} {write : α → Document} (h : ReadsBack decode write) :
    ReadsBack (list decode) fun values => .list (values.map write) := by
  intro d values hd
  refine mapM_map_eq_some fun a ha => ?_
  obtain ⟨e, -, he⟩ := exists_of_mem_list hd a ha
  exact h he

theorem readsBack_texts : ReadsBack (list string) .texts :=
  readsBack_list readsBack_string

/-- One value or many are read back from a list, if no list that is written is taken
    for one value. -/
theorem readsBack_oneOrMany {decode : Decoder α} {write : α → Document} (h : ReadsBack decode write)
    (hsettled : ∀ a, (write a).Settled)
    (hmany : ∀ values : List α, decode (.list (values.map write)) = none) :
    ReadsBack (oneOrMany decode) fun values => .list (values.map write) := by
  intro d values hd
  have hread : ∀ a ∈ values, decode (write a) = some a := by
    unfold oneOrMany at hd
    obtain ⟨e, -, hd⟩ := Option.bind_eq_some_iff.1 hd
    intro a ha
    split at hd
    next b hb =>
      cases hd
      rw [List.mem_singleton.1 ha]
      exact h hb
    next =>
      split at hd
      next =>
        obtain ⟨e, -, he⟩ := exists_of_mem_mapM hd a ha
        exact h he
      next => cases hd
  have hlist : (Document.list (values.map write)).resolve? = some (.list (values.map write)) :=
    settled_list (List.forall_mem_map.2 fun a _ => hsettled a)
  dsimp only [oneOrMany]
  rw [hlist, Option.bind_eq_bind, Option.bind_some, hmany]
  exact mapM_map_eq_some hread

/-! ## Records -/

section

variable {fields : List Field} {entries : List (String × Option Document)} {name : String}

/-- No two fields go by the same name. -/
def Distinct (fields : List Field) : Prop :=
  (fields.flatMap fun f => f.name :: f.aliases).Nodup

instance (fields : List Field) : Decidable (Distinct fields) :=
  inferInstanceAs (Decidable (List.Nodup _))

theorem Distinct.nodup_names (h : Distinct fields) : (fields.map (·.name)).Nodup := by
  refine List.pairwise_map.2 ((List.nodup_flatMap.1 h).2.imp fun {f g} hfg heq => ?_)
  exact hfg List.mem_cons_self (heq ▸ List.mem_cons_self)

/-- The name of a field points to this field only. -/
theorem Distinct.isKey_name (h : Distinct fields) {f g : Field} (hf : f ∈ fields) (hg : g ∈ fields)
    (position : Nat) : f.isKey position (.name g.name) = (g.name == f.name) := by
  rw [Field.isKey, Bool.or_eq_left_iff_imp]
  intro halias
  by_contra hne
  have hsymm : Std.Symm (Function.onFun List.Disjoint fun f : Field => f.name :: f.aliases) :=
    ⟨fun _ _ h _ hb ha => h ha hb⟩
  have hfg : f ≠ g := by
    rintro rfl
    exact hne (beq_self_eq_true _)
  exact (List.nodup_flatMap.1 h).2.forall hf hg hfg
    (List.mem_cons_of_mem _ (List.contains_iff_mem.1 halias)) List.mem_cons_self

/-- The entries of a table that have a value. -/
def present (entries : List (String × Option Document)) : Record :=
  entries.filterMap fun (key, value) => value.map (key, ·)

theorem present_cons (key : String) (value : Option Document) :
    present ((key, value) :: entries) = (value.map (key, ·)).toList ++ present entries := by
  cases value <;> rfl

theorem mem_keys_of_mem_present {e : String × Document} (he : e ∈ present entries) :
    e.1 ∈ entries.map (·.1) := by
  obtain ⟨⟨key, value⟩, hm, hv⟩ := List.mem_filterMap.1 he
  obtain ⟨d, -, rfl⟩ := Option.map_eq_some_iff.1 hv
  exact List.mem_map_of_mem hm

theorem lookup_present (h : (entries.map (·.1)).Nodup) :
    (present entries).lookup name = (entries.lookup name).join := by
  induction entries with
  | nil => rfl
  | cons e rest ih =>
    obtain ⟨key, value⟩ := e
    rw [List.map_cons, List.nodup_cons] at h
    rw [present_cons, List.lookup_cons]
    cases hkey : name == key with
    | false => cases value <;> simp [List.lookup_cons, hkey, ih h.2]
    | true =>
      cases value with
      | some d => simp [List.lookup_cons, hkey]
      | none =>
        have hnone : (present rest).lookup name = none := by
          rw [List.lookup_eq_none_iff]
          rintro e he
          rw [bne_iff_ne, ← (beq_iff_eq.1 hkey).symm]
          rintro rfl
          exact h.1 (mem_keys_of_mem_present he)
        simpa using hnone

theorem filter_present (h : (entries.map (·.1)).Nodup) {e : String × Option Document}
    (he : e ∈ entries) : (present entries).filter (·.1 == e.1) = (e.2.map (e.1, ·)).toList := by
  induction entries with
  | nil => cases he
  | cons x rest ih =>
    obtain ⟨key, value⟩ := x
    rw [List.map_cons, List.nodup_cons] at h
    rw [present_cons, List.filter_append]
    rcases List.mem_cons.1 he with rfl | he
    · have hrest : (present rest).filter (·.1 == key) = [] := by
        refine List.filter_eq_nil_iff.2 fun x hx hk => h.1 ?_
        exact beq_iff_eq.1 hk ▸ mem_keys_of_mem_present hx
      rw [hrest, List.append_nil]
      cases value <;> simp
    · have hmem : e.1 ∈ rest.map (·.1) := List.mem_map_of_mem he
      have hne : key ≠ e.1 := fun hk => h.1 (hk ▸ hmem)
      rw [ih h.2 he]
      cases value <;> simp [hne]

/-- The value of a field is the entry under its name. -/
theorem fieldValue_present (hfields : Distinct fields)
    (hkeys : entries.map (·.1) = fields.map (·.name)) {f : Field} (hf : f ∈ fields) (position : Nat) :
    fieldValue ((present entries).map fun e => (.name e.1, e.2)) f position =
      some ((present entries).filter (·.1 == f.name)) := by
  have hkey : ∀ e ∈ present entries, f.isKey position (.name e.1) = (e.1 == f.name) := by
    intro e he
    have hm := mem_keys_of_mem_present he
    rw [hkeys, List.mem_map] at hm
    obtain ⟨g, hg, hname⟩ := hm
    rw [← hname, hfields.isKey_name hf hg]
  have hname : f.name ∈ entries.map (·.1) := hkeys ▸ List.mem_map_of_mem hf
  obtain ⟨e, he, hname⟩ := List.mem_map.1 hname
  have hnodup : (entries.map (·.1)).Nodup := hkeys ▸ hfields.nodup_names
  rw [fieldValue, List.filter_map, Function.comp_def, List.filter_congr hkey, ← hname,
    filter_present hnodup he]
  cases e.2 <;> rfl

/-- **A table of entries for the fields is the record of those that have a value.** -/
theorem record_tableOf (hfields : Distinct fields) (hkeys : entries.map (·.1) = fields.map (·.name)) :
    record fields (tableOf entries) = some (present entries) := by
  have hnodup : (entries.map (·.1)).Nodup := hkeys ▸ hfields.nodup_names
  have htexts : ((present entries).map fun e => (text e.1, e.2)).mapM
      (fun e => (Key.ofDocument? e.1).map (·, e.2)) =
      some ((present entries).map fun e => (.name e.1, e.2)) :=
    mapM_map_eq fun _ _ => rfl
  have hvalues : (fields.zipIdx.map id).mapM (fun x =>
      fieldValue ((present entries).map fun e => (.name e.1, e.2)) x.1 x.2) =
      some (fields.zipIdx.map fun x => (present entries).filter (·.1 == x.1.name)) :=
    mapM_map_eq fun x hx => fieldValue_present hfields hkeys (List.fst_mem_of_mem_zipIdx hx) x.2
  have hflatten : (fields.zipIdx.map fun x => (present entries).filter (·.1 == x.1.name)).flatten =
      present entries := by
    have hnames : (fields.zipIdx.map fun x => (present entries).filter (·.1 == x.1.name)) =
        ((fields.zipIdx.map (·.1)).map (·.name)).map fun k => (present entries).filter (·.1 == k) := by
      simp only [List.map_map, Function.comp_def]
    rw [hnames, List.zipIdx_map_fst, ← hkeys, List.map_map, Function.comp_def,
      List.map_congr_left fun e he => filter_present hnodup he, ← List.flatMap_def,
      ← List.filterMap_eq_flatMap_toList]
    rfl
  rw [List.map_id] at hvalues
  calc
    record fields (tableOf entries) = (do
        let keys ← ((present entries).map fun e => (text e.1, e.2)).mapM
          fun e => (Key.ofDocument? e.1).map (·, e.2)
        let values ← fields.zipIdx.mapM fun x => fieldValue keys x.1 x.2
        return values.flatten) := rfl
    _ = some (present entries) := by
      rw [htexts, do_some, hvalues, do_some, hflatten]
      rfl

/-- The record has the entries that have a value. -/
def Shows (r : Record) (entries : List (String × Option Document)) : Prop :=
  ∀ name, r.lookup name = (entries.lookup name).join

theorem exists_record_tableOf (hfields : Distinct fields)
    (hkeys : entries.map (·.1) = fields.map (·.name)) :
    ∃ r, record fields (tableOf entries) = some r ∧ Shows r entries :=
  ⟨_, record_tableOf hfields hkeys, fun _ => lookup_present (hkeys ▸ hfields.nodup_names)⟩

end

/-! ## Fields -/

namespace Shows

variable {w r : Record} {entries : List (String × Option Document)} {name : String}
  {decode : Decoder α} {write : α → Document} {a value : α}

theorem required_eq {d : Document} (hw : Shows w entries) (name : String)
    (he : entries.lookup name = some (some d)) : w.required name decode = decode d := by
  rw [Record.required, hw, he]
  rfl

/-- A field that must be there is read back. -/
theorem required (hw : Shows w entries) (hread : ReadsBack decode write)
    (h : r.required name decode = some a) (he : entries.lookup name = some (some (write a))) :
    w.required name decode = some a := by
  obtain ⟨d, -, hd⟩ := Option.bind_eq_some_iff.1 h
  rw [hw.required_eq name he]
  exact hread hd

/-- A field with a default is read back, the default included. -/
theorem withDefault (hw : Shows w entries) (hread : ReadsBack decode write)
    (hvalue : decode (write value) = some value) (h : r.withDefault name value decode = some a)
    (he : entries.lookup name = some (some (write a))) : w.withDefault name value decode = some a := by
  rw [Record.withDefault, hw, he]
  unfold Record.withDefault at h
  split at h
  next => exact hread h
  next => cases h; exact hvalue

/-- A field that is left out where there is nothing is read back. -/
theorem optional {o : Option α} (hw : Shows w entries) (hread : ReadsBack decode write)
    (hwrite : ∀ a, nullable decode (write a) = (decode (write a)).map some)
    (h : r.withDefault name none (nullable decode) = some o)
    (he : entries.lookup name = some (o.map write)) :
    w.withDefault name none (nullable decode) = some o := by
  rw [Record.withDefault, hw, he]
  cases o with
  | none => rfl
  | some a =>
    unfold Record.withDefault at h
    split at h
    next => exact nullable_of_readsBack hread hwrite h
    next => cases h

/-- A field that is always left out has its default. -/
theorem absent (hw : Shows w entries) (name : String) (he : entries.lookup name = some none) :
    w.withDefault name value decode = some value := by
  rw [Record.withDefault, hw, he]
  rfl

/-- A list that is left out where it is empty is read back. -/
theorem unlessEmpty {values : List α} {decode : Decoder (List α)} (hw : Shows w entries)
    (hread : ReadsBack decode fun values => .list (values.map write))
    (h : r.withDefault name [] decode = some values)
    (he : entries.lookup name = some (unlessEmpty (values.map write))) :
    w.withDefault name [] decode = some values := by
  rw [Record.withDefault, hw, he]
  cases values with
  | nil => rfl
  | cons a rest =>
    unfold Record.withDefault at h
    split at h
    next => exact hread h
    next => cases h

end Shows

end Decode

end NetworkSite
