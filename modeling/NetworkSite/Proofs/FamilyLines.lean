/-
  The lines of a tuple, family by family.

  A side of a tuple is narrowed to addresses, or it stands for addresses of both
  families.  A tuple without narrowed sides has one line.  Any other tuple has one
  for each family that both sides admit, which lists the addresses of this family and
  no others.  Lines list different addresses if they differ in the text
  (`RuleTuple.addresses_of_line_eq`), so that every pair of addresses of one family
  is in exactly one line (`RuleTuple.lines_by_family`).
-/
import NetworkSite.Proofs.AddressTexts
import NetworkSite.Proofs.Deduplication
import NetworkSite.Proofs.RuleLines
import Mathlib.Data.List.Nodup

namespace NetworkSite

theorem Text.append_cons_inj {c : Char} {front front' back back' : List Char} (h : c ∉ front)
    (h' : c ∉ front') (he : front ++ c :: back = front' ++ c :: back') :
    front = front' ∧ back = back' := by
  have hcut {front back : List Char} (h : c ∉ front) :
      cut (· == c) (front ++ c :: back) = some (front, back) :=
    cut_eq_some_iff.2 ⟨c, beq_self_eq_true c, fun d hd hc => h (beq_iff_eq.1 hc ▸ hd), rfl⟩
  have hsame := @hcut front' back' h'
  rw [← he, hcut h] at hsame
  exact Prod.mk.inj (Option.some.inj hsame)

/-! ## Lists of addresses -/

namespace IpAddress

variable {as bs : List IpAddress}

theorem comma_not_mem_text (a : IpAddress) : ',' ∉ a.text.toList :=
  a.not_mem_text (by decide) (by decide) fun _ => Nat.digitChar_ne ',' (by decide)

theorem tab_not_mem_text (a : IpAddress) : '\t' ∉ a.text.toList :=
  a.not_mem_text (by decide) (by decide) fun _ => Nat.digitChar_ne '\t' (by decide)

theorem tab_not_mem_texts (as : List IpAddress) :
    '\t' ∉ (",".intercalate (as.map (·.text))).toList := by
  intro hc
  rcases Text.mem_intercalate hc with hc | ⟨text, ht, hc⟩
  · exact absurd hc (by decide)
  · obtain ⟨a, -, rfl⟩ := List.mem_map.1 ht
    exact a.tab_not_mem_text hc

theorem split_texts (h : as ≠ []) : Text.split (· == ',')
    (",".intercalate (as.map (·.text))).toList = as.map (·.text.toList) := by
  have hone : ∀ a ∈ as, Text.split (· == ',') a.text.toList = [a.text.toList] := by
    intro a _
    refine Text.split_eq_singleton fun c hc => beq_eq_false_iff_ne.2 ?_
    rintro rfl
    exact a.comma_not_mem_text hc
  rw [Text.split_intercalate rfl (by simpa using h), List.flatMap_map, List.flatMap_congr hone,
    ← List.map_eq_flatMap]

theorem texts_ne_empty (h : as ≠ []) : ",".intercalate (as.map (·.text)) ≠ "" := by
  intro hempty
  have hsplit := split_texts h
  rw [hempty] at hsplit
  obtain ⟨a, rest, rfl⟩ := List.exists_cons_of_ne_nil h
  have hnil : [] = a.text.toList := (List.cons.inj hsplit).1
  rcases a.exists_mark with hm | hm
  · rw [← hnil] at hm
    cases hm
  · rw [← hnil] at hm
    cases hm

/-- A list of addresses can be read off its text. -/
theorem texts_inj (h : ",".intercalate (as.map (·.text)) = ",".intercalate (bs.map (·.text))) :
    as = bs := by
  by_cases ha : as = []
  · subst ha
    by_contra hb
    exact texts_ne_empty (Ne.symm hb) h.symm
  · by_cases hb : bs = []
    · subst hb
      exact absurd h (texts_ne_empty ha)
    · have hsplit := split_texts ha
      rw [h, split_texts hb] at hsplit
      refine (List.map_injective_iff.2 ?_ hsplit).symm
      exact fun a b hab => text_inj (String.toList_injective hab)

end IpAddress

/-! ## Endpoints -/

namespace Endpoint

variable {e : Endpoint} {f : Family} {a : IpAddress} {as bs : List IpAddress}

/-- The addresses that an endpoint is narrowed to, if it is. -/
def addresses? : Endpoint → Option (List IpAddress)
  | host _ _ addresses => some addresses
  | address _ a => some [a]
  | _ => none

/-- The addresses of an endpoint in one family. -/
def addressesIn (f : Family) (e : Endpoint) : List IpAddress :=
  (e.addresses?.getD []).filter (·.family == f)

/-- The text of an endpoint with these addresses, if it is narrowed to any. -/
def textWith (e : Endpoint) (addresses : List IpAddress) : String :=
  match e.addresses? with
  | some _ => addressesText e.zone addresses
  | none => e.text

/-- The endpoint has addresses of the family, or it is not narrowed to any. -/
def Admits (f : Family) (e : Endpoint) : Prop :=
  ∀ addresses, e.addresses? = some addresses → ∃ a ∈ addresses, a.family = f

/-- The address is one of the endpoint, or this is not narrowed to any. -/
def Takes (a : IpAddress) (e : Endpoint) : Prop :=
  ∀ addresses, e.addresses? = some addresses → a ∈ addresses

theorem mem_addressesIn : a ∈ e.addressesIn f ↔
    (∃ addresses, e.addresses? = some addresses ∧ a ∈ addresses) ∧ a.family = f := by
  unfold addressesIn
  cases e.addresses? <;> simp

theorem admits_of_addresses?_eq_none (h : e.addresses? = none) : e.Admits f := by
  intro addresses ha
  cases h.symm.trans ha

theorem Takes.admits (h : e.Takes a) : e.Admits a.family :=
  fun addresses ha => ⟨a, h addresses ha, rfl⟩

/-- The text in a family is that with the addresses of this family. -/
theorem textIn?_eq_some {text : String} :
    e.textIn? f = some text ↔ e.Admits f ∧ text = e.textWith (e.addressesIn f) := by
  cases e with
  | host zone hostname addresses =>
    have hadmits : (host zone hostname addresses).Admits f ↔
        addresses.filter (·.family == f) ≠ [] := by
      simp [Admits, addresses?, List.filter_eq_nil_iff]
    rw [hadmits]
    simp only [textIn?, textWith, addresses?, addressesIn, Endpoint.zone, Option.getD_some]
    cases addresses.filter (·.family == f) <;> simp [eq_comm]
  | address zone a =>
    have hadmits : (address zone a).Admits f ↔ a.family = f := by simp [Admits, addresses?]
    rw [hadmits, textIn?, Option.ite_none_right_eq_some, beq_iff_eq]
    refine and_congr_right fun hf => ?_
    have hown : (address zone a).addressesIn f = [a] := by simp [addressesIn, addresses?, hf]
    rw [hown, Option.some.injEq]
    exact eq_comm
  | vlan | internet | firewall | ipset =>
    constructor
    · intro htext
      exact ⟨admits_of_addresses?_eq_none rfl, (Option.some.inj htext).symm⟩
    · rintro ⟨-, rfl⟩
      rfl

theorem Takes.exists_textWith (h : e.Takes a) :
    ∃ as, a ∈ as ∧ e.textWith (e.addressesIn a.family) = e.textWith as := by
  cases he : e.addresses? with
  | none => exact ⟨[a], List.mem_singleton_self a, by simp [textWith, he]⟩
  | some addresses => exact ⟨_, mem_addressesIn.2 ⟨⟨addresses, he, h addresses he⟩, rfl⟩, rfl⟩

theorem Admits.exists_mem (h : e.Admits f) (hn : e.addresses? ≠ none) : ∃ a, a ∈ e.addressesIn f := by
  obtain ⟨addresses, he⟩ := Option.ne_none_iff_exists'.1 hn
  obtain ⟨a, ha, hf⟩ := h addresses he
  exact ⟨a, mem_addressesIn.2 ⟨⟨addresses, he, ha⟩, hf⟩⟩

theorem hasFamily_iff (h : e.addresses? ≠ some []) :
    e.hasFamily = true ↔ e.addresses? ≠ none := by
  cases e <;> simp_all [hasFamily, addresses?]

/-- What an endpoint shows in front of a tab can be read off a line. -/
theorem textWith_append_inj {back back' : List Char}
    (h : (e.textWith as).toList ++ '\t' :: back = (e.textWith bs).toList ++ '\t' :: back') :
    (e.addresses? ≠ none → as = bs) ∧ back = back' := by
  unfold textWith at h
  cases he : e.addresses? with
  | none =>
    rw [he] at h
    have hback := List.append_cancel_left h
    exact ⟨fun hne => absurd rfl hne, (List.cons.inj hback).2⟩
  | some addresses =>
    rw [he] at h
    simp only [addressesText, String.toList_append, List.append_assoc,
      List.append_cancel_left_eq] at h
    obtain ⟨htexts, hback⟩ := Text.append_cons_inj (IpAddress.tab_not_mem_texts as)
      (IpAddress.tab_not_mem_texts bs) h
    exact ⟨fun _ => IpAddress.texts_inj (String.toList_injective htexts), hback⟩

end Endpoint

/-! ## Lines -/

theorem filterMap_eq_map_filter {α β : Type} {f : α → Option β} {g : α → β}
    (h : ∀ a b, f a = some b → b = g a) (items : List α) :
    items.filterMap f = (items.filter fun a => (f a).isSome).map g := by
  induction items with
  | nil => rfl
  | cons a rest ih =>
    cases ha : f a with
    | none => simp [ha, ih]
    | some b => simp [ha, ih, h a b ha]

namespace RuleTuple

variable {t : RuleTuple} {f : Family} {a b : IpAddress} {line : String}
  {as as' bs bs' : List IpAddress}

/-- A side of the tuple is narrowed to addresses. -/
def IsNarrowed (t : RuleTuple) : Prop :=
  t.source.addresses? ≠ none ∨ t.destination.addresses? ≠ none

/-- The line of a tuple in a family. -/
def lineIn (t : RuleTuple) (f : Family) : String :=
  t.line (t.source.textWith (t.source.addressesIn f))
    (t.destination.textWith (t.destination.addressesIn f))

/-- The line lets the one address connect to the other: either is in the list of its
    side, if this is narrowed to addresses. -/
def Covers (t : RuleTuple) (line : String) (a b : IpAddress) : Prop :=
  ∃ as bs, a ∈ as ∧ b ∈ bs ∧ line = t.line (t.source.textWith as) (t.destination.textWith bs)

/-- The line has the address in a list of a narrowed side. -/
def Lists (t : RuleTuple) (line : String) (a : IpAddress) : Prop :=
  ∃ as bs, line = t.line (t.source.textWith as) (t.destination.textWith bs) ∧
    (t.source.addresses? ≠ none ∧ a ∈ as ∨ t.destination.addresses? ≠ none ∧ a ∈ bs)

theorem exists_toList_line (t : RuleTuple) (source destination : String) : ∃ rest : List Char,
    (t.line source destination).toList = t.action.word.toList ++
      '\t' :: (source.toList ++ '\t' :: (destination.toList ++ '\t' :: rest)) := by
  unfold line
  simp only [List.cons_append, String.intercalate_cons_cons, String.toList_append, List.append_assoc]
  exact ⟨_, rfl⟩

/-- **Lines tell what they list**: those of one tuple are different if the addresses
    of a narrowed side are. -/
theorem addresses_of_line_eq
    (h : t.line (t.source.textWith as) (t.destination.textWith bs) =
      t.line (t.source.textWith as') (t.destination.textWith bs')) :
    (t.source.addresses? ≠ none → as = as') ∧ (t.destination.addresses? ≠ none → bs = bs') := by
  obtain ⟨rest, hline⟩ := t.exists_toList_line (t.source.textWith as) (t.destination.textWith bs)
  obtain ⟨rest', hline'⟩ := t.exists_toList_line (t.source.textWith as') (t.destination.textWith bs')
  rw [h, hline'] at hline
  have hsource := (List.cons.inj (List.append_cancel_left hline)).2
  obtain ⟨has, hdestination⟩ := Endpoint.textWith_append_inj hsource
  obtain ⟨hbs, -⟩ := Endpoint.textWith_append_inj hdestination
  exact ⟨fun hn => (has hn).symm, fun hn => (hbs hn).symm⟩

theorem lineIn?_eq_some : t.lineIn? f = some line ↔
    (t.source.Admits f ∧ t.destination.Admits f) ∧ line = t.lineIn f := by
  unfold lineIn?
  constructor
  · intro h
    split at h
    next source destination hs hd =>
      obtain ⟨hsource, rfl⟩ := Endpoint.textIn?_eq_some.1 hs
      obtain ⟨hdestination, rfl⟩ := Endpoint.textIn?_eq_some.1 hd
      exact ⟨⟨hsource, hdestination⟩, (Option.some.inj h).symm⟩
    next => cases h
  · rintro ⟨⟨hs, hd⟩, rfl⟩
    rw [Endpoint.textIn?_eq_some.2 ⟨hs, rfl⟩, Endpoint.textIn?_eq_some.2 ⟨hd, rfl⟩]
    rfl

/-- The families that both sides admit. -/
def families (t : RuleTuple) : List Family :=
  [Family.v4, .v6].filter fun f => (t.lineIn? f).isSome

theorem mem_families : f ∈ t.families ↔ t.source.Admits f ∧ t.destination.Admits f := by
  have hall : f ∈ [Family.v4, .v6] := by cases f <;> decide
  simp [families, hall, Option.isSome_iff_exists, lineIn?_eq_some]

theorem nodup_families (t : RuleTuple) : t.families.Nodup :=
  List.Nodup.filter _ (by decide)

section

variable (hs : t.source.addresses? ≠ some []) (hd : t.destination.addresses? ≠ some [])

include hs hd

theorem hasFamily_iff :
    (t.source.hasFamily || t.destination.hasFamily) = true ↔ t.IsNarrowed := by
  rw [Bool.or_eq_true, Endpoint.hasFamily_iff hs, Endpoint.hasFamily_iff hd, IsNarrowed]

theorem lines_of_not_isNarrowed (hn : ¬t.IsNarrowed) :
    t.lines = [t.line t.source.text t.destination.text] := by
  rw [← hasFamily_iff hs hd] at hn
  rw [lines, if_neg hn]

theorem lines_of_isNarrowed (hn : t.IsNarrowed) : t.lines = t.families.map t.lineIn := by
  rw [← hasFamily_iff hs hd] at hn
  rw [lines, if_pos hn, families]
  exact filterMap_eq_map_filter (fun f line h => (lineIn?_eq_some.1 h).2) _

end

/-! ## Pairs of addresses -/

theorem Lists.family_eq (h : t.Lists (t.lineIn f) a) : a.family = f := by
  obtain ⟨as, bs, hline, hmem⟩ := h
  obtain ⟨hs, hd⟩ := addresses_of_line_eq hline
  rcases hmem with ⟨hn, ha⟩ | ⟨hn, ha⟩
  · rw [← hs hn] at ha
    exact (Endpoint.mem_addressesIn.1 ha).2
  · rw [← hd hn] at ha
    exact (Endpoint.mem_addressesIn.1 ha).2

theorem exists_lists (hn : t.IsNarrowed) (hf : f ∈ t.families) : ∃ a, t.Lists (t.lineIn f) a := by
  obtain ⟨hs, hd⟩ := mem_families.1 hf
  rcases hn with hn | hn
  · obtain ⟨a, ha⟩ := hs.exists_mem hn
    exact ⟨a, _, _, rfl, .inl ⟨hn, ha⟩⟩
  · obtain ⟨a, ha⟩ := hd.exists_mem hn
    exact ⟨a, _, _, rfl, .inr ⟨hn, ha⟩⟩

theorem Covers.lists (h : t.Covers line a b) (hn : t.IsNarrowed) :
    t.Lists line a ∨ t.Lists line b := by
  obtain ⟨as, bs, ha, hb, hline⟩ := h
  exact hn.imp (fun hn => ⟨as, bs, hline, .inl ⟨hn, ha⟩⟩) fun hn => ⟨as, bs, hline, .inr ⟨hn, hb⟩⟩

theorem covers_lineIn (ha : t.source.Takes a) (hb : t.destination.Takes b)
    (hab : a.family = b.family) : t.Covers (t.lineIn a.family) a b := by
  obtain ⟨as, has, hsource⟩ := ha.exists_textWith
  obtain ⟨bs, hbs, hdestination⟩ := hb.exists_textWith
  refine ⟨as, bs, has, hbs, ?_⟩
  rw [lineIn, hsource, hab, hdestination]

theorem nodup_map_lineIn (hn : t.IsNarrowed) : (t.families.map t.lineIn).Nodup := by
  refine List.pairwise_map.2 (t.nodup_families.imp_of_mem fun {f g} hf _ hne heq => hne ?_)
  obtain ⟨a, ha⟩ := exists_lists hn hf
  rw [← ha.family_eq]
  rw [heq] at ha
  exact ha.family_eq

theorem existsUnique_covers (hn : t.IsNarrowed) (ha : t.source.Takes a) (hb : t.destination.Takes b)
    (hab : a.family = b.family) : ∃! line, line ∈ t.families.map t.lineIn ∧ t.Covers line a b := by
  have hmem : a.family ∈ t.families := mem_families.2 ⟨ha.admits, hab ▸ hb.admits⟩
  refine ⟨t.lineIn a.family, ⟨List.mem_map_of_mem hmem, covers_lineIn ha hb hab⟩, ?_⟩
  rintro line ⟨hline, hcovers⟩
  obtain ⟨f, -, rfl⟩ := List.mem_map.1 hline
  rcases hcovers.lists hn with hlists | hlists
  · rw [hlists.family_eq]
  · rw [hab, hlists.family_eq]

/-- **Lines by family.**  A tuple without narrowed sides has one line.  Any other has
    one for each family that both sides admit, IPv4 first, with the addresses of this
    family on each narrowed side.  So two addresses of one family are in exactly one
    line, no line lists addresses of both families, and there is no line exactly if
    the sides admit no family together. -/
theorem lines_by_family (t : RuleTuple) (hs : t.source.addresses? ≠ some [])
    (hd : t.destination.addresses? ≠ some []) :
    (¬t.IsNarrowed → t.lines = [t.line t.source.text t.destination.text]) ∧
    (t.IsNarrowed → ∃ families : List Family, families.Sublist [.v4, .v6] ∧
      (∀ f, f ∈ families ↔ t.source.Admits f ∧ t.destination.Admits f) ∧
      t.lines = families.map t.lineIn) ∧
    t.lines.Nodup ∧
    (∀ a b, t.source.Takes a → t.destination.Takes b → a.family = b.family →
      ∃! line, line ∈ t.lines ∧ t.Covers line a b) ∧
    (∀ line ∈ t.lines, ∀ a b, t.Lists line a → t.Lists line b → a.family = b.family) ∧
    (t.lines = [] ↔ ∀ f, ¬(t.source.Admits f ∧ t.destination.Admits f)) := by
  by_cases hn : t.IsNarrowed
  · rw [lines_of_isNarrowed hs hd hn]
    refine ⟨fun hno => absurd hn hno,
      fun _ => ⟨t.families, List.filter_sublist, fun f => mem_families, rfl⟩,
      nodup_map_lineIn hn, fun a b ha hb hab => existsUnique_covers hn ha hb hab, ?_, ?_⟩
    · intro line hline a b ha hb
      obtain ⟨f, -, rfl⟩ := List.mem_map.1 hline
      rw [ha.family_eq, hb.family_eq]
    · rw [List.map_eq_nil_iff, List.eq_nil_iff_forall_not_mem]
      exact forall_congr' fun f => not_congr mem_families
  · have hsource : t.source.addresses? = none := by
      by_contra hne
      exact hn (.inl hne)
    have hdestination : t.destination.addresses? = none := by
      by_contra hne
      exact hn (.inr hne)
    rw [lines_of_not_isNarrowed hs hd hn]
    refine ⟨fun _ => rfl, fun hyes => absurd hyes hn, List.nodup_singleton _, ?_, ?_, ?_⟩
    · intro a b _ _ _
      refine ⟨_, ⟨List.mem_singleton_self _, [a], [b], List.mem_singleton_self a,
        List.mem_singleton_self b, ?_⟩, fun line hline => List.mem_singleton.1 hline.1⟩
      simp only [Endpoint.textWith, hsource, hdestination]
    · rintro line - a b ⟨_, _, -, ⟨hne, -⟩ | ⟨hne, -⟩⟩
      · exact absurd hsource hne
      · exact absurd hdestination hne
    · exact iff_of_false (List.cons_ne_nil _ _) fun hno => hno .v4
        ⟨Endpoint.admits_of_addresses?_eq_none hsource,
          Endpoint.admits_of_addresses?_eq_none hdestination⟩

/-- A tuple between two hosts, whose addresses are in no order of families. -/
def mixed : RuleTuple where
  source := .host "lan" "pc" [.v6 (.ofNat 0xfd000001000000000000000000000007),
    .v4 (.ofNat 0x0a000007)]
  destination := .host "lab" "nas" [.v4 (.ofNat 0x0a000105), .v4 (.ofNat 0x0a000106),
    .v6 (.ofNat 0xfd000002000000000000000000000005)]
  protocol := .tcp
  ports := PortRange.between? 22 22
  action := .accept
  comment := "files"

/-- Two IPv4 addresses of the hosts are in one line. -/
theorem mixed_covers : mixed.source.addresses? ≠ some [] ∧ mixed.destination.addresses? ≠ some [] ∧
    ∃! line, line ∈ mixed.lines ∧
      mixed.Covers line (.v4 (.ofNat 0x0a000007)) (.v4 (.ofNat 0x0a000106)) := by
  have hs : mixed.source.addresses? ≠ some [] := by decide
  have hd : mixed.destination.addresses? ≠ some [] := by decide
  have ha : mixed.source.Takes (.v4 (.ofNat 0x0a000007)) := by
    rintro addresses ⟨⟩
    decide
  have hb : mixed.destination.Takes (.v4 (.ofNat 0x0a000106)) := by
    rintro addresses ⟨⟩
    decide
  exact ⟨hs, hd, (lines_by_family mixed hs hd).2.2.2.1 _ _ ha hb rfl⟩

example : mixed.lines = [
    "ACCEPT\tlan:10.0.0.7\tlab:10.0.1.5,10.0.1.6\ttcp\t22\t# files",
    "ACCEPT\tlan:fd00:1::7\tlab:fd00:2::5\ttcp\t22\t# files"] := by
  decide

end RuleTuple

/-! ## Tuples of rules -/

theorem Locator.StandsFor.addresses?_ne {s : Site} {p : AddressPlan} {l : Locator}
    {e : SideEndpoint} (he : l.StandsFor s p e) : e.endpoint.addresses? ≠ some [] := by
  cases standsFor_iff.1 he with
  | routable | firewall => exact nofun
  | whole hz => cases hz <;> exact nofun
  | narrowed hz hl => cases hl <;> exact nofun
  | host hw hl hn ha =>
    intro hnil
    exact ha (Option.some.inj hnil)

theorem Site.addresses?_ne_of_compile {s : Site} {templates : List Template} {plan : BuildPlan}
    (h : s.compile templates = .ok plan) {t : RuleTuple} (ht : t ∈ plan.firewall) :
    t.source.addresses? ≠ some [] ∧ t.destination.addresses? ≠ some [] := by
  have ht := mem_ruleTuples_of_compile h ht
  rw [ruleTuples_eq] at ht
  obtain ⟨r, -, ht⟩ := List.mem_flatMap.1 ht
  obtain ⟨e, f, ⟨l, -, he⟩, ⟨k, -, hf⟩, -, port, -, rfl⟩ := Rule.mem_tuples.1 ht
  exact ⟨he.addresses?_ne, hf.addresses?_ne⟩

end NetworkSite
