/-
  Reverse names and their zones.

  The reverse labels of an address are stretches of its number, the highest
  first (`Address.reverseLabels_eq`).  Addresses of one network agree in the
  stretches that its prefix covers wholly, and these are the labels of its
  reverse zone (`Network.isBelow_reverseZone`).  So every reverse record of a
  build plan lies in a zone of its vlan, and the reverse records are those of the
  address records, one by one and in their order (`Site.dns_reverse`).
-/
import NetworkSite.Proofs.Coverage
import NetworkSite.Records.Dns

namespace NetworkSite

/-! ## Labels -/

theorem Text.join_append {sep : List Char} {front back : List (List Char)} (hf : front ≠ [])
    (hb : back ≠ []) : join sep (front ++ back) = join sep front ++ sep ++ join sep back := by
  obtain ⟨next, back, rfl⟩ := List.exists_cons_of_ne_nil hb
  induction front with
  | nil => exact absurd rfl hf
  | cons piece front ih =>
    cases front with
    | nil => rfl
    | cons second front =>
      have ih := ih (List.cons_ne_nil _ _)
      simp only [List.cons_append, join] at ih ⊢
      rw [ih]
      simp only [List.append_assoc]

theorem Text.hexPadded_eq (width n : Nat) :
    hexPadded width n =
      (List.range width).map fun k => Nat.digitChar (n / 16 ^ (width - 1 - k) % 16) := by
  induction width generalizing n with
  | zero => rfl
  | succ w ih =>
    rw [hexPadded, ih, List.range_succ, List.map_append, List.map_singleton]
    congr 1
    · refine List.map_congr_left fun k hk => ?_
      have hk := List.mem_range.1 hk
      rw [Nat.div_div_eq_div_mul, ← Nat.pow_succ', show w + 1 - 1 - k = w - 1 - k + 1 by omega]
    · simp

namespace Family

/-- The number of reverse labels of an address. -/
def labelCount : Family → Nat
  | v4 => 4
  | v6 => 32

/-- The reverse label of the last bits of a number. -/
def label : Family → Nat → List Char
  | v4, n => Text.decimal (n % 256)
  | v6, n => [Nat.digitChar (n % 16)]

end Family

variable {f : Family}

/-- Reverse labels are stretches of the number of an address, the highest
    first. -/
theorem Address.reverseLabels_eq (a : Address f) :
    a.reverseLabels = (List.range f.labelCount).map fun k =>
      f.label (a.toNat / 2 ^ (f.labelBits * (f.labelCount - 1 - k))) := by
  cases f with
  | v4 =>
    have hrange : List.range Family.v4.labelCount = [0, 1, 2, 3] := rfl
    rw [hrange]
    simp only [reverseLabels, Octets.ofNat, Family.label, Family.labelBits, Family.labelCount,
      List.map_cons, List.map_nil, Nat.pow_mul]
  | v6 =>
    rw [reverseLabels, Text.hexPadded_eq, List.map_map]
    refine List.map_congr_left fun k _ => ?_
    simp only [Function.comp_apply, Family.label, Family.labelBits, Family.labelCount, Nat.pow_mul]

/-! ## Zones -/

/-- The name is that of the zone or lies below it. -/
def IsBelow (zone name : String) : Prop :=
  name = zone ∨ ∃ front, name = front ++ "." ++ zone

namespace Network

variable {n : Network f} {a : Address f}

/-- Addresses of a network have the stretches that lie in its prefix in common
    with its base. -/
theorem div_eq_of_contains (h : n.contains a = true) {bits : Nat} (hb : f.width - n.length ≤ bits) :
    a.toNat / 2 ^ bits = n.first.toNat / 2 ^ bits := by
  have hbits : 2 ^ bits = n.size * 2 ^ (bits - (f.width - n.length)) := by
    rw [size, ← Nat.pow_add, Nat.add_sub_cancel' hb]
  have hsize : n.first.toNat / n.size = a.toNat / n.size := by
    rw [toNat_first, ← beq_iff_eq.1 h, Nat.mul_div_cancel _ n.size_pos]
  rw [hbits, ← Nat.div_div_eq_div_mul, ← Nat.div_div_eq_div_mul, hsize]

/-- Addresses of a network begin with the labels of its reverse zone. -/
theorem take_reverseLabels (h : n.contains a = true) :
    a.reverseLabels.take (n.length / f.labelBits) =
      n.first.reverseLabels.take (n.length / f.labelBits) := by
  rw [a.reverseLabels_eq, n.first.reverseLabels_eq, ← List.map_take, ← List.map_take,
    List.take_range]
  refine List.map_congr_left fun k hk => ?_
  have hk := List.mem_range.1 hk
  rw [div_eq_of_contains h]
  cases f with
  | v4 =>
    simp only [Family.width, Family.labelBits, Family.labelCount] at hk ⊢
    omega
  | v6 =>
    simp only [Family.width, Family.labelBits, Family.labelCount] at hk ⊢
    omega

/-- **The reverse zone of a network covers the reverse names of its addresses.** -/
theorem isBelow_reverseZone (h : n.contains a = true) : IsBelow n.reverseZone a.reverseName := by
  have hlabels := List.take_append_drop (n.length / f.labelBits) a.reverseLabels
  rw [take_reverseLabels h] at hlabels
  rw [IsBelow, reverseZone, Address.reverseName, ← hlabels, List.reverse_append, List.append_assoc]
  by_cases hd : a.reverseLabels.drop (n.length / f.labelBits) = []
  · rw [hd]
    exact .inl rfl
  · rw [← ne_eq, ← List.reverse_ne_nil_iff] at hd
    rw [Text.join_append hd (List.append_ne_nil_of_right_ne_nil _ (List.cons_ne_nil _ _))]
    rw [String.ofList_append, String.ofList_append]
    exact .inr ⟨_, rfl⟩

end Network

theorem PlannedVlan.Covers.exists_zone {w : PlannedVlan} {a : IpAddress} (h : w.Covers a) :
    ∃ zone ∈ w.zone.reverseZones, IsBelow zone a.reverseName := by
  cases a with
  | v4 a => exact ⟨_, List.mem_cons_self, Network.isBelow_reverseZone h⟩
  | v6 a =>
    obtain ⟨n, hn, ha⟩ := h
    refine ⟨n.reverseZone, List.mem_cons_of_mem _ ?_, Network.isBelow_reverseZone ha⟩
    rw [hn]
    exact List.mem_singleton_self _

/-! ## Records -/

namespace DnsRecord

/-- The record of the address of a name. -/
def ofAddress (name : String) (a : IpAddress) : DnsRecord where
  name := name
  type := a.recordType
  value := a.text

/-- The record that leads back from the address of a name. -/
def reverseOf (name : String) (a : IpAddress) : DnsRecord where
  name := a.reverseName
  type := .ptr
  value := name

/-- The record has the address of a name. -/
def isAddress (r : DnsRecord) : Bool :=
  r.type == .a || r.type == .aaaa

/-- The second record leads back from the address of the first one to its
    name. -/
def Reverses (r back : DnsRecord) : Prop :=
  ∃ a : IpAddress, r.type = a.recordType ∧ r.value = a.text ∧
    back.name = a.reverseName ∧ back.value = r.name

end DnsRecord

namespace Site

variable {s : Site} {p : AddressPlan} {w : PlannedVlan}

/-- The names with their addresses that are published, in their order. -/
def published (s : Site) (p : AddressPlan) : List (String × IpAddress) :=
  p.vlans.flatMap fun w => w.entries.flatMap fun e =>
    e.addresses.map fun a => (s.fullName e.hostname w.domain, a)

/-- The record that leads from one name of a vlan to another. -/
def aliasRecord (s : Site) (w : PlannedVlan) (name hostname : String) : DnsRecord where
  name := s.fullName name w.domain
  type := .cname
  value := s.fullName hostname w.domain

theorem roleRecord?_eq_some {r : Role} {t : DnsRecord} : s.roleRecord? w r = some t ↔
    ∃ holder, s.roleHolder? w r = some holder ∧ isTaken (w.entries.flatMap (·.names)) r.name = false ∧
      t = s.aliasRecord w r.name holder.hostname := by
  refine Option.bind_eq_some_iff.trans (exists_congr fun holder => and_congr_right fun _ => ?_)
  split
  next htaken => simp [htaken]
  next hfree =>
    rw [Bool.not_eq_true] at hfree
    rw [and_iff_right hfree, eq_comm]
    exact Option.some_inj

theorem type_of_mem_roleRecord {r : Role} {t : DnsRecord} (h : s.roleRecord? w r = some t) :
    t.type = .cname := by
  obtain ⟨holder, -, -, rfl⟩ := roleRecord?_eq_some.1 h
  rfl

section

variable {keep : DnsRecord → Bool} {pick : String → IpAddress → DnsRecord}

/-- Only entries make records of another type than that of aliases. -/
theorem filter_vlanRecords (hk : ∀ r, r.type = .cname → keep r = false)
    (hp : ∀ name a, (addressRecords name a).filter keep = [pick name a]) :
    (s.vlanRecords w).filter keep = w.entries.flatMap fun e =>
      e.addresses.map (pick (s.fullName e.hostname w.domain)) := by
  have hroles : ((Role.all.filter (· != .generic)).filterMap (s.roleRecord? w)).filter keep = [] := by
    refine List.filter_eq_nil_iff.2 fun t ht => ?_
    obtain ⟨r, -, ht⟩ := List.mem_filterMap.1 ht
    simp [hk t (type_of_mem_roleRecord ht)]
  have hentry (before : List Entry) (e : Entry) : (s.entryRecords w.domain before e).filter keep =
      e.addresses.map (pick (s.fullName e.hostname w.domain)) := by
    have haliases : ((ownAliases before e).map fun other => ({
        name := s.fullName other w.domain
        type := .cname
        value := s.fullName e.hostname w.domain } : DnsRecord)).filter keep = [] := by
      refine List.filter_eq_nil_iff.2 fun t ht => ?_
      obtain ⟨other, -, rfl⟩ := List.mem_map.1 ht
      simp [hk]
    rw [entryRecords, List.filter_append, haliases, List.append_nil, List.filter_flatMap]
    simp only [hp]
    exact List.map_eq_flatMap.symm
  rw [vlanRecords, List.filter_append, hroles, List.append_nil, List.filter_flatMap]
  simp only [hentry]
  -- The entries in front play no part any more.
  calc (withEarlier w.entries).flatMap
        (fun x => x.2.addresses.map (pick (s.fullName x.2.hostname w.domain)))
      = ((withEarlier w.entries).map (·.2)).flatMap
          (fun e => e.addresses.map (pick (s.fullName e.hostname w.domain))) := by
        rw [List.flatMap_map]
    _ = w.entries.flatMap (fun e => e.addresses.map (pick (s.fullName e.hostname w.domain))) := by
        rw [map_snd_withEarlier]

theorem filter_dnsRecords (hk : ∀ r, r.type = .cname → keep r = false)
    (hp : ∀ name a, (addressRecords name a).filter keep = [pick name a]) :
    (s.dnsRecords p).filter keep = (s.published p).map fun (name, a) => pick name a := by
  rw [dnsRecords, published, List.filter_flatMap, List.map_flatMap]
  refine List.flatMap_congr fun w _ => ?_
  rw [filter_vlanRecords hk hp, List.map_flatMap]
  refine List.flatMap_congr fun e _ => ?_
  rw [List.map_map]
  rfl

end

theorem filter_isAddress : (s.dnsRecords p).filter (·.isAddress) =
    (s.published p).map fun (name, a) => .ofAddress name a := by
  have hcname : ∀ r : DnsRecord, r.type = .cname → r.isAddress = false := by
    intro r hr
    simp [DnsRecord.isAddress, hr]
  refine filter_dnsRecords hcname fun name a => ?_
  cases a with
  | v4 a => rfl
  | v6 a => rfl

theorem filter_ptr : (s.dnsRecords p).filter (·.type == .ptr) =
    (s.published p).map fun (name, a) => .reverseOf name a := by
  have hcname : ∀ r : DnsRecord, r.type = .cname → (r.type == .ptr) = false := by
    intro r hr
    rw [hr]
    rfl
  refine filter_dnsRecords hcname fun name a => ?_
  cases a with
  | v4 a => rfl
  | v6 a => rfl

theorem mem_and_isAddress_iff {t : DnsRecord} : t ∈ s.dnsRecords p ∧ t.isAddress = true ↔
    ∃ x ∈ s.published p, t = .ofAddress x.1 x.2 := by
  have hm : t ∈ (s.dnsRecords p).filter (·.isAddress) ↔
      t ∈ s.dnsRecords p ∧ t.isAddress = true := List.mem_filter
  rw [← hm, filter_isAddress, List.mem_map]
  simp only [eq_comm]

theorem mem_and_ptr_iff {t : DnsRecord} : t ∈ s.dnsRecords p ∧ t.type = .ptr ↔
    ∃ x ∈ s.published p, t = .reverseOf x.1 x.2 := by
  have hm : t ∈ (s.dnsRecords p).filter (·.type == .ptr) ↔
      t ∈ s.dnsRecords p ∧ (t.type == .ptr) = true := List.mem_filter
  rw [← beq_iff_eq, ← hm, filter_ptr, List.mem_map]
  simp only [eq_comm]

/-- **Forward and reverse records agree.**  The reverse records of a build plan
    are those of its address records, one by one and in their order, and every
    address of an entry has its reverse name in a zone of the vlan. -/
theorem dns_reverse {templates : List Template} {plan : BuildPlan}
    (h : s.compile templates = .ok plan) :
    List.Forall₂ DnsRecord.Reverses ((s.dnsRecords plan.addresses).filter (·.isAddress))
      ((s.dnsRecords plan.addresses).filter (·.type == .ptr)) ∧
    ∀ w ∈ plan.addresses.vlans, ∀ e ∈ w.entries, ∀ a ∈ e.addresses,
      ∃ zone ∈ w.zone.reverseZones, IsBelow zone a.reverseName := by
  constructor
  · rw [filter_isAddress, filter_ptr, List.forall₂_map_left_iff, List.forall₂_map_right_iff]
    exact List.forall₂_same.2 fun x _ => ⟨x.2, rfl, rfl, rfl, rfl⟩
  · intro w hw e he a ha
    obtain ⟨hf, hp⟩ := addresses_of_compile h
    rw [vlans_of_addressPlan hp] at hw
    obtain ⟨x, hx, w, ho, rfl⟩ := exists_of_mem_planVlans hf hw
    exact (covers_of_mem_entries hf hx ho he ha).exists_zone

/-- The records of a site with addresses of both families agree, and an IPv6
    address there has its reverse name in a zone. -/
theorem edges_reverse : ∃ plan w e a, edges.compile [] = .ok plan ∧
    List.Forall₂ DnsRecord.Reverses ((edges.dnsRecords plan.addresses).filter (·.isAddress))
      ((edges.dnsRecords plan.addresses).filter (·.type == .ptr)) ∧
    w ∈ plan.addresses.vlans ∧ e ∈ w.entries ∧ .v6 a ∈ e.addresses ∧
    ∃ zone ∈ w.zone.reverseZones, IsBelow zone (IpAddress.v6 a).reverseName := by
  obtain ⟨plan, hplan⟩ := edges_compiles
  obtain ⟨-, hp⟩ := addresses_of_compile hplan
  obtain ⟨w, hw, e, he, a, ha⟩ : ∃ w ∈ edges.planVlans, ∃ e ∈ w.entries, ∃ a, e.ipv6 = some a := by
    simp only [← Option.isSome_iff_exists]
    decide
  rw [← vlans_of_addressPlan hp] at hw
  have ha : .v6 a ∈ e.addresses := Entry.mem_addresses.2 (.inr ⟨a, ha, rfl⟩)
  obtain ⟨hrecords, hzones⟩ := dns_reverse hplan
  exact ⟨plan, w, e, a, hplan, hrecords, hw, he, ha, hzones w hw e he _ ha⟩

end Site

end NetworkSite
