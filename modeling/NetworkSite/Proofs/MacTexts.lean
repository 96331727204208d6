/-
  Texts of MAC addresses.

  A text is taken for a MAC address if, without the white space around it, it is six
  groups with a colon or a hyphen between each two (`Text.Separated`).  Each group is
  read as a hexadecimal number of two characters; but numbers may have a plus sign
  in front, so that a group is not only a pair of digits (`Mac.IsPair`) but also a
  plus sign with one digit (`Mac.IsSigned`), which counts as zero.  The canonical
  text has the groups in lower case with colons between them, and stays as it is.
  `Mac.normalize?_reads` says this, and that texts with signs are all that keeps
  `Mac.normalize?` from reading pairs of digits only.
-/
import NetworkSite.Net.Mac
import NetworkSite.Proofs.AddressTexts
import Mathlib.Data.List.Basic

namespace NetworkSite

open Text

namespace Text

variable {c : Char}

/-! ## Hexadecimal digits -/

/-- A digit `0`–`9`, `a`–`f` or `A`–`F`. -/
def IsHexDigit (c : Char) : Prop :=
  ('0' ≤ c ∧ c ≤ '9') ∨ ('a' ≤ c ∧ c ≤ 'f') ∨ ('A' ≤ c ∧ c ≤ 'F')

instance : Decidable (IsHexDigit c) :=
  inferInstanceAs (Decidable (_ ∨ _ ∨ _))

theorem isHexDigit_iff : IsHexDigit c ↔ (digitValue? 16 c).isSome = true := by
  have hle (a b : Char) : a ≤ b ↔ a.toNat ≤ b.toNat := Iff.rfl
  simp only [IsHexDigit, hle, Option.isSome_iff_exists, hexDigitValue?_eq_some, Char.reduceToNat]
  constructor
  · rintro (h | h | h)
    · exact ⟨c.toNat - 48, by omega⟩
    · exact ⟨c.toNat - 87, by omega⟩
    · exact ⟨c.toNat - 55, by omega⟩
  · rintro ⟨v, hv⟩
    omega

/-- The digit of a value is the one that was read, in lower case. -/
theorem digitChar_of_digitValue? {v : Nat} (h : digitValue? 16 c = some v) :
    Nat.digitChar v = c.toLower := by
  have hdecimal : ∀ v < 10, Nat.digitChar v = (Char.ofNat (v + 48)).toLower := by decide
  have hlower : ∀ v < 16, 10 ≤ v → Nat.digitChar v = (Char.ofNat (v + 87)).toLower := by decide
  have hupper : ∀ v < 16, 10 ≤ v → Nat.digitChar v = (Char.ofNat (v + 55)).toLower := by decide
  rw [hexDigitValue?_eq_some] at h
  rw [← Char.ofNat_toNat c]
  rcases h with ⟨hmin, hmax, hv⟩ | ⟨hmin, hmax, hv⟩ | ⟨hmin, hmax, hv⟩
  · rw [← hv]
    exact hdecimal v (by omega)
  · rw [← hv]
    exact hlower v (by omega) (by omega)
  · rw [← hv]
    exact hupper v (by omega) (by omega)

end Text

namespace Mac

variable {s t : String} {group : List Char} {groups : List (List Char)} {bytes : List Nat}
  {c d : Char}

/-! ## Groups -/

/-- Two hexadecimal digits. -/
def IsPair (group : List Char) : Prop :=
  ∃ c d, group = [c, d] ∧ IsHexDigit c ∧ IsHexDigit d

/-- A plus sign and a hexadecimal digit. -/
def IsSigned (group : List Char) : Prop :=
  ∃ d, group = ['+', d] ∧ IsHexDigit d

/-- The groups that are read. -/
def IsGroup (group : List Char) : Prop :=
  IsPair group ∨ IsSigned group

/-- The digits of a group in the canonical text: a plus sign counts as a zero, and
    letters are in lower case. -/
def canonicalDigit (c : Char) : Char :=
  if c = '+' then '0' else c.toLower

/-- The groups in lower case with colons between them. -/
def lowered (groups : List (List Char)) : String :=
  String.ofList (join [':'] (groups.map (·.map Char.toLower)))

/-- The canonical text of groups. -/
def canonical (groups : List (List Char)) : String :=
  String.ofList (join [':'] (groups.map (·.map canonicalDigit)))

/-- The text is six groups of a form with a colon or a hyphen between each two. -/
structure IsWritten (form : List Char → Prop) (cs : List Char) (groups : List (List Char)) :
    Prop where
  six : groups.length = 6
  separated : Separated (fun c => c == ':' || c == '-') groups cs
  form : ∀ group ∈ groups, form group

theorem IsWritten.mono {form form' : List Char → Prop} {cs : List Char}
    (h : IsWritten form cs groups) (hform : ∀ group ∈ groups, form group → form' group) :
    IsWritten form' cs groups where
  six := h.six
  separated := h.separated
  form group hg := hform group hg (h.form group hg)

/-! ## Values of groups -/

theorem lt_of_digitValue? {v : Nat} (h : digitValue? 16 c = some v) : v < 16 := by
  rw [hexDigitValue?_eq_some] at h
  omega

theorem hexPadded_two (v : Nat) :
    hexPadded 2 v = [Nat.digitChar (v / 16 % 16), Nat.digitChar (v % 16)] := rfl

theorem readGroup?_eq_some {v : Nat} :
    readGroup? group = some v ↔
      group.length = 2 ∧ readDigits 16 (dropPlus group) = some v ∧ v ≤ 255 := by
  rw [readGroup?, Option.ite_none_right_eq_some, readUnsignedIn_eq_some]

theorem readGroup?_pair {x y : Nat} (hx : digitValue? 16 c = some x)
    (hy : digitValue? 16 d = some y) : readGroup? [c, d] = some (x * 16 + y) := by
  have hplus : [c, d].head? ≠ some '+' := by
    rintro ⟨⟩
    cases hx
  have hxlt := lt_of_digitValue? hx
  have hylt := lt_of_digitValue? hy
  rw [readGroup?_eq_some, dropPlus_eq_self hplus]
  refine ⟨rfl, ?_, by omega⟩
  simp [readDigits, readDigitsFrom, hx, hy]

theorem readGroup?_signed {y : Nat} (hy : digitValue? 16 d = some y) :
    readGroup? ['+', d] = some y := by
  have hylt := lt_of_digitValue? hy
  rw [readGroup?_eq_some]
  refine ⟨rfl, ?_, by omega⟩
  simp [dropPlus, readDigits, readDigitsFrom, hy]

/-- The groups that are read are pairs of digits, or a plus sign and a digit. -/
theorem isGroup_of_readGroup? {v : Nat} (h : readGroup? group = some v) : IsGroup group := by
  obtain ⟨hlength, hdigits, -⟩ := readGroup?_eq_some.1 h
  obtain ⟨c, d, rfl⟩ := List.length_eq_two.1 hlength
  have hhex : ∀ e ∈ dropPlus [c, d], IsHexDigit e := fun e he =>
    isHexDigit_iff.2 (isSome_digitValue?_of_readDigits hdigits e he)
  by_cases hc : c = '+'
  · subst hc
    exact .inr ⟨d, rfl, hhex d List.mem_cons_self⟩
  · have hplus : [c, d].head? ≠ some '+' := fun he => hc (Option.some.inj he)
    rw [dropPlus_eq_self hplus] at hhex
    exact .inl ⟨c, d, rfl, hhex c List.mem_cons_self, hhex d (by simp)⟩

/-- A group of these forms is read, and written again with its canonical digits. -/
theorem IsGroup.exists_readGroup? (h : IsGroup group) :
    ∃ v, readGroup? group = some v ∧ hexPadded 2 v = group.map canonicalDigit := by
  have hpadded {x y : Nat} (hx : x < 16) (hy : y < 16) :
      hexPadded 2 (x * 16 + y) = [Nat.digitChar x, Nat.digitChar y] := by
    have hhigh : (x * 16 + y) / 16 % 16 = x := by omega
    have hlow : (x * 16 + y) % 16 = y := by omega
    rw [hexPadded_two, hhigh, hlow]
  have hcanonical {c : Char} {v : Nat} (hv : digitValue? 16 c = some v) :
      Nat.digitChar v = canonicalDigit c := by
    have hc : c ≠ '+' := by
      rintro rfl
      cases hv
    rw [canonicalDigit, if_neg hc]
    exact digitChar_of_digitValue? hv
  rcases h with ⟨c, d, rfl, hc, hd⟩ | ⟨d, rfl, hd⟩
  · obtain ⟨x, hx⟩ := Option.isSome_iff_exists.1 (isHexDigit_iff.1 hc)
    obtain ⟨y, hy⟩ := Option.isSome_iff_exists.1 (isHexDigit_iff.1 hd)
    refine ⟨x * 16 + y, readGroup?_pair hx hy, ?_⟩
    rw [hpadded (lt_of_digitValue? hx) (lt_of_digitValue? hy), hcanonical hx, hcanonical hy]
    rfl
  · obtain ⟨y, hy⟩ := Option.isSome_iff_exists.1 (isHexDigit_iff.1 hd)
    refine ⟨0 * 16 + y, ?_, ?_⟩
    · rw [Nat.zero_mul, Nat.zero_add]
      exact readGroup?_signed hy
    · rw [hpadded (by decide) (lt_of_digitValue? hy), hcanonical hy]
      rfl

/-! ## Texts -/

theorem normalize?_eq_some :
    normalize? s = some t ↔
      ∃ groups bytes, split (fun c => c == ':' || c == '-') (trimChars s.toList) = groups ∧
        groups.length = 6 ∧ groups.mapM readGroup? = some bytes ∧ format bytes = t := by
  simp [normalize?, Option.map_eq_some_iff]

theorem not_separator_of_isHexDigit (h : IsHexDigit c) : (c == ':' || c == '-') = false := by
  rw [Bool.or_eq_false_iff, beq_eq_false_iff_ne, beq_eq_false_iff_ne]
  constructor
  · rintro rfl
    exact absurd h (by decide)
  · rintro rfl
    exact absurd h (by decide)

theorem IsGroup.not_separator (h : IsGroup group) :
    ∀ c ∈ group, (c == ':' || c == '-') = false := by
  rcases h with ⟨c, d, rfl, hc, hd⟩ | ⟨d, rfl, hd⟩
  · rw [List.forall_mem_cons, List.forall_mem_singleton]
    exact ⟨not_separator_of_isHexDigit hc, not_separator_of_isHexDigit hd⟩
  · rw [List.forall_mem_cons, List.forall_mem_singleton]
    exact ⟨rfl, not_separator_of_isHexDigit hd⟩

theorem IsWritten.split_eq {form : List Char → Prop} {cs : List Char}
    (h : IsWritten form cs groups) (hform : ∀ group, form group → IsGroup group) :
    split (fun c => c == ':' || c == '-') cs = groups :=
  split_eq_iff.2
    ⟨h.separated, fun group hg => (hform group (h.form group hg)).not_separator⟩

/-- Groups that are read have the canonical text of their bytes. -/
theorem exists_bytes (h : ∀ group ∈ groups, IsGroup group) :
    ∃ bytes, groups.mapM readGroup? = some bytes ∧ format bytes = canonical groups := by
  have hbytes : ∃ bytes : List Nat, groups.map readGroup? = bytes.map some ∧
      bytes.map (hexPadded 2) = groups.map (·.map canonicalDigit) := by
    induction groups with
    | nil => exact ⟨[], rfl, rfl⟩
    | cons group rest ih =>
      obtain ⟨v, hv, hpadded⟩ := (h group List.mem_cons_self).exists_readGroup?
      obtain ⟨bytes, hread, hmap⟩ := ih fun g hg => h g (List.mem_cons_of_mem _ hg)
      exact ⟨v :: bytes, by rw [List.map_cons, List.map_cons, hv, hread],
        by rw [List.map_cons, List.map_cons, hpadded, hmap]⟩
  obtain ⟨bytes, hread, hmap⟩ := hbytes
  refine ⟨bytes, mapM_eq_some.2 hread, ?_⟩
  rw [format, canonical, hmap]

theorem normalize?_eq_some_iff :
    normalize? s = some t ↔
      ∃ groups, IsWritten IsGroup (trimChars s.toList) groups ∧ t = canonical groups := by
  rw [normalize?_eq_some]
  constructor
  · rintro ⟨groups, bytes, hsplit, hsix, hbytes, rfl⟩
    have hform : ∀ group ∈ groups, IsGroup group := by
      intro group hg
      obtain ⟨v, hv⟩ := exists_of_mapM_eq_some hbytes group hg
      exact isGroup_of_readGroup? hv
    obtain ⟨bytes', hbytes', hcanonical⟩ := exists_bytes hform
    cases hbytes.symm.trans hbytes'
    exact ⟨groups, ⟨hsix, (split_eq_iff.1 hsplit).1, hform⟩, hcanonical⟩
  · rintro ⟨groups, hwritten, rfl⟩
    obtain ⟨bytes, hbytes, hcanonical⟩ := exists_bytes hwritten.form
    exact ⟨groups, bytes, hwritten.split_eq fun _ => id, hwritten.six, hbytes, hcanonical⟩

/-! ## Signs -/

theorem ne_plus_of_isHexDigit (h : IsHexDigit c) : c ≠ '+' := by
  rintro rfl
  exact absurd h (by decide)

theorem not_isSigned_of_isPair (h : IsPair group) : ¬IsSigned group := by
  obtain ⟨c, d, rfl, hc, -⟩ := h
  rintro ⟨d', he, -⟩
  exact ne_plus_of_isHexDigit hc (List.cons.inj he).1

/-- Without signs the canonical text is that in lower case. -/
theorem canonical_eq_lowered (h : ∀ group ∈ groups, IsPair group) :
    canonical groups = lowered groups := by
  have hdigit {c : Char} (hc : IsHexDigit c) : canonicalDigit c = c.toLower :=
    if_neg (ne_plus_of_isHexDigit hc)
  have hgroups : groups.map (·.map canonicalDigit) = groups.map (·.map Char.toLower) := by
    refine List.map_congr_left fun group hg => ?_
    obtain ⟨c, d, rfl, hc, hd⟩ := h group hg
    rw [List.map_cons, List.map_singleton, hdigit hc, hdigit hd]
    rfl
  rw [canonical, lowered, hgroups]

/-- A text is read as pairs of digits unless it has signs. -/
theorem reads_pairs_iff :
    (∀ t, normalize? s = some t ↔
      ∃ groups, IsWritten IsPair (trimChars s.toList) groups ∧ t = lowered groups) ↔
      ∀ groups, IsWritten IsGroup (trimChars s.toList) groups →
        ∀ group ∈ groups, ¬IsSigned group := by
  constructor
  · intro hpairs groups hwritten
    have hread := normalize?_eq_some_iff.2 ⟨groups, hwritten, rfl⟩
    obtain ⟨groups', hwritten', -⟩ := (hpairs _).1 hread
    rw [← hwritten.split_eq fun _ => id, hwritten'.split_eq fun _ => .inl]
    exact fun group hg => not_isSigned_of_isPair (hwritten'.form group hg)
  · intro hsigns t
    rw [normalize?_eq_some_iff]
    constructor
    · rintro ⟨groups, hwritten, rfl⟩
      have hpairs : IsWritten IsPair (trimChars s.toList) groups :=
        hwritten.mono fun group hg hform => hform.resolve_right (hsigns groups hwritten group hg)
      exact ⟨groups, hpairs, canonical_eq_lowered hpairs.form⟩
    · rintro ⟨groups, hpairs, rfl⟩
      have hwritten : IsWritten IsGroup (trimChars s.toList) groups := hpairs.mono fun _ _ => .inl
      exact ⟨groups, hwritten, (canonical_eq_lowered hpairs.form).symm⟩

/-! ## Canonical texts -/

theorem digitValue?_digitChar {x : Nat} (h : x < 16) :
    digitValue? 16 (Nat.digitChar x) = some x := by
  have hdigit : ∀ x < 16, digitValue? 16 (Nat.digitChar x) = some x := by decide
  exact hdigit x h

theorem isHexDigit_of_mem_hexPadded {v : Nat} (h : c ∈ hexPadded 2 v) : IsHexDigit c := by
  have hdigit (x : Nat) : IsHexDigit (Nat.digitChar (x % 16)) :=
    isHexDigit_iff.2 (Option.isSome_of_eq_some (digitValue?_digitChar (Nat.mod_lt x (by decide))))
  rw [hexPadded_two, List.mem_cons, List.mem_singleton] at h
  rcases h with rfl | rfl
  · exact hdigit (v / 16)
  · exact hdigit v

theorem readGroup?_hexPadded {v : Nat} (h : v ≤ 255) : readGroup? (hexPadded 2 v) = some v := by
  have hvalue : v / 16 % 16 * 16 + v % 16 = v := by omega
  rw [hexPadded_two, readGroup?_pair (digitValue?_digitChar (Nat.mod_lt _ (by decide)))
    (digitValue?_digitChar (Nat.mod_lt _ (by decide))), hvalue]

/-- The canonical text of six bytes stays as it is. -/
theorem normalize?_format (hsix : bytes.length = 6) (h : ∀ v ∈ bytes, v ≤ 255) :
    normalize? (format bytes) = some (format bytes) := by
  have hdigits : ∀ group ∈ bytes.map (hexPadded 2), ∀ c ∈ group, IsHexDigit c := by
    intro group hg c hc
    obtain ⟨v, -, rfl⟩ := List.mem_map.1 hg
    exact isHexDigit_of_mem_hexPadded hc
  have htrim : trimChars (format bytes).toList = join [':'] (bytes.map (hexPadded 2)) := by
    rw [format, String.toList_ofList]
    refine trimChars_eq_self fun c hc => ?_
    rcases mem_join hc with hc | ⟨group, hg, hc⟩
    · cases List.mem_singleton.1 hc
      rfl
    · exact isBlank_eq_false (isHexDigit_iff.1 (hdigits group hg c hc))
  have hne : bytes.map (hexPadded 2) ≠ [] := by
    rw [ne_eq, List.map_eq_nil_iff]
    rintro rfl
    cases hsix
  refine normalize?_eq_some.2 ⟨bytes.map (hexPadded 2), bytes, ?_, ?_, ?_, rfl⟩
  · rw [htrim]
    exact split_eq_iff.2 ⟨separated_join rfl hne, fun group hg c hc =>
      not_separator_of_isHexDigit (hdigits group hg c hc)⟩
  · rw [List.length_map, hsix]
  · exact mapM_map_eq_some fun v hv => readGroup?_hexPadded (h v hv)

theorem normalize?_of_normalize? (h : normalize? s = some t) : normalize? t = some t := by
  obtain ⟨groups, bytes, -, hsix, hbytes, rfl⟩ := normalize?_eq_some.1 h
  have hmap := mapM_eq_some.1 hbytes
  refine normalize?_format ?_ fun v hv => ?_
  · have hlength := congrArg List.length hmap
    rwa [List.length_map, List.length_map, hsix, eq_comm] at hlength
  · have hmem : some v ∈ groups.map readGroup? := hmap ▸ List.mem_map_of_mem hv
    obtain ⟨group, -, hread⟩ := List.mem_map.1 hmem
    exact (readGroup?_eq_some.1 hread).2.2

/-! ## Main result -/

/-- **Reading MAC addresses.**  A text is taken for a MAC address exactly if it is
    six groups of two hexadecimal digits, or of a plus sign and one digit, with a
    colon or a hyphen between each two.  The result is the canonical text of the
    groups, and is taken for itself.  So exactly the texts of six groups with a sign
    among them are not read as six pairs of digits, in lower case. -/
theorem normalize?_reads (s : String) :
    (∀ t, normalize? s = some t ↔
      ∃ groups, IsWritten IsGroup (trimChars s.toList) groups ∧ t = canonical groups) ∧
    (∀ t, normalize? s = some t → normalize? t = some t) ∧
    ((∀ t, normalize? s = some t ↔
      ∃ groups, IsWritten IsPair (trimChars s.toList) groups ∧ t = lowered groups) ↔
      ∀ groups, IsWritten IsGroup (trimChars s.toList) groups →
        ∀ group ∈ groups, ¬IsSigned group) :=
  ⟨fun _ => normalize?_eq_some_iff, fun _ => normalize?_of_normalize?, reads_pairs_iff⟩

theorem normalize?_hyphens :
    normalize? "AA-BB-CC-00-11-22" = some "aa:bb:cc:00:11:22" ∧
      normalize? "aa:bb:cc:00:11:22" = some "aa:bb:cc:00:11:22" := by
  have h : normalize? "AA-BB-CC-00-11-22" = some "aa:bb:cc:00:11:22" := by decide
  exact ⟨h, (normalize?_reads _).2.1 _ h⟩

/-- A sign is taken for a digit. -/
theorem normalize?_plus :
    normalize? "+a:bb:cc:00:11:22" = some "0a:bb:cc:00:11:22" ∧
      ¬∃ groups, IsWritten IsPair (trimChars "+a:bb:cc:00:11:22".toList) groups := by
  refine ⟨by decide, ?_⟩
  rintro ⟨groups, hwritten⟩
  have hfirst : ['+', 'a'] ∈ groups := by
    rw [← hwritten.split_eq fun _ => .inl]
    decide
  exact not_isSigned_of_isPair (hwritten.form _ hfirst) ⟨'a', rfl, by decide⟩

end Mac

end NetworkSite
