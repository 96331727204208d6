/-
  Texts of networks.

  A text writes a network if, with white space around it taken off, it is the text
  of an address, a slash and a number below 256 (`Network.Writes`), the number is a
  prefix length of the family, and no bit of the address beyond it is set.  All other
  texts are refused, for one of the reasons in `Network.Refused`.  The text of a
  network writes this network.  All of this is `Network.ofText_reads`.
-/
import NetworkSite.Proofs.AddressTexts
import NetworkSite.Proofs.Networks

namespace NetworkSite

open Text

namespace Network

variable {f : Family} {n : Network f} {a : Address f} {s : String} {length : Nat}

/-! ## The parts of a text -/

/-- The text is an address, a slash and a number below 256, but for white space
    around it. -/
def Writes (s : String) (a : Address f) (length : Nat) : Prop :=
  ∃ before after, trim s = before ++ "/" ++ after ∧
    Address.ofText? before = some a ∧ readUnsigned 255 after.toList = some length

/-- A bit of the address beyond the prefix length is set. -/
def HasHostBits (a : Address f) (length : Nat) : Prop :=
  ∃ i < f.width - length, a.toNat.testBit i = true

/-- Why a text writes no network of a family. -/
inductive Refused (f : Family) (s : String) : NetworkError → Prop where
  | noSlash : '/' ∉ (trim s).toList → Refused f s (.noLength s)
  | badNumber {before after : String} : trim s = before ++ "/" ++ after →
      '/' ∉ before.toList → readUnsigned 255 after.toList = none → Refused f s (.badLength s)
  | badAddress {before after : String} {length : Nat} : trim s = before ++ "/" ++ after →
      '/' ∉ before.toList → readUnsigned 255 after.toList = some length →
      (Address.ofText? before : Option (Address f)) = none → Refused f s (.badAddress s)
  | tooLong {a : Address f} {length : Nat} : Writes s a length → f.width < length →
      Refused f s (.badLength s)
  | hostBits {a : Address f} {length : Nat} : Writes s a length → length ≤ f.width →
      HasHostBits a length → Refused f s (.hostBits s)

/-! ## Reading -/

theorem trim_eq_iff {before after : String} :
    trim s = before ++ "/" ++ after ↔ trimChars s.toList = before.toList ++ '/' :: after.toList := by
  rw [trim, ← String.toList_inj, String.toList_ofList, String.toList_append, String.toList_append,
    List.append_assoc]
  rfl

/-- What is read of a text is what stands on both sides of its first slash. -/
theorem ofText_of_trim_eq {before after : String} (h : trim s = before ++ "/" ++ after)
    (hbefore : '/' ∉ before.toList) :
    (ofText s : Except NetworkError (Network f)) =
      match readUnsigned 255 after.toList with
      | none => .error (.badLength s)
      | some length =>
        match (Address.ofText? before : Option (Address f)) with
        | none => .error (.badAddress s)
        | some a => build s a length := by
  have hcut : cut (· == '/') (trimChars s.toList) = some (before.toList, after.toList) := by
    refine cut_eq_some_iff.2 ⟨'/', rfl, fun c hc he => hbefore ?_, trim_eq_iff.1 h⟩
    exact beq_iff_eq.1 he ▸ hc
  rw [ofText, hcut]
  rfl

theorem slash_not_mem_of_ofText? {before : String} (h : Address.ofText? before = some a) :
    '/' ∉ before.toList :=
  Address.not_mem_of_read? h (by decide) (by decide) (by decide)

theorem ofText_of_writes (h : Writes s a length) : ofText s = build s a length := by
  obtain ⟨before, after, htrim, ha, hlength⟩ := h
  rw [ofText_of_trim_eq htrim (slash_not_mem_of_ofText? ha), hlength, ha]

/-- The bits beyond the prefix length make the rest of a division. -/
theorem hasHostBits_iff : HasHostBits a length ↔ ¬2 ^ (f.width - length) ∣ a.toNat := by
  rw [Nat.dvd_iff_mod_eq_zero, HasHostBits]
  constructor
  · rintro ⟨i, hi, hbit⟩ hzero
    have hmod : (a.toNat % 2 ^ (f.width - length)).testBit i = true := by
      rw [Nat.testBit_mod_two_pow, decide_eq_true hi, hbit]
      rfl
    rw [hzero, Nat.zero_testBit] at hmod
    cases hmod
  · intro hne
    obtain ⟨i, hi⟩ := Nat.exists_testBit_of_ne_zero hne
    rw [Nat.testBit_mod_two_pow, Bool.and_eq_true, decide_eq_true_eq] at hi
    exact ⟨i, hi⟩

theorem exists_build (hlength : length ≤ f.width) (hbits : ¬HasHostBits a length) :
    ∃ n, build s a length = .ok n := by
  rw [hasHostBits_iff, Decidable.not_not] at hbits
  rw [build, dif_pos hlength, dif_pos hbits]
  exact ⟨_, rfl⟩

theorem ofText_of_refused {e : NetworkError} (h : Refused f s e) :
    (ofText s : Except NetworkError (Network f)) = .error e := by
  cases h with
  | noSlash hslash =>
    have hcut : cut (· == '/') (trimChars s.toList) = none := by
      rw [trim, String.toList_ofList] at hslash
      exact cut_eq_none_iff.2 fun c hc => beq_eq_false_iff_ne.2 fun he => hslash (he ▸ hc)
    rw [ofText, hcut]
  | badNumber htrim hbefore hnumber => rw [ofText_of_trim_eq htrim hbefore, hnumber]
  | badAddress htrim hbefore hnumber ha => rw [ofText_of_trim_eq htrim hbefore, hnumber, ha]
  | tooLong hwrites hlong =>
    rw [ofText_of_writes hwrites, build, dif_neg (Nat.not_le.2 hlong)]
  | hostBits hwrites hlength hbits =>
    rw [ofText_of_writes hwrites, build, dif_pos hlength, dif_neg (hasHostBits_iff.1 hbits)]

/-- Every text writes a network or is refused. -/
theorem writes_or_refused (f : Family) (s : String) :
    (∃ (a : Address f) (length : Nat), Writes s a length ∧ length ≤ f.width ∧
      ¬HasHostBits a length) ∨ ∃ e, Refused f s e := by
  by_cases hslash : '/' ∈ (trim s).toList
  · obtain ⟨front, back, hsplit, hfront⟩ := List.eq_append_cons_of_mem hslash
    obtain ⟨before, rfl⟩ : ∃ before : String, before.toList = front := ⟨_, String.toList_ofList⟩
    obtain ⟨after, rfl⟩ : ∃ after : String, after.toList = back := ⟨_, String.toList_ofList⟩
    have htrim : trim s = before ++ "/" ++ after :=
      trim_eq_iff.2 (by rwa [trim, String.toList_ofList] at hsplit)
    cases hnumber : readUnsigned 255 after.toList with
    | none => exact .inr ⟨_, .badNumber htrim hfront hnumber⟩
    | some length =>
      cases ha : (Address.ofText? before : Option (Address f)) with
      | none => exact .inr ⟨_, .badAddress htrim hfront hnumber ha⟩
      | some a =>
        have hwrites : Writes s a length := ⟨before, after, htrim, ha, hnumber⟩
        by_cases hlength : length ≤ f.width
        · by_cases hbits : HasHostBits a length
          · exact .inr ⟨_, .hostBits hwrites hlength hbits⟩
          · exact .inl ⟨a, length, hwrites, hlength, hbits⟩
        · exact .inr ⟨_, .tooLong hwrites (Nat.not_le.1 hlength)⟩
  · exact .inr ⟨_, .noSlash hslash⟩

theorem ofText_eq_ok : ofText s = .ok n ↔ Writes s n.first n.length := by
  constructor
  · intro h
    rcases writes_or_refused f s with ⟨a, length, hwrites, -, -⟩ | ⟨e, he⟩
    · rw [ofText_of_writes hwrites] at h
      obtain ⟨rfl, rfl⟩ := build_eq_ok.1 h
      exact hwrites
    · rw [ofText_of_refused he] at h
      cases h
  · intro h
    rw [ofText_of_writes h]
    exact build_eq_ok.2 ⟨rfl, rfl⟩

theorem ofText_eq_error {e : NetworkError} :
    (ofText s : Except NetworkError (Network f)) = .error e ↔ Refused f s e := by
  refine ⟨fun h => ?_, ofText_of_refused⟩
  rcases writes_or_refused f s with ⟨a, length, hwrites, hlength, hbits⟩ | ⟨e', he⟩
  · obtain ⟨n, hn⟩ := exists_build (s := s) hlength hbits
    rw [ofText_of_writes hwrites, hn] at h
    cases h
  · rw [ofText_of_refused he] at h
    cases h
    exact he

theorem not_hasHostBits (n : Network f) : ¬HasHostBits n.first n.length := by
  rw [hasHostBits_iff, Decidable.not_not]
  exact n.aligned

theorem exists_ofText_iff :
    (∃ n : Network f, ofText s = .ok n) ↔
      ∃ (a : Address f) (length : Nat), Writes s a length ∧ length ≤ f.width ∧
        ¬HasHostBits a length := by
  constructor
  · rintro ⟨n, hn⟩
    exact ⟨n.first, n.length, ofText_eq_ok.1 hn, n.length_le, n.not_hasHostBits⟩
  · rintro ⟨a, length, hwrites, hlength, hbits⟩
    rw [ofText_of_writes hwrites]
    exact exists_build hlength hbits

/-! ## Writing -/

theorem isBlank_eq_false_of_mem_text {c : Char} (h : c ∈ a.text.toList) : isBlank c = false := by
  refine Bool.eq_false_iff.2 fun hblank => ?_
  refine Address.not_mem_of_read? (Address.ofText?_text a) ?_ ?_ ?_ h
  · rintro rfl
    cases hblank
  · rintro rfl
    cases hblank
  · refine Option.eq_none_iff_forall_ne_some.2 fun v hv => ?_
    rw [isBlank_eq_false (Option.isSome_of_eq_some hv)] at hblank
    cases hblank

theorem writes_text (n : Network f) : Writes n.text n.first n.length := by
  have htext : n.text = n.first.text ++ "/" ++ String.ofList (decimal n.length) := rfl
  have hlength : n.length ≤ 255 := by
    have hle := n.length_le
    cases f with
    | v4 => exact Nat.le_trans hle (by decide)
    | v6 => exact Nat.le_trans hle (by decide)
  have hchars : n.text.toList = n.first.text.toList ++ '/' :: decimal n.length := by
    rw [htext, String.toList_append, String.toList_append, List.append_assoc]
    exact congrArg (n.first.text.toList ++ '/' :: ·) String.toList_ofList
  have hblank : ∀ c ∈ n.text.toList, isBlank c = false := by
    intro c hc
    rw [hchars, List.mem_append, List.mem_cons] at hc
    rcases hc with hc | rfl | hc
    · exact isBlank_eq_false_of_mem_text hc
    · rfl
    · exact isBlank_eq_false_of_mem_decimal hc
  refine ⟨n.first.text, String.ofList (decimal n.length), ?_, Address.ofText?_text n.first, ?_⟩
  · rw [trim, trimChars_eq_self hblank, String.ofList_toList, htext]
  · rw [String.toList_ofList, readUnsigned_decimal hlength]

/-! ## Main result -/

/-- **Reading networks.**  The text of a network is read as this network.  A text is
    read exactly if it writes an address without host bits and a prefix length of
    the family, and then as the network that these are; any other text is refused,
    for a reason that it gives. -/
theorem ofText_reads (f : Family) :
    (∀ n : Network f, ofText n.text = .ok n) ∧
    (∀ (s : String) (n : Network f), ofText s = .ok n ↔
      Writes s n.first n.length ∧ n.length ≤ f.width ∧ ¬HasHostBits n.first n.length) ∧
    (∀ s : String, (∃ n : Network f, ofText s = .ok n) ↔
      ∃ (a : Address f) (length : Nat), Writes s a length ∧ length ≤ f.width ∧
        ¬HasHostBits a length) ∧
    ∀ (s : String) (e : NetworkError),
      (ofText s : Except NetworkError (Network f)) = .error e ↔ Refused f s e := by
  refine ⟨fun n => ofText_eq_ok.2 n.writes_text, fun s n => ?_, fun s => exists_ofText_iff,
    fun s e => ofText_eq_error⟩
  rw [ofText_eq_ok]
  exact (and_iff_left ⟨n.length_le, n.not_hasHostBits⟩).symm

end Network

end NetworkSite
