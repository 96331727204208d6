/-
  Network arithmetic without overflow.

  The arithmetic on words (`Net/Words`) gives for every network, address and offset
  what the network itself gives, so that no sum, difference or shift of it overflows
  (`Network.OnWords`).  With the intervals of `Proofs/Networks` this says what
  membership, offsets and overlap are: `Network.arithmetic_on_words`.
-/
import NetworkSite.Net.Words
import NetworkSite.Proofs.Networks
import Mathlib.Tactic.TFAE

namespace NetworkSite

/-! ## Checked operations -/

namespace Word

variable {v w k : Nat} {x y : BitVec w}

theorem exists_add (h : x.toNat + y.toNat < 2 ^ w) :
    ∃ z, add x y = .ok z ∧ z.toNat = x.toNat + y.toNat := by
  refine ⟨x + y, if_neg ?_, BitVec.toNat_add_of_lt h⟩
  simpa [BitVec.uaddOverflow] using h

theorem exists_sub (h : y.toNat ≤ x.toNat) :
    ∃ z, sub x y = .ok z ∧ z.toNat = x.toNat - y.toNat := by
  refine ⟨x - y, if_neg ?_, BitVec.toNat_sub_of_le (BitVec.le_def.2 h)⟩
  simpa [BitVec.usubOverflow] using h

theorem shiftLeft_eq_ok {amount : BitVec v} (h : amount.toNat < w) :
    shiftLeft x amount = .ok (x <<< amount.toNat) :=
  if_neg (Nat.not_le.2 h)

/-- A mask without bits is not had by shifting all of them out. -/
example : shiftLeft (BitVec.allOnes 32) 32#8 = .error .shift := rfl

theorem exists_shiftLeft {amount : BitVec v} (h : amount.toNat < w)
    (hfit : x.toNat * 2 ^ amount.toNat < 2 ^ w) :
    ∃ z, shiftLeft x amount = .ok z ∧ z.toNat = x.toNat * 2 ^ amount.toNat := by
  refine ⟨_, shiftLeft_eq_ok h, ?_⟩
  rw [BitVec.toNat_shiftLeft, Nat.shiftLeft_eq, Nat.mod_eq_of_lt hfit]

theorem exists_one_shiftLeft {amount : BitVec v} (h : amount.toNat < w) :
    ∃ z, shiftLeft (1 : BitVec w) amount = .ok z ∧ z.toNat = 2 ^ amount.toNat :=
  ⟨_, shiftLeft_eq_ok h, BitVec.toNat_twoPow_of_lt h⟩

/-! ## Bits as numbers -/

theorem toNat_and_shiftLeft_allOnes (x : BitVec w) (k : Nat) :
    (x &&& BitVec.allOnes w <<< k).toNat = x.toNat / 2 ^ k * 2 ^ k := by
  rw [← BitVec.shiftLeft_ushiftRight, BitVec.toNat_shiftLeft, BitVec.toNat_ushiftRight,
    Nat.shiftRight_eq_div_pow, Nat.shiftLeft_eq]
  exact Nat.mod_eq_of_lt (Nat.lt_of_le_of_lt (Nat.div_mul_le_self _ _) x.isLt)

/-- The bits up to a position. -/
theorem toNat_not_shiftLeft_allOnes (hk : k ≤ w) :
    (~~~(BitVec.allOnes w <<< k)).toNat = 2 ^ k - 1 := by
  refine Nat.eq_of_testBit_eq fun i => ?_
  rw [Nat.testBit_two_pow_sub_one, ← BitVec.getLsbD, BitVec.getLsbD_not, BitVec.getLsbD_shiftLeft,
    BitVec.getLsbD_allOnes]
  by_cases hi : i < k
  · simp [hi]
    omega
  · simp [hi]
    omega

/-- A multiple of a power has none of the lower bits. -/
theorem toNat_or_of_dvd (hx : 2 ^ k ∣ x.toNat) (hy : y.toNat < 2 ^ k) :
    (x ||| y).toNat = x.toNat + y.toNat := by
  obtain ⟨a, ha⟩ := hx
  rw [BitVec.toNat_or, ha, Nat.two_pow_add_eq_or_of_lt hy]

end Word

theorem Family.toNat_width (f : Family) : (BitVec.ofNat 8 f.width).toNat = f.width := by
  cases f <;> rfl

/-! ## Masks -/

namespace WordNetwork

variable {f : Family} {n : WordNetwork f}

/-- The mask of any prefix length in range, with no bits or with all of them too. -/
theorem mask_eq_ok (h : n.length.toNat ≤ f.width) :
    n.mask = .ok (BitVec.allOnes f.width <<< (f.width - n.length.toNat)) := by
  unfold mask
  split
  next h0 => simp [h0]
  next h0 =>
    have hpos : 0 < n.length.toNat := by
      refine Nat.pos_of_ne_zero fun hz => h0 (BitVec.eq_of_toNat_eq ?_)
      simpa using hz
    obtain ⟨rest, hrest, hnat⟩ := Word.exists_sub (x := BitVec.ofNat 8 f.width) (y := n.length)
      (by rwa [f.toNat_width])
    rw [f.toNat_width] at hnat
    rw [hrest, ← hnat]
    exact Word.shiftLeft_eq_ok (by omega)

theorem hostMask_eq_ok (h : n.length.toNat ≤ f.width) :
    ∃ x, n.hostMask = .ok x ∧ n.mask = .ok (~~~x) ∧ x.toNat = 2 ^ (f.width - n.length.toNat) - 1 := by
  refine ⟨~~~(BitVec.allOnes f.width <<< (f.width - n.length.toNat)), ?_, ?_, ?_⟩
  · rw [hostMask, mask_eq_ok h]
    rfl
  · rw [mask_eq_ok h, BitVec.not_not]
  · exact Word.toNat_not_shiftLeft_allOnes (Nat.sub_le _ _)

end WordNetwork

namespace Network

variable {f : Family} {m n : Network f} {a : Address f}

theorem toNat_length_words : n.words.length.toNat = n.length := by
  have hw : f.width ≤ 128 := by cases f <;> decide
  have hl := n.length_le
  show n.length % 2 ^ 8 = n.length
  exact Nat.mod_eq_of_lt (Nat.lt_of_le_of_lt (Nat.le_trans hl hw) (by decide))

theorem length_words_le : n.words.length.toNat ≤ f.width := by
  rw [toNat_length_words]
  exact n.length_le

theorem hostMask_words : ∃ x, n.words.hostMask = .ok x ∧ x.toNat = n.size - 1 := by
  obtain ⟨x, hx, -, hnat⟩ := WordNetwork.hostMask_eq_ok (n := n.words) length_words_le
  rw [toNat_length_words] at hnat
  exact ⟨x, hx, hnat⟩

theorem mask_words : n.words.mask = .ok n.netmask.word := by
  obtain ⟨x, -, hmask, hnat⟩ := WordNetwork.hostMask_eq_ok (n := n.words) length_words_le
  rw [hmask]
  refine congrArg Except.ok (BitVec.eq_of_toNat_eq ?_)
  rw [BitVec.toNat_not, hnat, toNat_length_words]
  show _ = 2 ^ f.width - n.size
  have := n.size_pos
  show 2 ^ f.width - 1 - (n.size - 1) = _
  omega

/-! ## Addresses and offsets -/

theorem last_words : n.words.last = .ok n.last.word := by
  obtain ⟨x, hx, hnat⟩ := hostMask_words (n := n)
  rw [WordNetwork.last, hx]
  refine congrArg Except.ok (BitVec.eq_of_toNat_eq ?_)
  have hlt : x.toNat < 2 ^ (f.width - n.length) := by
    rw [hnat]
    exact Nat.sub_lt n.size_pos Nat.one_pos
  rw [Word.toNat_or_of_dvd n.aligned hlt, hnat]
  rfl

theorem contains_words : n.words.contains a.word = .ok (n.contains a) := by
  have hmask := WordNetwork.mask_eq_ok (n := n.words) length_words_le
  rw [toNat_length_words] at hmask
  rw [WordNetwork.contains, hmask]
  refine congrArg Except.ok (Bool.eq_iff_iff.2 ?_)
  rw [beq_iff_eq, ← BitVec.toNat_inj, Word.toNat_and_shiftLeft_allOnes, contains, beq_iff_eq]
  rfl

theorem overlaps_words : m.words.overlaps n.words = .ok (m.overlaps n) := by
  have hm : m.words.contains n.words.base = .ok (m.contains n.first) := contains_words
  have hn : n.words.contains m.words.base = .ok (n.contains m.first) := contains_words
  rw [WordNetwork.overlaps, hm, hn, overlaps]
  cases m.contains n.first <;> rfl

theorem size_words {n : Network .v4} : ∃ x, n.words.size = .ok x ∧ x.toNat = n.size := by
  have hle : n.length ≤ 32 := n.length_le
  have hlength : (n.words.length.setWidth 32).toNat = n.length := by
    rw [BitVec.toNat_setWidth_of_le (by decide), toNat_length_words]
  obtain ⟨rest, hrest, hnat⟩ := Word.exists_sub (x := 32#32) (y := n.words.length.setWidth 32)
    (by rw [hlength]; exact hle)
  rw [hlength] at hnat
  have hlt : rest.toNat < Family.v4.offsetWidth := by
    rw [hnat]
    exact Nat.lt_of_le_of_lt (Nat.sub_le _ _) (by decide)
  obtain ⟨size, hsize, hpow⟩ := Word.exists_one_shiftLeft hlt
  rw [hnat] at hpow
  rw [WordNetwork.size, hrest]
  exact ⟨size, hsize, hpow⟩

theorem exists_add_base {x : BitVec f.width} (h : x.toNat < n.size) :
    ∃ y, Word.add n.words.base x = .ok y ∧ n.nth? x.toNat = some (Address.ofWord y) := by
  obtain ⟨y, hy, hnat⟩ := Word.exists_add (x := n.words.base) (y := x)
    (Nat.lt_of_lt_of_le (Nat.add_lt_add_left h _) n.base_add_size_le)
  exact ⟨y, hy, nth?_eq_some.2 ⟨h, hnat⟩⟩

theorem hasOffset_words {o : BitVec f.offsetWidth} :
    n.words.hasOffset o = .ok (decide (o.toNat < n.size)) := by
  cases f with
  | v4 =>
    obtain ⟨size, hsize, hnat⟩ := size_words (n := n)
    rw [WordNetwork.hasOffset, hsize, ← hnat]
    rfl
  | v6 =>
    obtain ⟨last, hlast, hnat⟩ := hostMask_words (n := n)
    have hcut : (o.setWidth Family.v6.width).toNat = o.toNat :=
      BitVec.toNat_setWidth_of_le (Nat.le_refl 128)
    rw [WordNetwork.hasOffset, hlast]
    refine congrArg Except.ok (decide_eq_decide.2 ?_)
    rw [BitVec.le_def, hcut, hnat]
    exact (Nat.lt_iff_le_pred n.size_pos).symm

theorem nth?_words {o : BitVec f.offsetWidth} :
    n.words.nth? o = .ok ((n.nth? o.toNat).map Address.word) := by
  rw [WordNetwork.nth?, hasOffset_words]
  by_cases ho : o.toNat < n.size
  · have hcut : (o.setWidth f.width).toNat = o.toNat := by
      have hroom := n.base_add_size_le
      rw [BitVec.toNat_setWidth]
      exact Nat.mod_eq_of_lt (by omega)
    obtain ⟨y, hy, hnth⟩ := exists_add_base (n := n) (x := o.setWidth f.width) (by rwa [hcut])
    rw [← hcut, hnth, decide_eq_true (by rwa [hcut]), hy]
    rfl
  · rw [decide_eq_false ho, nth?, dif_neg ho]
    rfl

theorem offset?_words :
    (n.words.offset? a.word).map (Option.map BitVec.toNat) = .ok (n.offset? a) := by
  rw [WordNetwork.offset?, contains_words, offset?]
  cases hc : n.contains a with
  | false => rfl
  | true =>
    obtain ⟨o, ho, hnat⟩ := Word.exists_sub (x := a.word) (y := n.words.base) (contains_iff.1 hc).1
    have hwidth : f.width ≤ f.offsetWidth := by cases f <;> decide
    show Except.map _ ((Word.sub a.word n.words.base).bind _) = _
    rw [ho]
    show Except.ok (some (o.setWidth f.offsetWidth).toNat) = _
    rw [BitVec.toNat_setWidth_of_le hwidth, hnat]
    rfl

theorem gateway?_words : n.words.gateway? = .ok (n.gateway?.map Address.word) := by
  cases f with
  | v4 =>
    obtain ⟨size, hsize, hnat⟩ := size_words (n := n)
    have hiff : 2 < size ↔ ¬n.size ≤ 2 := by rw [BitVec.lt_def, hnat, Nat.not_le]; rfl
    rw [WordNetwork.gateway?, hsize, gateway?]
    show (if 2 < size then _ else _) = _
    split
    next h =>
      rw [if_neg fun hs => hiff.1 h hs.2]
      exact nth?_words
    next h =>
      rw [if_pos ⟨rfl, Decidable.not_not.1 (mt hiff.2 h)⟩]
      rfl
  | v6 =>
    rw [WordNetwork.gateway?, gateway?, if_neg fun h => nomatch h.1]
    exact nth?_words

/-! ## Building and parts -/

theorem build_words {text : String} {length : BitVec 8} :
    WordNetwork.build text a.word length = .ok ((Network.build text a length.toNat).map words) := by
  rw [WordNetwork.build, Network.build]
  by_cases hl : length.toNat ≤ f.width
  · have hlength : ¬BitVec.ofNat 8 f.width < length := by
      rw [BitVec.lt_def, f.toNat_width]
      exact Nat.not_lt.2 hl
    obtain ⟨x, hx, -, hnat⟩ := WordNetwork.hostMask_eq_ok (n := ⟨a.word, length⟩) hl
    have hbits : a.word &&& x = 0 ↔ 2 ^ (f.width - length.toNat) ∣ a.toNat := by
      rw [← BitVec.toNat_inj, BitVec.toNat_and, hnat, Nat.and_two_pow_sub_one_eq_mod,
        Nat.dvd_iff_mod_eq_zero]
      rfl
    rw [if_neg hlength, dif_pos hl]
    show (WordNetwork.hostMask ⟨a.word, length⟩).bind _ = _
    rw [hx]
    show (if a.word &&& x = 0 then _ else _) = _
    split
    next h =>
      rw [dif_pos (hbits.1 h)]
      refine congrArg (fun n => Except.ok (Except.ok n)) (WordNetwork.ext rfl ?_)
      exact (BitVec.ofNat_toNat 8 length).trans (BitVec.setWidth_eq length) |>.symm
    next h =>
      rw [dif_neg (mt hbits.2 h)]
      rfl
  · have hlength : BitVec.ofNat 8 f.width < length := by
      rw [BitVec.lt_def, f.toNat_width]
      exact Nat.not_le.1 hl
    rw [if_pos hlength, dif_neg hl]
    rfl

/-- The count of parts is exact, or as high as 128 bits count. -/
theorem partCount_words {n : Network .v6} {target : BitVec 8} :
    ∃ count, n.words.partCount target = .ok count ∧
      count.map BitVec.toNat = n.partCount target.toNat := by
  have hnone : target < n.words.length ∨ 128#8 < target ↔
      target.toNat < n.length ∨ Family.v6.width < target.toNat := by
    rw [BitVec.lt_def, BitVec.lt_def, toNat_length_words]
    rfl
  rw [WordNetwork.partCount, Network.partCount]
  by_cases h : target < n.words.length ∨ 128#8 < target
  · rw [if_pos h, if_pos (hnone.1 h), toNat_length_words]
    exact ⟨_, rfl, rfl⟩
  · have hnat := mt hnone.2 h
    rw [not_or, Nat.not_lt, Nat.not_lt] at hnat
    obtain ⟨hle, hwidth⟩ : n.length ≤ target.toNat ∧ target.toNat ≤ 128 := hnat
    obtain ⟨bits, hbits, hnat⟩ := Word.exists_sub (x := target) (y := n.words.length)
      (by rwa [toNat_length_words])
    rw [toNat_length_words] at hnat
    rw [if_neg h, if_neg (mt hnone.2 h), hbits, ← hnat]
    show ∃ count, (if 128#8 ≤ bits then _ else _) = _ ∧ _
    split
    next hall =>
      have hall : 128 ≤ bits.toNat := hall
      have hlast : bits.toNat = 128 := by omega
      rw [hlast]
      exact ⟨_, rfl, rfl⟩
    next hfew =>
      have hfew : bits.toNat < Family.v6.width := Nat.not_le.1 hfew
      obtain ⟨count, hcount, hpow⟩ := Word.exists_one_shiftLeft hfew
      rw [hcount]
      refine ⟨_, rfl, congrArg Except.ok ?_⟩
      rw [hpow, Nat.min_eq_left]
      exact Nat.le_sub_one_of_lt (Nat.pow_lt_pow_right (by decide) hfew)

/-- The bits of an index of a part are all kept. -/
theorem partOffset_eq_ok {index : BitVec 64} {target : BitVec 8} (hw : target.toNat ≤ 128)
    (hi : index.toNat * 2 ^ (128 - target.toNat) < 2 ^ Family.v6.width) :
    ∃ offset, WordNetwork.partOffset index target = .ok offset ∧
      offset.toNat = index.toNat * 2 ^ (128 - target.toNat) := by
  have htarget : (target.setWidth 32).toNat = target.toNat := BitVec.toNat_setWidth_of_le (by decide)
  have hindex : (index.setWidth Family.v6.width).toNat = index.toNat :=
    BitVec.toNat_setWidth_of_le (by decide)
  obtain ⟨rest, hrest, hnat⟩ := Word.exists_sub (x := 128#32) (y := target.setWidth 32)
    (by rw [htarget]; exact hw)
  have hnat : rest.toNat = 128 - target.toNat := by rw [hnat, htarget]; rfl
  rw [WordNetwork.partOffset, hrest, ← hnat]
  show ∃ offset, (if 128#32 ≤ rest then _ else _) = _ ∧ _
  split
  next hall =>
    -- All bits are behind the prefix length, so that there is one part only.
    have hall : 128 ≤ rest.toNat := hall
    have hlast : rest.toNat = Family.v6.width := by
      show rest.toNat = 128
      omega
    rw [← hnat, hlast] at hi
    have hzero : index.toNat = 0 := Nat.lt_one_iff.1 (Nat.lt_of_mul_lt_mul_right (by rwa [Nat.one_mul]))
    exact ⟨0, rfl, by rw [hzero, Nat.zero_mul]; rfl⟩
  next hfew =>
    rw [← hindex]
    exact Word.exists_shiftLeft (Nat.not_le.1 hfew) (by rw [hindex, hnat]; exact hi)

theorem part_words {n : Network .v6} {index : BitVec 64} {target : BitVec 8} :
    n.words.part index target = .ok ((n.part index.toNat target.toNat).map words) := by
  obtain ⟨count, hcount, hnat⟩ : ∃ count, n.words.partCount target = .ok count ∧
      count.map BitVec.toNat = n.partCount target.toNat := partCount_words
  rw [WordNetwork.part, hcount, Network.part]
  by_cases h : n.length ≤ target.toNat ∧ target.toNat ≤ Family.v6.width
  · have hsome : ¬(target.toNat < n.length ∨ Family.v6.width < target.toNat) := by omega
    rw [Network.partCount, if_neg hsome] at hnat
    cases count with
    | error e => cases hnat
    | ok count =>
      have hnat : count.toNat = _ := Except.ok.inj hnat
      have hindex : (index.setWidth Family.v6.width).toNat = index.toNat :=
        BitVec.toNat_setWidth_of_le (by decide)
      rw [dif_pos h]
      show (if count ≤ index.setWidth Family.v6.width then _ else _) = _
      split
      next hle =>
        rw [BitVec.le_def, hindex, hnat] at hle
        rw [dif_neg (Nat.not_lt.2 hle), ← hnat, toNat_length_words]
        rfl
      next hlt =>
        rw [BitVec.le_def, hindex, hnat, Nat.not_le] at hlt
        have hoffset := n.partOffset_lt h.1 h.2 (Nat.lt_of_lt_of_le hlt (Nat.min_le_left _ _))
        have hroom := n.base_add_size_le
        obtain ⟨offset, hword, hshift⟩ := partOffset_eq_ok h.2
          (Nat.lt_of_lt_of_le hoffset (Nat.le_trans (Nat.le_add_left _ _) hroom))
        rw [dif_pos hlt, hword]
        refine congrArg (fun p => Except.ok (Except.ok p)) (WordNetwork.ext ?_ ?_)
        · refine BitVec.eq_of_toNat_eq ?_
          show (n.words.base ||| offset).toNat = _
          rw [Word.toNat_or_of_dvd n.aligned (by rw [hshift]; exact hoffset), hshift]
          rfl
        · exact (BitVec.ofNat_toNat 8 target).trans (BitVec.setWidth_eq target) |>.symm
  · have hnone : target.toNat < n.length ∨ Family.v6.width < target.toNat := by omega
    rw [Network.partCount, if_pos hnone] at hnat
    cases count with
    | error e =>
      cases hnat
      rw [dif_neg h]
      rfl
    | ok available => cases hnat

/-! ## Main result -/

/-- The operations on words give what those of the network give. -/
structure OnWords (n : Network f) : Prop where
  netmask : n.words.mask = .ok n.netmask.word
  last : n.words.last = .ok n.last.word
  contains : ∀ a : Address f, n.words.contains a.word = .ok (n.contains a)
  overlaps : ∀ m : Network f, n.words.overlaps m.words = .ok (n.overlaps m)
  nth? : ∀ o, n.words.nth? o = .ok ((n.nth? o.toNat).map Address.word)
  offset? : ∀ a : Address f,
    (n.words.offset? a.word).map (Option.map BitVec.toNat) = .ok (n.offset? a)
  gateway? : n.words.gateway? = .ok (n.gateway?.map Address.word)

theorem onWords (n : Network f) : n.OnWords where
  netmask := mask_words
  last := last_words
  contains _ := contains_words
  overlaps _ := overlaps_words
  nth? _ := nth?_words
  offset? _ := offset?_words
  gateway? := gateway?_words

theorem contains_iff_le : n.contains a = true ↔ n.first ≤ a ∧ a ≤ n.last := by
  have := n.size_pos
  rw [contains_iff, Address.le_def, Address.le_def, toNat_first, toNat_last]
  omega

theorem nth?_iff_offset? {o : Nat} : n.nth? o = some a ↔ n.offset? a = some o := by
  rw [nth?_eq_some, offset?_eq_some, contains_iff]
  omega

theorem isSome_nth?_iff {o : Nat} : (n.nth? o).isSome = true ↔ o < n.size := by
  unfold nth?
  split
  next h => simp [h]
  next h => simp [h]

/-- Networks that overlap lie one in the other. -/
theorem overlaps_tfae (m n : Network f) :
    [m.overlaps n = true, n.overlaps m = true, ∃ a, m.contains a = true ∧ n.contains a = true,
      (∀ a, n.contains a = true → m.contains a = true) ∨
        ∀ a, m.contains a = true → n.contains a = true].TFAE := by
  tfae_have 1 ↔ 2 := by rw [overlaps_comm]
  tfae_have 1 ↔ 3 := overlaps_iff
  tfae_have 3 → 4 := by
    rintro ⟨a, hm, hn⟩
    rcases size_dvd_total m n with hd | hd
    · exact .inr fun b => contains_of_contains_first hd (contains_first_of_dvd hd hm hn)
    · exact .inl fun b => contains_of_contains_first hd (contains_first_of_dvd hd hn hm)
  tfae_have 4 → 3 := by
    rintro (h | h)
    · exact ⟨n.first, h _ contains_first, contains_first⟩
    · exact ⟨m.first, contains_first, h _ contains_first⟩
  tfae_finish

/-- **The arithmetic of networks.**  Every network is built from its base and its
    length; building one on words, from any address and any length of 8 bits, and
    all that words then compute of it, gives what the network gives, without an
    overflow.  The addresses of a network are those from the first to the last; the
    address at an offset is the one with this offset, and there is one exactly for
    the offsets below the size; and networks overlap if they have an address in
    common, which is to say that one lies in the other. -/
theorem arithmetic_on_words :
    (∀ {f : Family} (n : Network f), Network.new n.first n.length = .ok n ∧ n.OnWords ∧
      (∀ a, n.contains a = true ↔ n.first ≤ a ∧ a ≤ n.last) ∧
      (∀ o a, n.nth? o = some a ↔ n.offset? a = some o) ∧
      (∀ o, (n.nth? o).isSome = true ↔ o < 2 ^ (f.width - n.length)) ∧
      ∀ m : Network f,
        [m.overlaps n = true, n.overlaps m = true, ∃ a, m.contains a = true ∧ n.contains a = true,
          (∀ a, n.contains a = true → m.contains a = true) ∨
            ∀ a, m.contains a = true → n.contains a = true].TFAE) ∧
    (∀ {f : Family} (text : String) (a : Address f) (length : BitVec 8),
      WordNetwork.build text a.word length =
        .ok ((Network.build text a length.toNat).map words)) ∧
    (∀ n : Network .v4, ∃ size, n.words.size = .ok size ∧ size.toNat = n.size) ∧
    ∀ (n : Network .v6) (target : BitVec 8),
      (∃ count, n.words.partCount target = .ok count ∧
        count.map BitVec.toNat = n.partCount target.toNat) ∧
      ∀ index : BitVec 64,
        n.words.part index target = .ok ((n.part index.toNat target.toNat).map words) := by
  refine ⟨fun {f} n => ⟨build_eq_ok.2 ⟨rfl, rfl⟩, n.onWords, ?_, ?_, ?_, ?_⟩, ?_, ?_, ?_⟩
  · exact fun a => contains_iff_le
  · exact fun o a => nth?_iff_offset?
  · exact fun o => isSome_nth?_iff
  · exact fun m => overlaps_tfae m n
  · exact fun text a length => build_words
  · exact fun n => size_words
  · exact fun n target => ⟨partCount_words, fun index => part_words⟩

end Network

end NetworkSite
