/-
  Numbers in texts.

  `readDigits base` reads a non-empty run of digits and nothing else.
  `readUnsigned limit` is the form in which prefix lengths and ports are
  written: decimal digits, leading zeros allowed, optionally after a `+`, and a
  value of at most `limit`.  `decimal` and `hex` write numbers without leading
  zeros, `hexPadded` with a fixed count of digits; `readDigits` reads them back
  (`readDigits_decimal`, `readDigits_hex`), and decimal digits give a number only
  with zeros in front of its own (`readDigits_eq_some_iff`).
-/
import NetworkSite.Text.Blank

namespace NetworkSite

-- Powers are those of natural numbers, whatever other powers are in scope.
attribute [scoped instance (2000)] instPowNat

namespace Text

/-- The value of a digit of a base up to 16; letters of either case. -/
def digitValue? (base : Nat) (c : Char) : Option Nat :=
  let n := c.toNat
  let value :=
    if '0' ≤ c && c ≤ '9' then n - 48
    else if 'a' ≤ c && c ≤ 'f' then n - 87
    else if 'A' ≤ c && c ≤ 'F' then n - 55
    else base
  if value < base then some value else none

/-- The number that the digits `cs` give after digits of value `n`. -/
def readDigitsFrom (base n : Nat) : List Char → Option Nat
  | [] => some n
  | c :: rest =>
    match digitValue? base c with
    | some d => readDigitsFrom base (n * base + d) rest
    | none => none

/-- The number written by a non-empty run of digits. -/
def readDigits (base : Nat) (cs : List Char) : Option Nat :=
  if cs.isEmpty then none else readDigitsFrom base 0 cs

/-- The text without one leading `+`. -/
def dropPlus : List Char → List Char
  | '+' :: rest => rest
  | cs => cs

/-- A number of at most `limit`, written with digits of the base, optionally
    after a `+`. -/
def readUnsignedIn (base limit : Nat) (cs : List Char) : Option Nat :=
  match readDigits base (dropPlus cs) with
  | some n => if n ≤ limit then some n else none
  | none => none

theorem dropPlus_eq_self {cs : List Char} (h : cs.head? ≠ some '+') : dropPlus cs = cs := by
  unfold dropPlus
  split
  next => exact absurd rfl h
  next => rfl

/-- All that may be dropped is one `+`. -/
theorem exists_sign_dropPlus (cs : List Char) :
    ∃ sign, (sign = [] ∨ sign = ['+']) ∧ cs = sign ++ dropPlus cs := by
  unfold dropPlus
  split
  next => exact ⟨['+'], .inr rfl, rfl⟩
  next => exact ⟨[], .inl rfl, rfl⟩

theorem readUnsignedIn_eq_some {base limit n : Nat} {cs : List Char} :
    readUnsignedIn base limit cs = some n ↔ readDigits base (dropPlus cs) = some n ∧ n ≤ limit := by
  unfold readUnsignedIn
  cases readDigits base (dropPlus cs) with
  | none => simp
  | some m =>
    rw [Option.ite_none_right_eq_some, Option.some.injEq]
    constructor
    · rintro ⟨hle, rfl⟩
      exact ⟨rfl, hle⟩
    · rintro ⟨rfl, hle⟩
      exact ⟨hle, rfl⟩

/-- A decimal number of at most `limit`. -/
def readUnsigned (limit : Nat) (cs : List Char) : Option Nat :=
  readUnsignedIn 10 limit cs

/-- The decimal digits of a number. -/
def decimal (n : Nat) : List Char :=
  Nat.toDigits 10 n

/-- The hexadecimal digits of a number, letters in lower case. -/
def hex (n : Nat) : List Char :=
  Nat.toDigits 16 n

/-- The last `width` hexadecimal digits of a number. -/
def hexPadded (width n : Nat) : List Char :=
  match width with
  | 0 => []
  | w + 1 => hexPadded w (n / 16) ++ [Nat.digitChar (n % 16)]

/-! ## What is read -/

theorem digitValue?_eq_some {base v : Nat} {c : Char} (hbase : base ≤ 16) :
    digitValue? base c = some v ↔ digitValue? 16 c = some v ∧ v < base := by
  simp only [digitValue?, Bool.and_eq_true, decide_eq_true_eq, Option.ite_none_right_eq_some,
    Option.some.injEq]
  split
  · omega
  · split
    · omega
    · split <;> omega

/-- The hexadecimal digits are the decimal ones and six letters of either case. -/
theorem hexDigitValue?_eq_some {v : Nat} {c : Char} :
    digitValue? 16 c = some v ↔
      (48 ≤ c.toNat ∧ c.toNat ≤ 57 ∧ v + 48 = c.toNat) ∨
        (97 ≤ c.toNat ∧ c.toNat ≤ 102 ∧ v + 87 = c.toNat) ∨
          (65 ≤ c.toNat ∧ c.toNat ≤ 70 ∧ v + 55 = c.toNat) := by
  have hle (a b : Char) : a ≤ b ↔ a.toNat ≤ b.toNat := Iff.rfl
  simp only [digitValue?, Bool.and_eq_true, decide_eq_true_eq, Option.ite_none_right_eq_some,
    Option.some.injEq, hle, Char.reduceToNat]
  split
  · omega
  · split
    · omega
    · split <;> omega

theorem isBlank_eq_false {c : Char} (h : (digitValue? 16 c).isSome = true) : isBlank c = false := by
  obtain ⟨v, hv⟩ := Option.isSome_iff_exists.1 h
  rw [hexDigitValue?_eq_some] at hv
  simp only [isBlank, Bool.or_eq_false_iff, Bool.and_eq_false_iff, decide_eq_false_iff_not,
    beq_eq_false_iff_ne]
  omega

/-- Only digits are read. -/
theorem isSome_digitValue?_of_readDigitsFrom {base n m : Nat} {cs : List Char}
    (h : readDigitsFrom base n cs = some m) : ∀ c ∈ cs, (digitValue? base c).isSome = true := by
  induction cs generalizing n with
  | nil => exact fun c hc => absurd hc List.not_mem_nil
  | cons d rest ih =>
    intro c hc
    rw [readDigitsFrom] at h
    split at h
    next hd =>
      rcases List.mem_cons.1 hc with rfl | hc
      · rw [hd]
        rfl
      · exact ih h c hc
    next => cases h

theorem isSome_digitValue?_of_readDigits {base m : Nat} {cs : List Char}
    (h : readDigits base cs = some m) : ∀ c ∈ cs, (digitValue? base c).isSome = true := by
  unfold readDigits at h
  split at h
  next => cases h
  next => exact isSome_digitValue?_of_readDigitsFrom h

theorem dropPlus_of_readDigits {base n : Nat} {cs : List Char} (h : readDigits base cs = some n) :
    dropPlus cs = cs := by
  have hplus : digitValue? base '+' = none := by simp [digitValue?]
  refine dropPlus_eq_self fun he => ?_
  have hsome := isSome_digitValue?_of_readDigits h '+' (List.mem_of_mem_head? he)
  rw [hplus] at hsome
  cases hsome

/-! ## Reading what was written -/

theorem readDigitsFrom_append (base n : Nat) (cs ds : List Char) :
    readDigitsFrom base n (cs ++ ds) =
      (readDigitsFrom base n cs).bind fun m => readDigitsFrom base m ds := by
  induction cs generalizing n with
  | nil => rfl
  | cons c cs ih =>
    rw [List.cons_append, readDigitsFrom, readDigitsFrom]
    split
    · exact ih _
    · rfl

/-- The digits of a number give the number. -/
theorem readDigits_toDigits {base : Nat} (hbase : 1 < base)
    (hdigit : ∀ d < base, digitValue? base (Nat.digitChar d) = some d) (n : Nat) :
    readDigits base (Nat.toDigits base n) = some n := by
  have hrun : readDigitsFrom base 0 (Nat.toDigits base n) = some n := by
    induction n using Nat.strongRecOn with
    | ind n ih =>
      by_cases hn : n < base
      · rw [Nat.toDigits_of_lt_base hn, readDigitsFrom, hdigit n hn]
        show some (0 * base + n) = some n
        rw [Nat.zero_mul, Nat.zero_add]
      · have hle : base ≤ n := Nat.le_of_not_lt hn
        have hmod : n % base < base := Nat.mod_lt n (by omega)
        rw [Nat.toDigits_of_base_le hbase hle, readDigitsFrom_append,
          ih (n / base) (Nat.div_lt_self (by omega) hbase), Option.bind_some, readDigitsFrom,
          hdigit _ hmod]
        show some (n / base * base + n % base) = some n
        rw [Nat.div_add_mod']
  rw [readDigits, if_neg (by simp), hrun]

theorem readDigits_decimal (n : Nat) : readDigits 10 (decimal n) = some n :=
  readDigits_toDigits (by decide) (by decide) n

theorem decimal_injective : Function.Injective decimal := fun m n h => by
  have hread := congrArg (readDigits 10) h
  rw [readDigits_decimal, readDigits_decimal] at hread
  exact Option.some.inj hread

theorem eq_digitChar_of_digitValue? {c : Char} {d : Nat} (h : digitValue? 10 c = some d) :
    d < 10 ∧ c = Nat.digitChar d := by
  obtain ⟨hhex, hd⟩ := (digitValue?_eq_some (by decide)).1 h
  refine ⟨hd, ?_⟩
  have hdigit : ∀ d < 10, Nat.digitChar d = Char.ofNat (d + 48) := by decide
  rw [hexDigitValue?_eq_some] at hhex
  rw [hdigit d hd, ← Char.ofNat_toNat c]
  congr 1
  omega

/-- Digits that are read after a positive number are those with which it goes on. -/
theorem decimal_of_readDigitsFrom {m n : Nat} {cs : List Char} (hm : 0 < m)
    (h : readDigitsFrom 10 m cs = some n) : decimal n = decimal m ++ cs := by
  induction cs generalizing m with
  | nil =>
    cases h
    exact (List.append_nil _).symm
  | cons c rest ih =>
    rw [readDigitsFrom] at h
    split at h
    next d hd =>
      obtain ⟨hlt, rfl⟩ := eq_digitChar_of_digitValue? hd
      have hdecimal : decimal (m * 10 + d) = decimal m ++ [Nat.digitChar d] := by
        have hdiv : (m * 10 + d) / 10 = m := by omega
        have hmod : (m * 10 + d) % 10 = d := by omega
        rw [decimal, Nat.toDigits_of_base_le (by decide) (by omega), hdiv, hmod]
        rfl
      rw [ih (by omega) h, hdecimal, List.append_assoc, List.singleton_append]
    next => cases h

/-- The digits that give a number are its own, with zeros in front of them. -/
theorem readDigits_eq_some_iff {n : Nat} {cs : List Char} :
    readDigits 10 cs = some n ↔ ∃ zeros, cs = List.replicate zeros '0' ++ decimal n := by
  constructor
  · intro h
    induction cs with
    | nil => cases h
    | cons c rest ih =>
      rw [readDigits, if_neg (by simp), readDigitsFrom] at h
      split at h
      next d hd =>
        obtain ⟨hlt, rfl⟩ := eq_digitChar_of_digitValue? hd
        rw [Nat.zero_mul, Nat.zero_add] at h
        -- A zero stands in front of the digits of the number, or is all of them.
        rcases Nat.eq_zero_or_pos d with rfl | hpos
        · cases rest with
          | nil =>
            cases h
            exact ⟨0, rfl⟩
          | cons e rest =>
            obtain ⟨zeros, hrest⟩ := ih h
            exact ⟨zeros + 1, congrArg ('0' :: ·) hrest⟩
        · refine ⟨0, ?_⟩
          rw [decimal_of_readDigitsFrom hpos h, decimal, Nat.toDigits_of_lt_base hlt]
          rfl
      next => cases h
  · rintro ⟨zeros, rfl⟩
    induction zeros with
    | zero => exact readDigits_decimal n
    | succ zeros ih =>
      rw [readDigits] at ih
      split at ih
      next => cases ih
      next => exact ih

theorem readDigits_hex (n : Nat) : readDigits 16 (hex n) = some n :=
  readDigits_toDigits (by decide) (by decide) n

theorem exists_digit_of_mem_toDigits {base n : Nat} (hbase : 1 < base) {c : Char}
    (hc : c ∈ Nat.toDigits base n) : ∃ d, Nat.digitChar d = c := by
  induction n using Nat.strongRecOn with
  | ind n ih =>
    by_cases hn : n < base
    · rw [Nat.toDigits_of_lt_base hn, List.mem_singleton] at hc
      exact ⟨n, hc.symm⟩
    · rw [Nat.toDigits_of_base_le hbase (Nat.le_of_not_lt hn), List.mem_append,
        List.mem_singleton] at hc
      rcases hc with hc | hc
      · exact ih (n / base) (Nat.div_lt_self (by omega) hbase) hc
      · exact ⟨_, hc.symm⟩

theorem isDigit_of_mem_decimal {n : Nat} {c : Char} (h : c ∈ decimal n) : c.isDigit = true :=
  Nat.isDigit_of_mem_toDigits (by decide) (by decide) h

theorem isBlank_eq_false_of_mem_decimal {n : Nat} {c : Char} (h : c ∈ decimal n) :
    isBlank c = false := by
  have hdecimal := isSome_digitValue?_of_readDigits (readDigits_decimal n) c h
  obtain ⟨v, hv⟩ := Option.isSome_iff_exists.1 hdecimal
  exact isBlank_eq_false (Option.isSome_of_eq_some ((digitValue?_eq_some (by decide)).1 hv).1)

theorem readUnsigned_decimal {limit n : Nat} (h : n ≤ limit) :
    readUnsigned limit (decimal n) = some n := by
  rw [readUnsigned, readUnsignedIn_eq_some, dropPlus_of_readDigits (readDigits_decimal n)]
  exact ⟨readDigits_decimal n, h⟩

/-- A positive number is written without a zero in front. -/
theorem head?_decimal_ne (n : Nat) (hn : 0 < n) : (decimal n).head? ≠ some '0' := by
  unfold decimal
  induction n using Nat.strongRecOn with
  | ind n ih =>
    by_cases hlt : n < 10
    · rw [Nat.toDigits_of_lt_base hlt, List.head?_cons, ne_eq, Option.some.injEq,
        Nat.digitChar_eq_zero]
      omega
    · have hle : 10 ≤ n := Nat.le_of_not_lt hlt
      rw [Nat.toDigits_of_base_le (by decide) hle, List.head?_append, Option.or_of_isSome (by simp)]
      exact ih (n / 10) (Nat.div_lt_self hn (by decide)) (Nat.div_pos hle (by decide))

end Text

end NetworkSite
