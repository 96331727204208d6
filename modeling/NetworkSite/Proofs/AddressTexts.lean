/-
  Texts of addresses.

  The canonical text of an address is read as this address
  (`Address.ofText?_text`), so different addresses have different texts
  (`IpAddress.text_inj`), and a text is an address of one family only
  (`IpAddress.ofText?_of_v6`), with digits, colons and dots
  (`Address.not_mem_of_read?`).  For IPv6 the reader finds the gap where the writer
  put it, since no group is empty (`Groups.cutAtGap_plainChars`), and fills it
  with as many zero groups as were left out (`Groups.longestZeroRun_spec`).
-/
import NetworkSite.Net.AddressText

namespace NetworkSite

open Text

variable {α β : Type} {n : Nat} {groups : List Nat}

/-- Items are read together if each of them is read. -/
theorem mapM_eq_some {read : α → Option β} {items : List α} {values : List β} :
    items.mapM read = some values ↔ items.map read = values.map some := by
  induction items generalizing values with
  | nil =>
    cases values with
    | nil => exact ⟨fun _ => rfl, fun _ => rfl⟩
    | cons b bs => exact ⟨nofun, nofun⟩
  | cons a rest ih =>
    have hcons : (a :: rest).mapM read = some values ↔
        ∃ b, read a = some b ∧ ∃ bs, rest.mapM read = some bs ∧ b :: bs = values := by
      rw [List.mapM_cons]
      simp [Option.bind_eq_some_iff]
    rw [hcons]
    constructor
    · rintro ⟨b, hb, bs, hbs, rfl⟩
      rw [List.map_cons, List.map_cons, hb, ih.1 hbs]
    · intro h
      cases values with
      | nil => cases h
      | cons b bs =>
        obtain ⟨hb, hbs⟩ := List.cons.inj h
        exact ⟨b, hb, bs, ih.2 hbs, rfl⟩

theorem mapM_map_eq {γ : Type} {write : α → β} {read : β → Option γ} {f : α → γ} {items : List α}
    (h : ∀ a ∈ items, read (write a) = some (f a)) :
    (items.map write).mapM read = some (items.map f) := by
  rw [mapM_eq_some, List.map_map, List.map_map]
  exact List.map_congr_left h

theorem mapM_map_eq_some {write : α → β} {read : β → Option α} {items : List α}
    (h : ∀ a ∈ items, read (write a) = some a) : (items.map write).mapM read = some items :=
  (mapM_map_eq (f := id) h).trans (by rw [List.map_id])

theorem exists_of_mapM_eq_some {read : α → Option β} {items : List α} {values : List β}
    (h : items.mapM read = some values) : ∀ a ∈ items, ∃ b, read a = some b := by
  intro a ha
  have hmem : read a ∈ values.map some := mapM_eq_some.1 h ▸ List.mem_map_of_mem ha
  obtain ⟨b, -, he⟩ := List.mem_map.1 hmem
  exact ⟨b, he.symm⟩

/-! ## IPv4 -/

namespace Octets

theorem readOne?_decimal (hn : n ≤ 255) : readOne? (decimal n) = some n := by
  have hlength : (decimal n).length ≤ 3 :=
    (Nat.length_toDigits_le_iff (by decide) (by decide)).2 (Nat.lt_of_le_of_lt hn (by decide))
  have hhead : ¬(1 < (decimal n).length ∧ (decimal n).head? = some '0') := by
    rintro ⟨hlong, hzero⟩
    have hpos : 0 < n := by
      refine Nat.pos_of_ne_zero ?_
      rintro rfl
      exact absurd hlong (by decide)
    exact head?_decimal_ne n hpos hzero
  rw [readOne?, if_neg, readDigits_decimal]
  · exact if_pos hn
  · simp only [Bool.or_eq_true, decide_eq_true_eq, Bool.and_eq_true, beq_iff_eq, not_or]
    exact ⟨Nat.not_lt.2 hlength, hhead⟩

theorem le_of_mem_ofNat {g : Nat} (hg : g ∈ ofNat n) : g ≤ 255 := by
  obtain ⟨k, -, rfl⟩ := List.mem_map.1 hg
  exact Nat.le_of_lt_succ (Nat.mod_lt _ (by decide))

theorem mem_chars {c : Char} (hc : c ∈ chars n) : c = '.' ∨ ∃ d, Nat.digitChar d = c := by
  rcases mem_join hc with hc | ⟨piece, hp, hc⟩
  · exact .inl (List.mem_singleton.1 hc)
  · obtain ⟨g, -, rfl⟩ := List.mem_map.1 hp
    exact .inr (exists_digit_of_mem_toDigits (by decide) hc)

theorem dot_mem_chars (n : Nat) : '.' ∈ chars n := by
  simp [chars, ofNat, join]

theorem colon_not_mem_chars (n : Nat) : ':' ∉ chars n := by
  intro hc
  obtain h | ⟨d, hd⟩ := mem_chars hc
  · exact absurd h (by decide)
  · exact Nat.digitChar_ne ':' (by decide) hd

theorem read?_chars (hn : n < 2 ^ Family.v4.width) : read? (chars n) = some n := by
  have hdots : ∀ piece ∈ (ofNat n).map decimal, '.' ∉ piece := by
    intro piece hp hc
    obtain ⟨g, -, rfl⟩ := List.mem_map.1 hp
    obtain ⟨d, hd⟩ := exists_digit_of_mem_toDigits (by decide) hc
    exact Nat.digitChar_ne '.' (by decide) hd
  have hread : ((ofNat n).map decimal).mapM readOne? = some (ofNat n) :=
    mapM_map_eq_some fun g hg => readOne?_decimal (le_of_mem_ofNat hg)
  rw [read?, chars, split_join (by simp [ofNat]) hdots, hread]
  have hn : n < 4294967296 := hn
  simp only [ofNat, List.map_cons, List.map_nil, Option.some.injEq]
  omega

end Octets

/-! ## IPv6 -/

namespace Groups

theorem length_ofNat (n : Nat) : (ofNat n).length = 8 := rfl

theorem lt_of_mem_ofNat {g : Nat} (hg : g ∈ ofNat n) : g < 65536 := by
  obtain ⟨k, -, rfl⟩ := List.mem_map.1 hg
  exact Nat.mod_lt _ (by decide)

/-- Putting `k` more groups of a number behind a prefix. -/
theorem foldl_groups (n k start : Nat) :
    ((List.range k).reverse.map fun i => n / 65536 ^ i % 65536).foldl (fun m g => m * 65536 + g)
      start = start * 65536 ^ k + n % 65536 ^ k := by
  induction k generalizing start with
  | zero =>
    rw [Nat.pow_zero, Nat.mod_one, Nat.mul_one, Nat.add_zero]
    rfl
  | succ k ih =>
    rw [List.range_succ, List.reverse_append, List.reverse_singleton, List.singleton_append,
      List.map_cons, List.foldl_cons, ih, Nat.mod_pow_succ, Nat.pow_succ, Nat.add_mul,
      Nat.mul_assoc, Nat.mul_comm 65536 (65536 ^ k), Nat.mul_comm (n / 65536 ^ k % 65536),
      Nat.add_assoc, Nat.add_comm (n % 65536 ^ k)]

theorem toNat_ofNat (hn : n < 2 ^ Family.v6.width) : toNat (ofNat n) = n := by
  have hgroups := foldl_groups n 8 0
  have hn : n < 65536 ^ 8 := hn
  rw [Nat.zero_mul, Nat.zero_add, Nat.mod_eq_of_lt hn] at hgroups
  exact hgroups

/-! ### Groups with colons between them -/

theorem readOne?_hex {g : Nat} (hg : g < 65536) : readOne? (hex g) = some g := by
  have hlength : (hex g).length ≤ 4 :=
    (Nat.length_toDigits_le_iff (by decide) (by decide)).2 hg
  rw [readOne?, if_neg (Nat.not_lt.2 hlength), readDigits_hex]

theorem colon_not_mem_hex (g : Nat) : ':' ∉ hex g := by
  intro hc
  obtain ⟨d, hd⟩ := exists_digit_of_mem_toDigits (by decide) hc
  exact Nat.digitChar_ne ':' (by decide) hd

theorem mem_plainChars {c : Char} (hc : c ∈ plainChars groups) :
    c = ':' ∨ ∃ d, Nat.digitChar d = c := by
  rcases mem_join hc with hc | ⟨piece, hp, hc⟩
  · exact .inl (List.mem_singleton.1 hc)
  · obtain ⟨g, -, rfl⟩ := List.mem_map.1 hp
    exact .inr (exists_digit_of_mem_toDigits (by decide) hc)

theorem plainChars_cons_cons (g g' : Nat) (groups : List Nat) :
    plainChars (g :: g' :: groups) = hex g ++ ':' :: plainChars (g' :: groups) := by
  simp [plainChars, join]

theorem plainChars_ne_nil (g : Nat) (groups : List Nat) : plainChars (g :: groups) ≠ [] := by
  cases groups with
  | nil => exact Nat.toDigits_ne_nil
  | cons g' groups =>
    rw [plainChars_cons_cons]
    exact List.append_ne_nil_of_left_ne_nil Nat.toDigits_ne_nil _

theorem split_plainChars (hne : groups ≠ []) :
    split (· == ':') (plainChars groups) = groups.map hex := by
  refine split_join (mt List.map_eq_nil_iff.1 hne) fun piece hp => ?_
  obtain ⟨g, -, rfl⟩ := List.mem_map.1 hp
  exact colon_not_mem_hex g

theorem readHead?_plainChars (hg : ∀ g ∈ groups, g < 65536) :
    readHead? (plainChars groups) = some groups := by
  cases groups with
  | nil => rfl
  | cons g groups =>
    rw [readHead?, if_neg (mt List.isEmpty_iff.1 (plainChars_ne_nil g groups)),
      split_plainChars (List.cons_ne_nil g groups)]
    exact mapM_map_eq_some fun g hm => readOne?_hex (hg g hm)

theorem octets_read?_hex (g : Nat) : Octets.read? (hex g) = none := by
  have hsplit : split (· == '.') (hex g) = [hex g] := by
    refine split_eq_singleton fun c hc => beq_eq_false_iff_ne.2 ?_
    obtain ⟨d, rfl⟩ := exists_digit_of_mem_toDigits (by decide) hc
    exact Nat.digitChar_ne '.' (by decide)
  rw [Octets.read?, hsplit, List.mapM_cons]
  cases Octets.readOne? (hex g) with
  | none => rfl
  | some => rfl

theorem readPieces?_hex (hg : ∀ g ∈ groups, g < 65536) :
    readPieces? (groups.map hex) = some groups := by
  induction groups with
  | nil => rfl
  | cons g groups ih =>
    have hone := readOne?_hex (hg g List.mem_cons_self)
    have hrest := ih fun g' hm => hg g' (List.mem_cons_of_mem g hm)
    cases groups with
    | nil =>
      rw [List.map_cons, List.map_nil, readPieces?, octets_read?_hex, hone]
      rfl
    | cons g' groups =>
      rw [List.map_cons] at hrest
      rw [List.map_cons, List.map_cons, readPieces?, hone, hrest]
      · rfl
      · exact nofun

theorem readTail?_plainChars (hg : ∀ g ∈ groups, g < 65536) :
    readTail? (plainChars groups) = some groups := by
  cases groups with
  | nil => rfl
  | cons g groups =>
    rw [readTail?, if_neg (mt List.isEmpty_iff.1 (plainChars_ne_nil g groups)),
      split_plainChars (List.cons_ne_nil g groups)]
    exact readPieces?_hex hg

/-! ### The gap -/

theorem cutAtGap_cons {c : Char} {cs : List Char} (h : c = ':' → cs.head? ≠ some ':') :
    cutAtGap (c :: cs) = (cutAtGap cs).map fun (before, after) => (c :: before, after) := by
  rw [cutAtGap]
  rintro rest rfl rfl
  exact h rfl rfl

theorem cutAtGap_append {piece : List Char} (h : ':' ∉ piece) (cs : List Char) :
    cutAtGap (piece ++ cs) =
      (cutAtGap cs).map fun (before, after) => (piece ++ before, after) := by
  induction piece with
  | nil => simp
  | cons c piece ih =>
    rw [List.mem_cons, not_or] at h
    rw [List.cons_append, cutAtGap_cons fun hc => absurd hc.symm h.1, ih h.2, Option.map_map]
    rfl

theorem head?_plainChars_ne (g : Nat) (groups : List Nat) (cs : List Char) :
    (plainChars (g :: groups) ++ cs).head? ≠ some ':' := by
  obtain ⟨tail, htail⟩ : ∃ tail, plainChars (g :: groups) = hex g ++ tail := by
    cases groups with
    | nil => exact ⟨[], (List.append_nil _).symm⟩
    | cons g' groups => exact ⟨_, plainChars_cons_cons g g' groups⟩
  obtain ⟨c, digits, hdigits⟩ := List.exists_cons_of_ne_nil (Nat.toDigits_ne_nil (n := g) (b := 16))
  have hc : c ∈ hex g := by
    rw [hex, hdigits]
    exact List.mem_cons_self
  rw [htail, hex, hdigits, List.cons_append, List.cons_append, List.head?_cons]
  intro he
  exact colon_not_mem_hex g (Option.some.inj he ▸ hc)

/-- Among groups there is no gap. -/
theorem cutAtGap_plainChars (groups : List Nat) (cs : List Char) :
    cutAtGap (plainChars groups ++ cs) =
      (cutAtGap cs).map fun (before, after) => (plainChars groups ++ before, after) := by
  induction groups with
  | nil => simp [plainChars, join]
  | cons g groups ih =>
    cases groups with
    | nil => exact cutAtGap_append (colon_not_mem_hex g) cs
    | cons g' groups =>
      rw [plainChars_cons_cons, List.append_assoc, List.cons_append,
        cutAtGap_append (colon_not_mem_hex g),
        cutAtGap_cons fun _ => head?_plainChars_ne g' groups cs, ih, Option.map_map, Option.map_map]
      cases cutAtGap cs with
      | none => rfl
      | some => simp

theorem replicate_leadingZeros (groups : List Nat) :
    List.replicate (leadingZeros groups) 0 ++ groups.drop (leadingZeros groups) = groups := by
  induction groups with
  | nil => rfl
  | cons g groups ih =>
    by_cases hg : g = 0
    · subst hg
      have hcount : leadingZeros (0 :: groups) = leadingZeros groups + 1 := rfl
      rw [hcount, List.replicate_succ, List.drop_succ_cons, List.cons_append, ih]
    · have hcount : leadingZeros (g :: groups) = 0 := by simp [leadingZeros, hg]
      rw [hcount]
      rfl

/-- The run is a run of zeros. -/
theorem longestZeroRun_spec (groups : List Nat) :
    groups.take (longestZeroRun groups).1 ++ List.replicate (longestZeroRun groups).2 0 ++
      groups.drop ((longestZeroRun groups).1 + (longestZeroRun groups).2) = groups := by
  refine List.foldlRecOn (motive := fun (best : Nat × Nat) =>
    groups.take best.1 ++ List.replicate best.2 0 ++ groups.drop (best.1 + best.2) = groups)
    _ _ rfl fun best hbest i _ => ?_
  dsimp only
  split
  · rw [List.append_assoc, ← List.drop_drop, replicate_leadingZeros, List.take_append_drop]
  · exact hbest

/-! ### All groups -/

theorem readAll?_plainChars (hg : ∀ g ∈ groups, g < 65536) (hlength : groups.length = 8) :
    readAll? (plainChars groups) = some groups := by
  have hcut := cutAtGap_plainChars groups []
  rw [List.append_nil] at hcut
  rw [readAll?, hcut, cutAtGap, Option.map_none]
  dsimp only
  rw [readTail?_plainChars hg, Option.bind_eq_bind, Option.bind_some, if_pos hlength]

theorem readAll?_gap {before after : List Nat} (hb : ∀ g ∈ before, g < 65536)
    (ha : ∀ g ∈ after, g < 65536) (hlength : before.length + after.length ≤ 7) :
    readAll? (plainChars before ++ [':', ':'] ++ plainChars after) =
      some (before ++ List.replicate (8 - before.length - after.length) 0 ++ after) := by
  rw [readAll?, List.append_assoc, cutAtGap_plainChars]
  simp only [List.cons_append, List.nil_append, cutAtGap, Option.map_some, List.append_nil]
  rw [readHead?_plainChars hb, readTail?_plainChars ha]
  exact if_pos hlength

/-- An embedded IPv4 address stands for the last two groups. -/
theorem readAll?_embedded (hn : n < 2 ^ Family.v4.width) :
    readAll? ("::ffff:".toList ++ Octets.chars n) =
      some [0, 0, 0, 0, 0, 65535, n / 65536, n % 65536] := by
  have hsplit : split (· == ':') ("ffff:".toList ++ Octets.chars n) =
      ["ffff".toList, Octets.chars n] := by
    have hlast : split (· == ':') (Octets.chars n) = [Octets.chars n] := by
      refine split_eq_singleton fun c hc => beq_eq_false_iff_ne.2 ?_
      rintro rfl
      exact Octets.colon_not_mem_chars n hc
    rw [← hlast]
    have hfirst : ∀ c ∈ "ffff".toList, (c == ':') = false := by simp
    exact split_append_cons (p := (· == ':')) rfl hfirst (Octets.chars n)
  have htail : readTail? ("ffff:".toList ++ Octets.chars n) =
      some [65535, n / 65536, n % 65536] := by
    rw [readTail?, if_neg (by simp), hsplit]
    simp only [readPieces?, Octets.read?_chars hn]
    rfl
  rw [readAll?, show cutAtGap ("::ffff:".toList ++ Octets.chars n) =
    some ([], "ffff:".toList ++ Octets.chars n) from rfl]
  dsimp only
  rw [htail]
  rfl

theorem read?_chars (hn : n < 2 ^ Family.v6.width) : read? (chars n) = some n := by
  rw [read?, chars]
  split
  next hembedded =>
    have hlow : n % 2 ^ Family.v4.width < 2 ^ Family.v4.width := Nat.mod_lt _ (by decide)
    have hhigh : n / 4294967296 = 65535 := beq_iff_eq.1 hembedded
    rw [readAll?_embedded hlow]
    show some (toNat [0, 0, 0, 0, 0, 65535, n % 4294967296 / 65536, n % 4294967296 % 65536]) = some n
    simp only [toNat, List.foldl_cons, List.foldl_nil, Option.some.injEq]
    omega
  next =>
    have hg : ∀ g ∈ ofNat n, g < 65536 := fun g => lt_of_mem_ofNat
    have hlength := length_ofNat n
    have hspec := longestZeroRun_spec (ofNat n)
    dsimp only
    generalize longestZeroRun (ofNat n) = run at hspec ⊢
    obtain ⟨start, count⟩ := run
    dsimp only at hspec ⊢
    split
    next hcount =>
      have hsum := congrArg List.length hspec
      simp only [List.length_append, List.length_take, List.length_replicate, List.length_drop,
        hlength] at hsum
      have hbefore : ∀ g ∈ (ofNat n).take start, g < 65536 := fun g hm => hg g (List.mem_of_mem_take hm)
      have hafter : ∀ g ∈ (ofNat n).drop (start + count), g < 65536 :=
        fun g hm => hg g (List.mem_of_mem_drop hm)
      rw [readAll?_gap hbefore hafter (by simp only [List.length_take, List.length_drop]; omega)]
      have hzeros : 8 - ((ofNat n).take start).length - ((ofNat n).drop (start + count)).length =
          count := by
        simp only [List.length_take, List.length_drop]
        omega
      rw [hzeros, hspec, Option.map_some, toNat_ofNat hn]
    next => rw [readAll?_plainChars hg hlength, Option.map_some, toNat_ofNat hn]

end Groups

/-! ## Either family -/

/-- **Reading a canonical text** gives the address that it writes. -/
theorem Address.ofText?_text {f : Family} (a : Address f) : Address.ofText? a.text = some a := by
  rw [Address.ofText?, Address.text, String.toList_ofList]
  cases f with
  | v4 =>
    rw [Address.read?, Address.chars, Octets.read?_chars a.toNat_lt, Option.bind_some,
      Address.ofNat?, dif_pos a.toNat_lt]
  | v6 =>
    rw [Address.read?, Address.chars, Groups.read?_chars a.toNat_lt, Option.bind_some,
      Address.ofNat?, dif_pos a.toNat_lt]

theorem Address.text_inj {f : Family} {a b : Address f} (h : a.text = b.text) : a = b := by
  have hread := Address.ofText?_text a
  rw [h, Address.ofText?_text b] at hread
  exact (Option.some.inj hread).symm

/-! ## The characters of addresses -/

namespace Groups

theorem mem_chars {c : Char} (hc : c ∈ chars n) : c = ':' ∨ c = '.' ∨ ∃ d, Nat.digitChar d = c := by
  have hplain : ∀ {groups}, c ∈ plainChars groups → c = ':' ∨ c = '.' ∨ ∃ d, Nat.digitChar d = c :=
    fun hc => (mem_plainChars hc).imp_right .inr
  rw [chars] at hc
  split at hc
  · rcases List.mem_append.1 hc with hc | hc
    · have hmark : ∀ c ∈ "::ffff:".toList, c = ':' ∨ c = Nat.digitChar 15 := by simp
      exact (hmark c hc).imp_right fun h => .inr ⟨15, h.symm⟩
    · exact .inr (Octets.mem_chars hc)
  · dsimp only at hc
    split at hc
    · rcases List.mem_append.1 hc with hc | hc
      · rcases List.mem_append.1 hc with hc | hc
        · exact hplain hc
        · exact .inl (by simpa using hc)
      · exact hplain hc
    · exact hplain hc

theorem colon_mem_chars (n : Nat) : ':' ∈ chars n := by
  rw [chars]
  split
  · exact List.mem_append_left _ (by decide)
  · dsimp only
    split
    · simp
    · simp [ofNat, plainChars_cons_cons]

/-- A text starts with two colons if it starts with one, and never with three. -/
theorem exists_of_chars_eq_cons {cs : List Char} (h : chars n = ':' :: cs) :
    ∃ rest, cs = ':' :: rest ∧ rest.head? ≠ some ':' := by
  rw [chars] at h
  split at h
  · have hmark : "::ffff:".toList = ':' :: ':' :: 'f' :: "fff:".toList := rfl
    rw [hmark] at h
    exact ⟨_, (List.cons.inj h).2.symm, nofun⟩
  · dsimp only at h
    split at h
    · cases hfront : (ofNat n).take (longestZeroRun (ofNat n)).1 with
      | nil =>
        rw [hfront] at h
        refine ⟨_, (List.cons.inj h).2.symm, ?_⟩
        cases hback : (ofNat n).drop
            ((longestZeroRun (ofNat n)).1 + (longestZeroRun (ofNat n)).2) with
        | nil => exact nofun
        | cons g groups => exact List.append_nil (plainChars _) ▸ head?_plainChars_ne g groups []
      | cons g groups =>
        rw [hfront, List.append_assoc] at h
        exact absurd (congrArg List.head? h) (head?_plainChars_ne g groups _)
    · exact absurd (congrArg List.head? h)
        (List.append_nil (plainChars _) ▸ head?_plainChars_ne _ _ [])

end Groups

namespace IpAddress

theorem mem_text {a : IpAddress} {c : Char} (hc : c ∈ a.text.toList) :
    c = ':' ∨ c = '.' ∨ ∃ d, Nat.digitChar d = c := by
  cases a with
  | v4 a =>
    rw [text, Address.text, String.toList_ofList] at hc
    exact .inr (Octets.mem_chars hc)
  | v6 a =>
    rw [text, Address.text, String.toList_ofList] at hc
    exact Groups.mem_chars hc

theorem not_mem_text (a : IpAddress) {c : Char} (hcolon : c ≠ ':') (hdot : c ≠ '.')
    (hdigit : ∀ d, Nat.digitChar d ≠ c) : c ∉ a.text.toList := by
  intro hc
  obtain h | h | ⟨d, hd⟩ := mem_text hc
  · exact hcolon h
  · exact hdot h
  · exact hdigit d hd

theorem colon_mem_text_iff {a : IpAddress} : ':' ∈ a.text.toList ↔ a.isV4 = false := by
  cases a with
  | v4 a =>
    rw [text, Address.text, String.toList_ofList]
    exact iff_of_false (Octets.colon_not_mem_chars _) nofun
  | v6 a =>
    rw [text, Address.text, String.toList_ofList]
    exact iff_of_true (Groups.colon_mem_chars _) rfl

theorem exists_of_text_eq_cons {a : IpAddress} {cs : List Char} (h : a.text.toList = ':' :: cs) :
    ∃ rest, cs = ':' :: rest ∧ rest.head? ≠ some ':' := by
  cases a with
  | v4 a =>
    have hcolon := colon_mem_text_iff.1 (h ▸ List.mem_cons_self)
    cases hcolon
  | v6 a =>
    rw [text, Address.text, String.toList_ofList] at h
    exact Groups.exists_of_chars_eq_cons h

theorem exists_mark (a : IpAddress) : ':' ∈ a.text.toList ∨ '.' ∈ a.text.toList := by
  cases a with
  | v4 a =>
    rw [text, Address.text, String.toList_ofList]
    exact .inr (Octets.dot_mem_chars _)
  | v6 a =>
    rw [text, Address.text, String.toList_ofList]
    exact .inl (Groups.colon_mem_chars _)

/-- **Different addresses have different texts.** -/
theorem text_inj {a b : IpAddress} (h : a.text = b.text) : a = b := by
  have hfamily : a.isV4 = false ↔ b.isV4 = false := by
    rw [← colon_mem_text_iff, ← colon_mem_text_iff, h]
  cases a with
  | v4 a =>
    cases b with
    | v4 b => exact congrArg v4 (Address.text_inj h)
    | v6 b => exact absurd (hfamily.2 rfl) nofun
  | v6 a =>
    cases b with
    | v4 b => exact absurd (hfamily.1 rfl) nofun
    | v6 b => exact congrArg v6 (Address.text_inj h)

end IpAddress

/-! ## The characters of what is read -/

/-- What is read as an IPv4 address has digits and dots only. -/
theorem Octets.mem_of_read? {cs : List Char} {c : Char} (h : read? cs = some n) (hc : c ∈ cs) :
    c = '.' ∨ (digitValue? 16 c).isSome = true := by
  unfold read? at h
  split at h
  next hpieces =>
    rcases eq_or_mem_piece (s := '.') hc with hc | ⟨piece, hp, hc⟩
    · exact .inl hc
    · obtain ⟨g, hg⟩ := exists_of_mapM_eq_some hpieces piece hp
      unfold readOne? at hg
      split at hg
      next => cases hg
      next =>
        split at hg
        next hm =>
          have hdecimal := isSome_digitValue?_of_readDigits hm c hc
          obtain ⟨v, hv⟩ := Option.isSome_iff_exists.1 hdecimal
          exact .inr (Option.isSome_of_eq_some ((digitValue?_eq_some (by decide)).1 hv).1)
        next => cases hg
  next => cases h

namespace Groups

variable {cs : List Char} {c : Char}

theorem mem_of_readOne? {g : Nat} (h : readOne? cs = some g) (hc : c ∈ cs) :
    (digitValue? 16 c).isSome = true := by
  unfold readOne? at h
  split at h
  next => cases h
  next => exact isSome_digitValue?_of_readDigits h c hc

theorem mem_of_readPieces? {pieces : List (List Char)} (h : readPieces? pieces = some groups)
    {piece : List Char} (hp : piece ∈ pieces) (hc : c ∈ piece) :
    c = '.' ∨ (digitValue? 16 c).isSome = true := by
  fun_induction readPieces? pieces generalizing groups with
  | case1 => cases hp
  | case2 last m hm =>
    cases List.mem_singleton.1 hp
    exact Octets.mem_of_read? hm hc
  | case3 last hm =>
    cases List.mem_singleton.1 hp
    obtain ⟨g, hg, -⟩ := Option.map_eq_some_iff.1 h
    exact .inr (mem_of_readOne? hg hc)
  | case4 first rest hne ih =>
    obtain ⟨g, hg, h⟩ := Option.bind_eq_some_iff.1 h
    obtain ⟨gs, hgs, -⟩ := Option.bind_eq_some_iff.1 h
    rcases List.mem_cons.1 hp with rfl | hp
    · exact .inr (mem_of_readOne? hg hc)
    · exact ih hgs hp

theorem mem_of_readHead? (h : readHead? cs = some groups) (hc : c ∈ cs) :
    c = ':' ∨ (digitValue? 16 c).isSome = true := by
  unfold readHead? at h
  split at h
  next he =>
    rw [List.isEmpty_iff.1 he] at hc
    cases hc
  next =>
    rcases eq_or_mem_piece (s := ':') hc with hc | ⟨piece, hp, hc⟩
    · exact .inl hc
    · obtain ⟨g, hg⟩ := exists_of_mapM_eq_some h piece hp
      exact .inr (mem_of_readOne? hg hc)

theorem mem_of_readTail? (h : readTail? cs = some groups) (hc : c ∈ cs) :
    c = ':' ∨ c = '.' ∨ (digitValue? 16 c).isSome = true := by
  unfold readTail? at h
  split at h
  next he =>
    rw [List.isEmpty_iff.1 he] at hc
    cases hc
  next =>
    rcases eq_or_mem_piece (s := ':') hc with hc | ⟨piece, hp, hc⟩
    · exact .inl hc
    · exact .inr (mem_of_readPieces? h hp hc)

theorem eq_of_cutAtGap {before after : List Char} (h : cutAtGap cs = some (before, after)) :
    cs = before ++ ':' :: ':' :: after := by
  fun_induction cutAtGap cs generalizing before with
  | case1 rest => cases h; rfl
  | case2 c rest hne ih =>
    obtain ⟨⟨b, a⟩, hcut, heq⟩ := Option.map_eq_some_iff.1 h
    cases heq
    rw [ih hcut]
    rfl
  | case3 => cases h

/-- What is read as an IPv6 address has hexadecimal digits, colons and dots only. -/
theorem mem_of_read? (h : read? cs = some n) (hc : c ∈ cs) :
    c = ':' ∨ c = '.' ∨ (digitValue? 16 c).isSome = true := by
  obtain ⟨groups, hgroups, -⟩ := Option.map_eq_some_iff.1 h
  unfold readAll? at hgroups
  split at hgroups
  next =>
    obtain ⟨tail, ht, -⟩ := Option.bind_eq_some_iff.1 hgroups
    exact mem_of_readTail? ht hc
  next before after hcut =>
    obtain ⟨head, hh, hgroups⟩ := Option.bind_eq_some_iff.1 hgroups
    obtain ⟨tail, ht, -⟩ := Option.bind_eq_some_iff.1 hgroups
    rw [eq_of_cutAtGap hcut, List.mem_append, List.mem_cons, List.mem_cons] at hc
    rcases hc with hc | rfl | rfl | hc
    · exact (mem_of_readHead? hh hc).imp_right .inr
    · exact .inl rfl
    · exact .inl rfl
    · exact mem_of_readTail? ht hc

end Groups

/-- What is read as an address has no other characters than these. -/
theorem Address.not_mem_of_read? {f : Family} {a : Address f} {cs : List Char} {c : Char}
    (h : read? cs = some a) (hcolon : c ≠ ':') (hdot : c ≠ '.')
    (hdigit : digitValue? 16 c = none) : c ∉ cs := by
  intro hc
  have hnone : ¬(digitValue? 16 c).isSome = true := by simp [hdigit]
  cases f with
  | v4 =>
    obtain ⟨n, hn, -⟩ := Option.bind_eq_some_iff.1 h
    rcases Octets.mem_of_read? hn hc with hc | hc
    · exact hdot hc
    · exact hnone hc
  | v6 =>
    obtain ⟨n, hn, -⟩ := Option.bind_eq_some_iff.1 h
    rcases Groups.mem_of_read? hn hc with hc | hc | hc
    · exact hcolon hc
    · exact hdot hc
    · exact hnone hc

/-! ## The family of a text -/

theorem Octets.colon_not_mem_of_read? {cs : List Char} (h : read? cs = some n) : ':' ∉ cs := by
  intro hc
  rcases mem_of_read? h hc with hdot | hdigit
  · exact absurd hdot (by decide)
  · exact absurd hdigit (by decide)

/-- What is read as an IPv6 address has a colon. -/
theorem Groups.colon_mem_of_read? {cs : List Char} (h : read? cs = some n) : ':' ∈ cs := by
  refine Classical.byContradiction fun hc => ?_
  obtain ⟨groups, hgroups, -⟩ := Option.map_eq_some_iff.1 h
  have hgap : cutAtGap cs = none := by
    have happend := cutAtGap_append hc []
    rwa [List.append_nil] at happend
  have hsplit : split (· == ':') cs = [cs] :=
    split_eq_singleton fun c hm => beq_eq_false_iff_ne.2 fun he => hc (he ▸ hm)
  -- Without a colon there are at most the two groups of an IPv4 address.
  have hshort : ∀ groups, readTail? cs = some groups → groups.length ≤ 2 := by
    intro groups ht
    unfold readTail? at ht
    split at ht
    next =>
      cases ht
      decide
    next =>
      rw [hsplit, readPieces?] at ht
      split at ht
      next =>
        cases ht
        exact Nat.le_refl 2
      next =>
        obtain ⟨g, -, rfl⟩ := Option.map_eq_some_iff.1 ht
        exact Nat.le_succ 1
  rw [readAll?, hgap] at hgroups
  obtain ⟨tail, ht, hgroups⟩ := Option.bind_eq_some_iff.1 hgroups
  obtain ⟨hlength, -⟩ := Option.ite_none_right_eq_some.1 hgroups
  have hle := hshort tail ht
  omega

/-- **No text is an address of both families.** -/
theorem IpAddress.ofText?_of_v6 {text : String} {a : Address .v6}
    (h : Address.ofText? text = some a) : ofText? text = some (.v6 a) := by
  obtain ⟨m, hm, -⟩ := Option.bind_eq_some_iff.1 h
  have hnone : (Address.ofText? text : Option (Address .v4)) = none := by
    refine Option.eq_none_iff_forall_ne_some.2 fun b hb => ?_
    obtain ⟨n, hn, -⟩ := Option.bind_eq_some_iff.1 hb
    exact Octets.colon_not_mem_of_read? hn (Groups.colon_mem_of_read? hm)
  rw [ofText?, hnone, h]
  rfl

theorem IpAddress.ofText?_of_v4 {text : String} {a : Address .v4}
    (h : Address.ofText? text = some a) : ofText? text = some (.v4 a) := by
  rw [ofText?, h]

end NetworkSite
