/-
  Texts of ports, and what port values open.

  A text writes ports if it is one number, or two with a hyphen or a colon between
  them (`PortRange.Writes`); a number has decimal digits, perhaps with zeros and a
  plus sign in front, and white space around it (`PortRange.IsNumber`).  It is read
  exactly if the numbers are ports in order, whichever the separator is, and the text
  of a range is read as this range.  An integer is written before it is read: without
  a separator it is a single port, and a minus sign is a separator that has no number
  in front.  The values of a service have one entry each (`ServiceSpec.IsEntry`).
  All of this is `ports_read`.
-/
import NetworkSite.Firewall.Service
import NetworkSite.Proofs.Compilation

namespace NetworkSite

open Text

namespace PortRange

variable {r : PortRange} {s : String} {cs before after : List Char} {c : Char} {n first last : Nat}

/-! ## Numbers -/

/-- The characters that stand between two ports. -/
def isSeparator (c : Char) : Bool :=
  c == '-' || c == ':'

/-- The text is a number in decimal digits.  Zeros may stand in front of them, a plus
    sign in front of these, and white space around all. -/
def IsNumber (cs : List Char) (n : Nat) : Prop :=
  ∃ sign zeros, (sign = [] ∨ sign = ['+']) ∧
    trimChars cs = sign ++ (List.replicate zeros '0' ++ decimal n)

/-- Ports from 1 to 65535, in order. -/
def InBounds (first last : Nat) : Prop :=
  1 ≤ first ∧ first ≤ last ∧ last ≤ 65535

theorem inBounds (r : PortRange) : InBounds r.first r.last :=
  ⟨r.first_pos, r.first_le_last, r.last_le⟩

theorem isNumber_iff : IsNumber cs n ↔ readDigits 10 (dropPlus (trimChars cs)) = some n := by
  constructor
  · rintro ⟨sign, zeros, hsign, htrim⟩
    have hdigits : readDigits 10 (List.replicate zeros '0' ++ decimal n) = some n :=
      readDigits_eq_some_iff.2 ⟨zeros, rfl⟩
    -- Without a sign nothing is dropped, as digits do not begin with one.
    rw [htrim]
    rcases hsign with rfl | rfl
    · rwa [List.nil_append, dropPlus_of_readDigits hdigits]
    · exact hdigits
  · intro h
    obtain ⟨zeros, hdigits⟩ := readDigits_eq_some_iff.1 h
    obtain ⟨sign, hsign, htrim⟩ := exists_sign_dropPlus (trimChars cs)
    exact ⟨sign, zeros, hsign, hdigits ▸ htrim⟩

theorem readPort?_iff_isNumber : readPort? cs = some n ↔ IsNumber cs n ∧ 0 < n ∧ n ≤ maxPort := by
  rw [readPort?_eq_some, isNumber_iff]

theorem isNumber_decimal (n : Nat) : IsNumber (decimal n) n :=
  ⟨[], 0, .inl rfl, trimChars_eq_self fun _ hc => isBlank_eq_false_of_mem_decimal hc⟩

theorem IsNumber.unique {m : Nat} (hm : IsNumber cs m) (hn : IsNumber cs n) : m = n :=
  Option.some.inj ((isNumber_iff.1 hm).symm.trans (isNumber_iff.1 hn))

theorem IsNumber.not_separator (h : IsNumber cs n) : ∀ c ∈ cs, isSeparator c = false := by
  intro c hc
  have hmem : isBlank c = true ∨ c = '+' ∨ c.isDigit = true := by
    obtain ⟨sign, zeros, hsign, htrim⟩ := h
    refine (isBlank_or_mem_trimChars hc).imp_right fun hc => ?_
    rw [htrim, List.mem_append, List.mem_append] at hc
    rcases hc with hc | hc | hc
    · rcases hsign with rfl | rfl
      · cases hc
      · exact .inl (List.mem_singleton.1 hc)
    · rw [(List.mem_replicate.1 hc).2]
      exact .inr rfl
    · exact .inr (isDigit_of_mem_decimal hc)
  refine Bool.eq_false_iff.2 fun hsep => ?_
  rw [isSeparator, Bool.or_eq_true, beq_iff_eq, beq_iff_eq] at hsep
  rcases hsep with rfl | rfl
  · exact absurd hmem (by decide)
  · exact absurd hmem (by decide)

/-! ## Ranges -/

/-- The text is one number, or two with a separator between them. -/
inductive Writes : List Char → Nat → Nat → Prop where
  | single {cs : List Char} {n : Nat} : IsNumber cs n → Writes cs n n
  | range {before after : List Char} {c : Char} {first last : Nat} : isSeparator c = true →
      IsNumber before first → IsNumber after last → Writes (before ++ c :: after) first last

theorem IsNumber.cut_eq_none (h : IsNumber cs n) : cut isSeparator cs = none :=
  cut_eq_none_iff.2 h.not_separator

theorem IsNumber.cut_append (h : IsNumber before n) (hc : isSeparator c = true) :
    cut isSeparator (before ++ c :: after) = some (before, after) :=
  cut_eq_some_iff.2
    ⟨c, hc, fun d hd => Bool.eq_false_iff.1 (h.not_separator d hd), rfl⟩

theorem ofText?_of_cut (h : cut isSeparator s.toList = some (before, after)) :
    ofText? s = some r ↔ readPort? before = some r.first ∧ readPort? after = some r.last := by
  have hcut : cut (fun c => c == '-' || c == ':') s.toList = some (before, after) := h
  rw [ofText?, hcut]
  dsimp only
  cases readPort? before with
  | none => simp
  | some first =>
    cases readPort? after with
    | none => simp
    | some last =>
      dsimp only
      rw [between?_eq_some, Option.some.injEq, Option.some.injEq, eq_comm, eq_comm (a := last)]

theorem ofText?_of_not_cut (h : cut isSeparator s.toList = none) :
    ofText? s = some r ↔ readPort? s.toList = some r.first ∧ r.last = r.first := by
  have hcut : cut (fun c => c == '-' || c == ':') s.toList = none := h
  rw [ofText?, hcut]
  cases readPort? s.toList with
  | none => simp
  | some port =>
    simp only [Option.bind_some, between?_eq_some, Option.some.injEq]
    constructor
    · rintro ⟨rfl, hlast⟩
      exact ⟨rfl, hlast⟩
    · rintro ⟨rfl, hlast⟩
      exact ⟨rfl, hlast⟩

/-- A text is read exactly if it writes ports in order. -/
theorem exists_ofText?_iff :
    (∃ r, ofText? s = some r ∧ r.first = first ∧ r.last = last) ↔
      Writes s.toList first last ∧ InBounds first last := by
  constructor
  · rintro ⟨r, h, rfl, rfl⟩
    refine ⟨?_, r.inBounds⟩
    cases hcut : cut isSeparator s.toList with
    | none =>
      obtain ⟨hport, hlast⟩ := (ofText?_of_not_cut hcut).1 h
      rw [hlast]
      exact .single (readPort?_iff_isNumber.1 hport).1
    | some parts =>
      obtain ⟨hfirst, hlast⟩ := (ofText?_of_cut hcut).1 h
      obtain ⟨c, hc, -, hchars⟩ := cut_eq_some_iff.1 hcut
      rw [hchars]
      exact .range hc (readPort?_iff_isNumber.1 hfirst).1 (readPort?_iff_isNumber.1 hlast).1
  · rintro ⟨hwrites, hpos, hle, hmax⟩
    refine ⟨⟨first, last, hpos, hle, hmax⟩, ?_, rfl, rfl⟩
    -- Numbers have no separators, so the text is cut where two of them were joined.
    generalize hchars : s.toList = cs at hwrites
    cases hwrites with
    | single hn =>
      subst hchars
      exact (ofText?_of_not_cut hn.cut_eq_none).2
        ⟨readPort?_iff_isNumber.2 ⟨hn, hpos, hmax⟩, rfl⟩
    | range hc hfirst hlast =>
      refine (ofText?_of_cut (hchars ▸ hfirst.cut_append hc)).2 ⟨?_, ?_⟩
      · exact readPort?_iff_isNumber.2 ⟨hfirst, hpos, Nat.le_trans hle hmax⟩
      · exact readPort?_iff_isNumber.2 ⟨hlast, Nat.lt_of_lt_of_le hpos hle, hmax⟩

theorem ofText?_eq_some : ofText? s = some r ↔ Writes s.toList r.first r.last := by
  constructor
  · exact fun h => (exists_ofText?_iff.1 ⟨r, h, rfl, rfl⟩).1
  · intro h
    obtain ⟨r', hread, hfirst, hlast⟩ := exists_ofText?_iff.2 ⟨h, r.inBounds⟩
    rwa [← PortRange.ext hfirst hlast]

theorem toList_text_of_eq (h : r.first = r.last) : r.text.toList = decimal r.first := by
  rw [text, if_pos h]
  exact String.toList_ofList

theorem toList_text_of_ne (h : r.first ≠ r.last) :
    r.text.toList = decimal r.first ++ ':' :: decimal r.last := by
  have htext : r.text =
      String.ofList (decimal r.first) ++ ":" ++ String.ofList (decimal r.last) := if_neg h
  rw [htext, String.toList_append, String.toList_append, String.toList_ofList,
    String.toList_ofList, String.toList_ofList, List.append_assoc]
  rfl

theorem ofText?_text (r : PortRange) : ofText? r.text = some r := by
  rw [ofText?_eq_some]
  by_cases h : r.first = r.last
  · rw [toList_text_of_eq h, ← h]
    exact .single (isNumber_decimal r.first)
  · rw [toList_text_of_ne h]
    exact .range rfl (isNumber_decimal r.first) (isNumber_decimal r.last)

/-! ## Separators -/

/-- The other one of the two separators. -/
def otherSeparator (c : Char) : Char :=
  if c = '-' then ':' else '-'

/-- The characters with the other separator in place of the first one. -/
def exchange : List Char → List Char
  | [] => []
  | c :: rest => if isSeparator c then otherSeparator c :: rest else c :: exchange rest

/-- The text with the other separator in place of the first one. -/
def exchanged (s : String) : String :=
  String.ofList (exchange s.toList)

theorem isSeparator_otherSeparator (c : Char) : isSeparator (otherSeparator c) = true := by
  unfold otherSeparator
  split <;> rfl

theorem cut_exchange (cs : List Char) : cut isSeparator (exchange cs) = cut isSeparator cs := by
  induction cs with
  | nil => rfl
  | cons c rest ih =>
    rw [exchange]
    split
    next hc => rw [cut, cut, if_pos (isSeparator_otherSeparator c), if_pos hc]
    next hc => rw [cut, cut, if_neg hc, if_neg hc, ih]

theorem exchange_eq_self (h : ∀ c ∈ cs, isSeparator c = false) : exchange cs = cs := by
  induction cs with
  | nil => rfl
  | cons c rest ih =>
    rw [List.forall_mem_cons] at h
    rw [exchange, if_neg (Bool.eq_false_iff.1 h.1), ih h.2]

theorem ofText?_exchanged (s : String) : ofText? (exchanged s) = ofText? s := by
  have hchars : (exchanged s).toList = exchange s.toList := String.toList_ofList
  have hcut := cut_exchange s.toList
  rw [← hchars] at hcut
  refine Option.ext fun r => ?_
  cases h : cut isSeparator s.toList with
  | none =>
    rw [h] at hcut
    rw [ofText?_of_not_cut hcut, ofText?_of_not_cut h, hchars,
      exchange_eq_self (cut_eq_none_iff.1 h)]
  | some parts =>
    rw [h] at hcut
    rw [ofText?_of_cut hcut, ofText?_of_cut h]

end PortRange

/-! ## Port values -/

namespace PortValue

variable {value : PortValue} {r : PortRange}

/-- The ports that a value means: an integer is a single port. -/
def Means : PortValue → PortRange → Prop
  | number n, r => n = r.first ∧ n = r.last
  | text s, r => PortRange.Writes s.toList r.first r.last

/-- The integer is a port, or the text writes ports in order. -/
def IsAccepted : PortValue → Prop
  | number n => 1 ≤ n ∧ n ≤ 65535
  | text s => ∃ first last, PortRange.Writes s.toList first last ∧ PortRange.InBounds first last

theorem toList_toText_ofNat (n : Nat) : (number (Int.ofNat n)).toText.toList = decimal n :=
  String.toList_ofList

theorem toList_toText_negSucc (n : Nat) :
    (number (Int.negSucc n)).toText.toList = '-' :: decimal (n + 1) := by
  have htext : (number (Int.negSucc n)).toText = "-" ++ String.ofList (decimal (n + 1)) := rfl
  rw [htext, String.toList_append, String.toList_ofList, String.toList_ofList]
  rfl

/-- The digits of a number mean this port alone. -/
theorem ofText?_ofNat {n : Nat} :
    PortRange.ofText? (number (Int.ofNat n)).toText = some r ↔ n = r.first ∧ n = r.last := by
  have hnumber := PortRange.isNumber_decimal n
  have hchars := toList_toText_ofNat n
  rw [PortRange.ofText?_of_not_cut (hchars ▸ hnumber.cut_eq_none), hchars,
    PortRange.readPort?_iff_isNumber]
  constructor
  · rintro ⟨⟨hfirst, -⟩, hlast⟩
    have heq := hnumber.unique hfirst
    exact ⟨heq, heq.trans hlast.symm⟩
  · rintro ⟨rfl, hlast⟩
    exact ⟨⟨hnumber, r.first_pos, Nat.le_trans r.first_le_last r.last_le⟩, hlast.symm⟩

theorem ofText?_negSucc (n : Nat) :
    PortRange.ofText? (number (Int.negSucc n)).toText = none := by
  rw [PortRange.ofText?, toList_toText_negSucc]
  rfl

theorem ofText?_toText : PortRange.ofText? value.toText = some r ↔ value.Means r := by
  cases value with
  | text s => exact PortRange.ofText?_eq_some
  | number n =>
    cases n with
    | ofNat n =>
      rw [ofText?_ofNat]
      exact and_congr Int.ofNat_inj.symm Int.ofNat_inj.symm
    | negSucc n =>
      rw [ofText?_negSucc]
      exact iff_of_false nofun nofun

theorem exists_means_iff : (∃ r, value.Means r) ↔ value.IsAccepted := by
  cases value with
  | number n =>
    constructor
    · rintro ⟨r, hfirst, hlast⟩
      have hbounds := r.inBounds
      unfold PortRange.InBounds at hbounds
      constructor <;> omega
    · rintro ⟨hpos, hmax⟩
      obtain ⟨port, rfl⟩ := Int.eq_ofNat_of_zero_le (Int.le_of_lt hpos)
      exact ⟨PortRange.single port (Int.ofNat_lt.1 hpos) (Int.ofNat_le.1 hmax), rfl, rfl⟩
  | text s =>
    constructor
    · rintro ⟨r, h⟩
      exact ⟨r.first, r.last, h, r.inBounds⟩
    · rintro ⟨first, last, h⟩
      obtain ⟨r, hread, -⟩ := PortRange.exists_ofText?_iff.2 h
      exact ⟨r, PortRange.ofText?_eq_some.1 hread⟩

end PortValue

namespace ServiceSpec

variable {protocol : Protocol} {name comment : String} {value : PortValue} {values : PortSpec}
  {port : ServicePort} {entries : List ServicePort}

/-- The entry is that of one port value of a service. -/
structure IsEntry (protocol : Protocol) (comment : String) (value : PortValue)
    (port : ServicePort) : Prop where
  protocol : port.protocol = protocol
  comment : port.comment = comment
  ports : ∃ r, port.ports = some r ∧ PortRange.InBounds r.first r.last ∧ value.Means r

theorem portOf_eq_ok :
    portOf protocol comment value = .ok port ↔ IsEntry protocol comment value port := by
  unfold portOf
  split
  next r hr =>
    constructor
    · rintro ⟨⟩
      exact ⟨rfl, rfl, r, rfl, r.inBounds, PortValue.ofText?_toText.1 hr⟩
    · rintro ⟨rfl, rfl, r', hports, -, hmeans⟩
      cases hr.symm.trans (PortValue.ofText?_toText.2 hmeans)
      rw [← hports]
  next hnone =>
    refine iff_of_false nofun ?_
    rintro ⟨-, -, r, -, -, hmeans⟩
    cases hnone.symm.trans (PortValue.ofText?_toText.2 hmeans)

theorem exists_portOf_iff :
    (∃ port, portOf protocol comment value = .ok port) ↔ value.IsAccepted := by
  rw [← PortValue.exists_means_iff]
  constructor
  · rintro ⟨port, h⟩
    obtain ⟨r, -, -, hmeans⟩ := (portOf_eq_ok.1 h).ports
    exact ⟨r, hmeans⟩
  · rintro ⟨r, hmeans⟩
    exact ⟨⟨protocol, some r, comment⟩, portOf_eq_ok.2 ⟨rfl, rfl, r, rfl, r.inBounds, hmeans⟩⟩

theorem resolve_ports_eq_ok_iff :
    (ports name values comment).resolve = .ok entries ↔
      ∃ protocol, Protocol.ofText? name = some protocol ∧ protocol.hasPorts = true ∧
        List.Forall₂ (IsEntry protocol comment) values.values entries := by
  simp only [resolve_ports_eq_ok, mapM_eq_ok_iff, portOf_eq_ok]

theorem exists_resolve_ports_iff :
    (∃ entries, (ports name values comment).resolve = .ok entries) ↔
      (∃ protocol, Protocol.ofText? name = some protocol ∧ protocol.hasPorts = true) ∧
        ∀ value ∈ values.values, value.IsAccepted := by
  constructor
  · rintro ⟨entries, h⟩
    obtain ⟨protocol, hname, hports, hvalues⟩ := resolve_ports_eq_ok.1 h
    refine ⟨⟨protocol, hname, hports⟩, fun value hvalue => ?_⟩
    obtain ⟨port, -, hport⟩ := exists_mem_of_forall₂ (forall₂_of_mapM_eq_ok hvalues) hvalue
    exact exists_portOf_iff.1 ⟨port, hport⟩
  · rintro ⟨⟨protocol, hname, hports⟩, haccepted⟩
    obtain ⟨entries, hentries⟩ := exists_mapM_eq_ok fun value hvalue =>
      exists_portOf_iff.2 (haccepted value hvalue)
    exact ⟨entries, resolve_ports_eq_ok.2 ⟨protocol, hname, hports, hentries⟩⟩

end ServiceSpec

/-! ## Main result -/

/-- **Reading ports.**  A text is read exactly if it writes ports from 1 to 65535 in
    order.  The text of what was read is read as the same, and so is the text itself
    with the other separator.  All ports in order are read from their own text.  A
    protocol with ports and port values stand for one entry for each value, in their
    order, if every value is accepted: a text if it is read, an integer if it is a
    port, which it then means alone. -/
theorem ports_read :
    (∀ (s : String) (first last : Nat),
      (∃ r, PortRange.ofText? s = some r ∧ r.first = first ∧ r.last = last) ↔
        PortRange.Writes s.toList first last ∧ PortRange.InBounds first last) ∧
    (∀ (s : String) (r : PortRange), PortRange.ofText? s = some r →
      PortRange.InBounds r.first r.last ∧ PortRange.ofText? r.text = some r ∧
        PortRange.ofText? (PortRange.exchanged s) = some r) ∧
    (∀ first last : Nat, PortRange.InBounds first last →
      ∃ r, r.first = first ∧ r.last = last ∧ PortRange.ofText? r.text = some r) ∧
    (∀ (name comment : String) (values : PortSpec) (entries : List ServicePort),
      (ServiceSpec.ports name values comment).resolve = .ok entries ↔
        ∃ protocol, Protocol.ofText? name = some protocol ∧ protocol.hasPorts = true ∧
          List.Forall₂ (ServiceSpec.IsEntry protocol comment) values.values entries) ∧
    ∀ (name comment : String) (values : PortSpec),
      (∃ entries, (ServiceSpec.ports name values comment).resolve = .ok entries) ↔
        (∃ protocol, Protocol.ofText? name = some protocol ∧ protocol.hasPorts = true) ∧
          ∀ value ∈ values.values, value.IsAccepted := by
  refine ⟨fun s first last => PortRange.exists_ofText?_iff, fun s r h => ?_, ?_,
    fun name comment values entries => ServiceSpec.resolve_ports_eq_ok_iff,
    fun name comment values => ServiceSpec.exists_resolve_ports_iff⟩
  · exact ⟨r.inBounds, r.ofText?_text, (PortRange.ofText?_exchanged s).trans h⟩
  · rintro first last ⟨hpos, hle, hmax⟩
    exact ⟨⟨first, last, hpos, hle, hmax⟩, rfl, rfl, PortRange.ofText?_text _⟩

/-- Ports of a stream, as texts with either separator and as an integer. -/
def mediaPorts : PortSpec :=
  .many [.text "5000-5010", .number 6000, .text " 7000 : +07001 "]

/-- What they stand for. -/
def mediaEntries : List ServicePort := [
  { protocol := .udp, ports := PortRange.between? 5000 5010, comment := "media" },
  { protocol := .udp, ports := PortRange.between? 6000 6000, comment := "media" },
  { protocol := .udp, ports := PortRange.between? 7000 7001, comment := "media" }]

theorem mediaPorts_read :
    (∃ r, PortRange.ofText? " 7000 : +07001 " = some r ∧ PortRange.ofText? r.text = some r ∧
      PortRange.ofText? " 7000 - +07001 " = some r) ∧
    (PortRange.InBounds 7000 7001 ∧
      ∃ r, r.first = 7000 ∧ r.last = 7001 ∧ PortRange.ofText? r.text = some r) ∧
    (ServiceSpec.ports "UDP" mediaPorts "media").resolve = .ok mediaEntries ∧
      List.Forall₂ (ServiceSpec.IsEntry .udp "media") mediaPorts.values mediaEntries := by
  obtain ⟨-, hread, hwritten, hentries, -⟩ := ports_read
  have hports : (PortRange.ofText? " 7000 : +07001 ").isSome = true := by decide +kernel
  have hbounds : PortRange.InBounds 7000 7001 := ⟨by decide, by decide, by decide⟩
  have hresolve : (ServiceSpec.ports "UDP" mediaPorts "media").resolve = .ok mediaEntries := by
    decide +kernel
  refine ⟨?_, ⟨hbounds, hwritten 7000 7001 hbounds⟩, hresolve, ?_⟩
  · obtain ⟨r, hr⟩ := Option.isSome_iff_exists.1 hports
    have hexchanged : PortRange.exchanged " 7000 : +07001 " = " 7000 - +07001 " := by
      decide +kernel
    obtain ⟨-, htext, hother⟩ := hread _ r hr
    exact ⟨r, hr, htext, hexchanged ▸ hother⟩
  · obtain ⟨protocol, hname, -, hentries⟩ := (hentries _ _ _ _).1 hresolve
    have hudp : Protocol.ofText? "UDP" = some .udp := by decide +kernel
    cases hname.symm.trans hudp
    exact hentries

/-- A minus sign is not the separator of a range. -/
example :
    (ServiceSpec.ports "tcp" (.one (.number (-80))) "").resolve = .error (.badPort "-80") := by
  decide +kernel

end NetworkSite
