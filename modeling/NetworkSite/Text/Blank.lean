/-
  White space, as Unicode defines it, and the trimming of texts.
-/

namespace NetworkSite.Text

/-- The characters with Unicode's property `White_Space`. -/
def isBlank (c : Char) : Bool :=
  let n := c.toNat
  (9 ≤ n && n ≤ 13) || n == 0x20 || n == 0x85 || n == 0xA0 || n == 0x1680 ||
    (0x2000 ≤ n && n ≤ 0x200A) || n == 0x2028 || n == 0x2029 || n == 0x202F ||
    n == 0x205F || n == 0x3000

/-- The characters without the white space at both ends. -/
def trimChars (cs : List Char) : List Char :=
  ((cs.dropWhile isBlank).reverse.dropWhile isBlank).reverse

theorem trimChars_eq_self {cs : List Char} (h : ∀ c ∈ cs, isBlank c = false) : trimChars cs = cs := by
  have hkeep : ∀ {ds : List Char}, (∀ c ∈ ds, isBlank c = false) → ds.dropWhile isBlank = ds := by
    intro ds hds
    cases ds with
    | nil => rfl
    | cons c rest => rw [List.dropWhile_cons_of_neg (by rw [hds c List.mem_cons_self]; decide)]
  have hreverse : ∀ c ∈ cs.reverse, isBlank c = false := fun c hc => h c (List.mem_reverse.1 hc)
  rw [trimChars, hkeep h, hkeep hreverse, List.reverse_reverse]

/-- What is taken off is white space. -/
theorem isBlank_or_mem_trimChars {c : Char} {cs : List Char} (h : c ∈ cs) :
    isBlank c = true ∨ c ∈ trimChars cs := by
  have hdrop : ∀ {ds : List Char}, c ∈ ds → isBlank c = true ∨ c ∈ ds.dropWhile isBlank := by
    intro ds hc
    induction ds with
    | nil => cases hc
    | cons d rest ih =>
      rw [List.dropWhile_cons]
      split
      next hd =>
        rcases List.mem_cons.1 hc with rfl | hc
        · exact .inl hd
        · exact ih hc
      next => exact .inr hc
  rw [trimChars, List.mem_reverse]
  rcases hdrop h with hblank | hc
  · exact .inl hblank
  · exact hdrop (List.mem_reverse.2 hc)

/-- The text without the white space at both ends. -/
def trim (s : String) : String :=
  String.ofList (trimChars s.toList)

end NetworkSite.Text
