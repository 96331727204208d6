/-
  Which texts are names of files.

  Every DNS label is one, so that a host can have a directory of its name
  (`FileName.exists_of_isHostname`).  So is what is left of a name that is cut at
  its end, unless that names a directory: it is empty, or one or two dots
  (`isFileName_of_front`).
-/
import NetworkSite.Files.PlanDirectory
import NetworkSite.Proofs.EndpointNames
import Mathlib.Data.String.Basic

namespace NetworkSite

theorem isFileName_iff {s : String} :
    isFileName s = true ↔
      s ≠ "" ∧ s ≠ "." ∧ s ≠ ".." ∧ '/' ∉ s.toList ∧ '\x00' ∉ s.toList ∧ s.utf8ByteSize ≤ 255 := by
  simp only [isFileName, Bool.and_eq_true, bne_iff_ne, Bool.not_eq_true', List.contains_eq_mem,
    decide_eq_false_iff_not, decide_eq_true_eq, and_assoc]

namespace FileName

variable (n : FileName)

theorem text_ne_empty : n.text ≠ "" :=
  (isFileName_iff.1 n.valid).1

theorem text_ne_dot : n.text ≠ "." :=
  (isFileName_iff.1 n.valid).2.1

theorem text_ne_dots : n.text ≠ ".." :=
  (isFileName_iff.1 n.valid).2.2.1

theorem slash_not_mem : '/' ∉ n.text.toList :=
  (isFileName_iff.1 n.valid).2.2.2.1

theorem toList_text_ne_nil : n.text.toList ≠ [] :=
  fun h => n.text_ne_empty (String.toList_eq_nil_iff.1 h)

end FileName

/-! ## DNS labels -/

theorem utf8Len_le (cs : List Char) : String.utf8Len cs ≤ 4 * cs.length := by
  induction cs with
  | nil => exact Nat.le_refl 0
  | cons c rest ih =>
    have hc := c.utf8Size_le_four
    rw [String.utf8Len_cons, List.length_cons]
    omega

theorem utf8ByteSize_eq (s : String) : s.utf8ByteSize = String.utf8Len s.toList := by
  rw [← String.utf8ByteSize_ofList, String.ofList_toList]

/-- A DNS label has no dots or slashes, and at most 63 characters. -/
theorem isFileName_of_isHostname {name : String} (h : Text.isHostname name = true) :
    isFileName name = true := by
  have hnot : ∀ c ∈ name.toList, Text.isLabelChar c ≠ false := fun c hc => by
    rw [Text.isLabelChar_of_isLabel h hc]
    exact nofun
  have hdot : '.' ∉ name.toList := fun hm => hnot _ hm (by decide)
  have hlen : name.toList.length ≤ 63 ∧ name.toList ≠ [] := by
    simp only [Text.isHostname, Text.isLabel, Bool.and_eq_true, Bool.not_eq_true',
      List.isEmpty_eq_false_iff, decide_eq_true_eq] at h
    exact ⟨h.1.1.1.2, h.1.1.1.1⟩
  refine isFileName_iff.2 ⟨?_, ?_, ?_, fun hm => hnot _ hm (by decide), fun hm => hnot _ hm (by decide), ?_⟩
  · rintro rfl
    exact hlen.2 rfl
  · rintro rfl
    exact hdot (by decide)
  · rintro rfl
    exact hdot (by decide)
  · have hbytes := utf8Len_le name.toList
    rw [utf8ByteSize_eq]
    omega

theorem FileName.exists_of_isHostname {name : String} (h : Text.isHostname name = true) :
    ∃ n : FileName, n.text = name :=
  ⟨⟨name, isFileName_of_isHostname h⟩, rfl⟩

/-! ## Names of plans -/

/-- The name of the file that describes a plan. -/
def planName : FileName :=
  ⟨planFile, by decide⟩

theorem planName_ne_of_isHostname {n : FileName} (h : Text.isHostname n.text = true) :
    n ≠ planName := by
  rintro rfl
  revert h
  decide

/-! ## Cut names -/

theorem isFileName_of_front {n : FileName} {name : String} (h : name.toList <+: n.text.toList)
    (hempty : name ≠ "") (hdot : name ≠ ".") (hdots : name ≠ "..") : isFileName name = true := by
  obtain ⟨-, -, -, hslash, hnul, hbytes⟩ := isFileName_iff.1 n.valid
  refine isFileName_iff.2 ⟨hempty, hdot, hdots, fun hm => hslash (h.subset hm),
    fun hm => hnul (h.subset hm), ?_⟩
  have hle := String.utf8Len_le_of_prefix h
  rw [utf8ByteSize_eq] at hbytes ⊢
  omega

end NetworkSite
