/-
  Names of files and directories.

  A name is never empty and has no slash, so that a path falls into its names
  in one way only; a dot and two dots name a directory itself and the one
  around it, and are no names.
-/
import NetworkSite.Text.Split

namespace NetworkSite

/-- A text that a file or directory can have as its name. -/
def isFileName (s : String) : Bool :=
  s != "" && s != "." && s != ".." && !s.toList.contains '/' && !s.toList.contains '\x00' &&
    s.utf8ByteSize ≤ 255

/-- A name of a file or directory. -/
@[ext]
structure FileName where
  text : String
  valid : isFileName text = true
  deriving DecidableEq

namespace FileName

/-- The name with this text, if it is one. -/
def ofText? (s : String) : Option FileName :=
  if h : isFileName s = true then some { text := s, valid := h } else none

theorem text_of_ofText? {s : String} {n : FileName} (h : ofText? s = some n) : n.text = s := by
  unfold ofText? at h
  split at h
  · cases h
    rfl
  · cases h

theorem ofText?_text (n : FileName) : ofText? n.text = some n :=
  dif_pos n.valid

/-- Names are ordered as their texts. -/
instance : Ord FileName := ⟨fun a b => compare a.text b.text⟩

instance : Std.TransOrd FileName where
  eq_swap {a b} := by
    show compare a.text b.text = (compare b.text a.text).swap
    exact Std.OrientedOrd.eq_swap
  isLE_trans {a b c} hab hbc := by
    show (compare a.text c.text).isLE
    have hab : (compare a.text b.text).isLE := hab
    exact Std.TransOrd.isLE_trans hab hbc

instance : Std.LawfulEqOrd FileName where
  compare_self {a} := by
    show compare a.text a.text = .eq
    exact Std.ReflOrd.compare_self
  eq_of_compare {a b} h := by
    have h : compare a.text b.text = .eq := h
    exact FileName.ext (Std.LawfulEqOrd.eq_of_compare h)

/-- The name up to its last dot, unless nothing stands in front of that. -/
def stem (n : FileName) : String :=
  match Text.cut (· == '.') n.text.toList.reverse with
  | some (_, c :: rest) => String.ofList (c :: rest).reverse
  | _ => n.text

end FileName

/-- The names that lead from the root to a file or directory. -/
abbrev Path := List FileName

end NetworkSite
