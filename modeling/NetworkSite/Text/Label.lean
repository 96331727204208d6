/-
  DNS labels and domains.

  A label is 1 to 63 letters, digits or hyphens and neither starts nor ends
  with a hyphen.  A domain is empty or labels with dots between them, where
  dots at the end do not count.
-/
import NetworkSite.Text.Split

namespace NetworkSite.Text

/-- A character of a DNS label. -/
def isLabelChar (c : Char) : Bool :=
  c.isAlphanum || c == '-'

/-- A valid DNS label. -/
def isLabel (cs : List Char) : Bool :=
  !cs.isEmpty && cs.length ≤ 63 && cs.all isLabelChar &&
    cs.head? != some '-' && cs.getLast? != some '-'

/-- A valid hostname: one DNS label. -/
def isHostname (s : String) : Bool :=
  isLabel s.toList

/-- The text without the dots at its end. -/
def dropLastDots (cs : List Char) : List Char :=
  (cs.reverse.dropWhile (· == '.')).reverse

/-- A valid domain: empty, or labels with dots between them. -/
def isDomain (s : String) : Bool :=
  s.isEmpty || (split (· == '.') (dropLastDots s.toList)).all isLabel

/-- The domain `child` lies strictly below `parent`; every domain lies below
    the root. -/
def isSubdomain (child parent : String) : Bool :=
  let child := (dropLastDots child.toList).map Char.toLower
  let parent := (dropLastDots parent.toList).map Char.toLower
  parent.isEmpty || ('.' :: parent).isSuffixOf child

end NetworkSite.Text
