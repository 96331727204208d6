/-
  Trees of files and directories.

  `node?` is the view of a tree: what stands at a path.  The root, whose path is
  empty, is always a directory, and whatever else there is stands in a
  directory (`above`).  The operations fail rather than break this:

  * `makeDirectory?` makes a directory in one that is there, and leaves one
    that is there already as it is (`node?_of_makeDirectory?`);
  * `write?` makes or replaces a file in a directory (`node?_of_write?`);
  * `remove` takes away what stands at a path or below it (`node?_remove`).
-/
import NetworkSite.Data.SortedMap
import NetworkSite.Files.Name

namespace NetworkSite

/-- What stands at a path. -/
inductive Node where
  | file (text : String)
  /-- A file whose bytes are no text. -/
  | binary
  | directory
  deriving DecidableEq

/-- The files and directories below a root. -/
structure FileTree where
  nodes : SortedMap Path Node
  /-- A node stands in the root or in a directory. -/
  above : ∀ p n, nodes.contains (p ++ [n]) = true → p = [] ∨ nodes.get? p = some .directory

namespace FileTree

/-- The tree with nothing below the root. -/
def empty : FileTree where
  nodes := SortedMap.empty
  above _ _ h := by cases h

instance : Inhabited FileTree := ⟨empty⟩

variable (t : FileTree)

/-! ## The view -/

/-- What stands at a path. -/
def node? (p : Path) : Option Node :=
  if p = [] then some .directory else t.nodes.get? p

def isDirectory (p : Path) : Bool :=
  t.node? p == some .directory

def isFile (p : Path) : Bool :=
  match t.node? p with
  | some (.file _) => true
  | some .binary => true
  | _ => false

/-- All paths below the root, in ascending order. -/
def paths : List Path :=
  t.nodes.entries.map (·.1)

/-- The name of `q` in the directory `p`, if it stands there. -/
def nameIn? (p q : Path) : Option FileName :=
  match q.getLast? with
  | some n => if q.dropLast = p then some n else none
  | none => none

/-- The names in a directory, in ascending order. -/
def childNames (p : Path) : List FileName :=
  t.paths.filterMap (nameIn? p)

/-! ## Operations -/

variable {t}

theorem above_insert {p : Path} {node : Node} (hp : t.isDirectory p.dropLast = true)
    (hnode : t.isDirectory p = true → node = .directory) (q : Path) (n : FileName)
    (h : (t.nodes.insert p node).contains (q ++ [n]) = true) :
    q = [] ∨ (t.nodes.insert p node).get? q = some .directory := by
  by_cases hq : q = []
  · exact .inl hq
  refine .inr ?_
  rw [SortedMap.contains, SortedMap.get?_insert] at h
  rw [SortedMap.get?_insert]
  by_cases hpq : compare p q = .eq
  · have hpq' := Std.LawfulEqOrd.eq_of_compare hpq
    subst hpq'
    rw [if_pos hpq, hnode]
    by_cases hc : compare p (p ++ [n]) = .eq
    · have := congrArg List.length (Std.LawfulEqOrd.eq_of_compare hc)
      simp at this
    · rw [if_neg hc] at h
      simpa [isDirectory, node?, hq] using t.above p n h
  · rw [if_neg hpq]
    by_cases hc : compare p (q ++ [n]) = .eq
    · have := Std.LawfulEqOrd.eq_of_compare hc
      subst this
      simpa [isDirectory, node?, hq] using hp
    · rw [if_neg hc] at h
      exact (t.above q n h).resolve_left hq

variable (t)

/-- The tree with a directory at `p`, unless a file stands there or nothing
    could stand there. -/
def makeDirectory? (p : Path) : Option FileTree :=
  if t.isDirectory p then some t
  else if h : t.isDirectory p.dropLast = true ∧ t.node? p = none then
    some { nodes := t.nodes.insert p .directory, above := above_insert h.1 fun _ => rfl }
  else none

/-- The tree with the node `node` at `p`, unless a directory stands there or
    nothing could stand there. -/
def put? (p : Path) (node : Node) : Option FileTree :=
  if h : t.isDirectory p.dropLast = true ∧ t.isDirectory p = false then
    some { nodes := t.nodes.insert p node, above := above_insert h.1 fun hp => by simp [h.2] at hp }
  else none

/-- The tree with a file at `p`. -/
def write? (p : Path) (text : String) : Option FileTree :=
  t.put? p (.file text)

/-- The tree without what stands at `p` or below it. -/
def remove (p : Path) : FileTree where
  nodes := t.nodes.filter fun q => !p.isPrefixOf q
  above q n h := by
    rw [SortedMap.contains, SortedMap.get?_filter] at h
    rw [SortedMap.get?_filter]
    split at h
    next hkeep =>
      refine (t.above q n h).imp_right fun hq => ?_
      rw [if_pos ?_, hq]
      simp only [Bool.not_eq_true', Bool.eq_false_iff, ne_eq, List.isPrefixOf_iff_prefix] at hkeep ⊢
      exact fun hpq => hkeep (hpq.trans (List.prefix_append q [n]))
    next => cases h

/-- The tree without what stands at or below any of the paths. -/
def removeAll (ps : List Path) : FileTree :=
  ps.foldl remove t

/-- The tree with `node` at `p` and directories on the way to it. -/
def place? (p : Path) (node : Node) : Option FileTree := do
  let t ← (List.range p.length).foldlM (fun t k => t.makeDirectory? (p.take k)) t
  match node with
  | .directory => t.makeDirectory? p
  | node => t.put? p node

/-! ## What the operations do to the view -/

variable {t}

theorem node?_of_makeDirectory? {t' : FileTree} {p : Path} (h : t.makeDirectory? p = some t')
    (q : Path) : t'.node? q = if q = p then some .directory else t.node? q := by
  unfold makeDirectory? at h
  split at h
  next hp =>
    cases h
    split
    next hq => simpa [hq, isDirectory] using hp
    next => rfl
  next =>
    split at h
    next hp =>
      cases h
      have hne : p ≠ [] := fun hnil => by simp [hnil, node?] at hp
      simp only [node?, SortedMap.get?_insert, eq_comm]
      grind
    next => cases h

theorem node?_of_put? {t' : FileTree} {p : Path} {node : Node} (h : t.put? p node = some t')
    (q : Path) : t'.node? q = if q = p then some node else t.node? q := by
  unfold put? at h
  split at h
  next hp =>
    cases h
    have hne : p ≠ [] := fun hnil => by simp [hnil, node?, isDirectory] at hp
    simp only [node?, SortedMap.get?_insert, eq_comm]
    grind
  next => cases h

theorem node?_of_write? {t' : FileTree} {p : Path} {text : String} (h : t.write? p text = some t')
    (q : Path) : t'.node? q = if q = p then some (.file text) else t.node? q :=
  node?_of_put? h q

variable (t)

theorem node?_remove (p q : Path) :
    (t.remove p).node? q = if q ≠ [] ∧ p <+: q then none else t.node? q := by
  simp only [node?, remove, SortedMap.get?_filter, Bool.not_eq_true', Bool.eq_false_iff, ne_eq,
    List.isPrefixOf_iff_prefix]
  grind

end FileTree

end NetworkSite
