/-
  Maps with ordered keys.

  The entries are a list in strictly ascending order of the keys (`sorted`),
  so that two maps with the same contents are equal and `entries` is the order
  in which a map is read out.
-/

namespace NetworkSite

variable {κ υ : Type} [Ord κ]

/-- The entries stand in strictly ascending order of their keys. -/
def Ascending (entries : List (κ × υ)) : Prop :=
  entries.Pairwise fun d e => compare d.1 e.1 = .lt

/-- A map from ordered keys to values. -/
@[ext]
structure SortedMap (κ υ : Type) [Ord κ] where
  entries : List (κ × υ)
  sorted : Ascending entries

namespace SortedMap

instance [DecidableEq κ] [DecidableEq υ] : DecidableEq (SortedMap κ υ) := fun _ _ =>
  decidable_of_decidable_of_iff SortedMap.ext_iff.symm

/-- Puts a value at its place, in front of greater keys or instead of the value
    of the same key. -/
def put (k : κ) (v : υ) : List (κ × υ) → List (κ × υ)
  | [] => [(k, v)]
  | e :: rest =>
    match compare k e.1 with
    | .lt => (k, v) :: e :: rest
    | .eq => (k, v) :: rest
    | .gt => e :: put k v rest

theorem mem_put {k : κ} {v : υ} {d : κ × υ} :
    ∀ {l : List (κ × υ)}, d ∈ put k v l → d = (k, v) ∨ d ∈ l
  | [], h => by simpa [put] using h
  | e :: rest, h => by
    unfold put at h
    split at h
    · simpa using h
    · rcases List.mem_cons.1 h with h | h
      · exact .inl h
      · exact .inr (List.mem_cons_of_mem _ h)
    · rcases List.mem_cons.1 h with h | h
      · exact .inr (h ▸ List.mem_cons_self)
      · rcases mem_put h with h | h
        · exact .inl h
        · exact .inr (List.mem_cons_of_mem _ h)

theorem ascending_put [Std.TransOrd κ] {k : κ} {v : υ} :
    ∀ {l : List (κ × υ)}, Ascending l → Ascending (put k v l)
  | [], _ => List.pairwise_singleton _ _
  | e :: rest, h => by
    obtain ⟨he, hrest⟩ := List.pairwise_cons.1 h
    unfold put
    split
    next hk =>
      refine List.pairwise_cons.2 ⟨fun d hd => ?_, h⟩
      rcases List.mem_cons.1 hd with rfl | hd
      · exact hk
      · exact Std.TransCmp.lt_trans hk (he d hd)
    next hk =>
      exact List.pairwise_cons.2 ⟨fun d hd => Std.TransCmp.lt_of_eq_of_lt hk (he d hd), hrest⟩
    next hk =>
      refine List.pairwise_cons.2 ⟨fun d hd => ?_, ascending_put hrest⟩
      rcases mem_put hd with rfl | hd
      · exact Std.OrientedCmp.lt_of_gt hk
      · exact he d hd

/-- The map without entries. -/
def empty : SortedMap κ υ :=
  ⟨[], List.Pairwise.nil⟩

instance : Inhabited (SortedMap κ υ) := ⟨empty⟩

/-- The map with the value `v` at `k`. -/
def insert [Std.TransOrd κ] (m : SortedMap κ υ) (k : κ) (v : υ) : SortedMap κ υ :=
  ⟨put k v m.entries, ascending_put m.sorted⟩

/-- The value at a key. -/
def get? (m : SortedMap κ υ) (k : κ) : Option υ :=
  (m.entries.find? fun e => compare e.1 k == .eq).map (·.2)

theorem find?_put [Std.TransOrd κ] (k k' : κ) (v : υ) (l : List (κ × υ)) :
    ((put k v l).find? fun e => compare e.1 k' == .eq).map (·.2) =
      if compare k k' = .eq then some v else (l.find? fun e => compare e.1 k' == .eq).map (·.2) := by
  induction l with
  | nil => by_cases h : compare k k' = .eq <;> simp [put, h]
  | cons e rest ih =>
    unfold put
    split
    next => by_cases h : compare k k' = .eq <;> simp [h]
    next hk =>
      by_cases h : compare k k' = .eq
      · simp [h]
      · have he : ¬compare e.1 k' = .eq := by rwa [← Std.TransCmp.congr_left hk]
        simp [h, he]
    next hk =>
      by_cases he : compare e.1 k' = .eq
      · have h : compare k k' = .gt := by rw [← Std.TransCmp.congr_right he]; exact hk
        simp [he, h]
      · simp [he, ih]

theorem get?_insert [Std.TransOrd κ] (m : SortedMap κ υ) (k k' : κ) (v : υ) :
    (m.insert k v).get? k' = if compare k k' = .eq then some v else m.get? k' :=
  find?_put k k' v m.entries

/-- The entries whose keys pass a test. -/
def filter (m : SortedMap κ υ) (keep : κ → Bool) : SortedMap κ υ :=
  ⟨m.entries.filter fun e => keep e.1, List.Pairwise.filter _ m.sorted⟩

theorem get?_filter [Std.LawfulEqOrd κ] (m : SortedMap κ υ) (keep : κ → Bool) (k : κ) :
    (m.filter keep).get? k = if keep k then m.get? k else none := by
  simp only [get?, filter, List.find?_filter]
  split
  next hk =>
    congr 2
    funext e
    by_cases h : compare e.1 k = .eq
    · simp [Std.LawfulEqOrd.eq_of_compare h, hk]
    · simp [h]
  next hk =>
    simp only [Option.map_eq_none_iff, List.find?_eq_none]
    intro e _ h
    simp only [beq_iff_eq, decide_eq_true_eq] at h
    exact hk (Std.LawfulEqOrd.eq_of_compare h.2 ▸ h.1)

/-- The values are those of the entries; no key has two of them. -/
theorem get?_eq_some [Std.TransOrd κ] [Std.LawfulEqOrd κ] {m : SortedMap κ υ} {k : κ} {v : υ} :
    m.get? k = some v ↔ (k, v) ∈ m.entries := by
  obtain ⟨l, hl⟩ := m
  simp only [get?]
  induction l with
  | nil => simp
  | cons e rest ih =>
    obtain ⟨he, hrest⟩ := List.pairwise_cons.1 hl
    by_cases h : compare e.1 k = .eq
    · have hk : e.1 = k := Std.LawfulEqOrd.eq_of_compare h
      have hn : (k, v) ∉ rest := fun hm => by
        have := he _ hm
        simp only [hk, Std.ReflOrd.compare_self, reduceCtorEq] at this
      rw [List.find?_cons_of_pos (by simp [h]), Option.map_some, Option.some.injEq, List.mem_cons]
      exact ⟨fun hv => .inl (by rw [← hv, ← hk]), fun hm => hm.elim (fun hm => by rw [← hm])
        fun hm => absurd hm hn⟩
    · have hk : (k, v) ≠ e := fun hk => h (by rw [← hk]; exact Std.ReflOrd.compare_self)
      rw [List.find?_cons_of_neg (by simp [h]), ih hrest, List.mem_cons]
      exact ⟨.inr, fun hm => hm.elim (absurd · hk) id⟩

/-- The map with other values at the same keys. -/
def map {υ' : Type} (m : SortedMap κ υ) (f : υ → υ') : SortedMap κ υ' :=
  ⟨m.entries.map fun e => (e.1, f e.2), by simpa only [Ascending, List.pairwise_map] using m.sorted⟩

theorem get?_map {υ' : Type} (m : SortedMap κ υ) (f : υ → υ') (k : κ) :
    (m.map f).get? k = (m.get? k).map f := by
  simp [get?, map, List.find?_map, Function.comp_def]

theorem put_map {υ' : Type} (f : υ → υ') (k : κ) (v : υ) (l : List (κ × υ)) :
    put k (f v) (l.map fun e => (e.1, f e.2)) = (put k v l).map fun e => (e.1, f e.2) := by
  induction l with
  | nil => rfl
  | cons e rest ih =>
    simp only [List.map_cons, put]
    split
    · rfl
    · rfl
    · rw [ih, List.map_cons]

theorem map_insert [Std.TransOrd κ] {υ' : Type} (m : SortedMap κ υ) (f : υ → υ') (k : κ) (v : υ) :
    (m.insert k v).map f = (m.map f).insert k (f v) :=
  SortedMap.ext (put_map f k v m.entries).symm

def contains (m : SortedMap κ υ) (k : κ) : Bool :=
  (m.get? k).isSome

def size (m : SortedMap κ υ) : Nat :=
  m.entries.length

def isEmpty (m : SortedMap κ υ) : Bool :=
  m.entries.isEmpty

end SortedMap

end NetworkSite
