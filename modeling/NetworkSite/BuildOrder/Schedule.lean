/-
  The schedule: hosts are built stage by stage.

  For each host its dependencies on hosts that are left are counted.  Those
  whose count is zero make up the next stage, and each of them takes one from
  the counts of the hosts that wait for it.  No count is lowered below zero,
  and the stages are those of `stagesFrom` (`countStages_start`): what has been
  counted is a function of the hosts that are done (`progress`), and finishing
  a host leads from the counts before it to those after it (`finish?_progress`).
-/
import NetworkSite.BuildOrder.Stages

namespace NetworkSite

/-- What is counted while stages are formed. -/
structure Progress where
  /-- For each host the number of its dependencies on hosts that are left. -/
  inDegrees : List Nat
  /-- For each host whether it is done. -/
  done : List Bool
  /-- The number of hosts that are left. -/
  remaining : Nat
  deriving DecidableEq

namespace Progress

/-- The hosts that are left, of `size` hosts. -/
def left (p : Progress) (size : Nat) : List Nat :=
  (List.range size).filter fun i => p.done[i]? == some false

/-- The hosts that are left and whose count is zero. -/
def ready (p : Progress) (size : Nat) : List Nat :=
  (List.range size).filter fun i => p.done[i]? == some false && p.inDegrees[i]? == some 0

end Progress

/-- One less; there is none below zero. -/
def lower? : Nat → Option Nat
  | 0 => none
  | n + 1 => some n

/-- The counts with the one number `i` lowered, if there is one that can be. -/
def lowerAt? (counts : List Nat) (i : Nat) : Option (List Nat) := do
  let count ← counts[i]?
  let count ← lower? count
  return counts.set i count

namespace DependencyGraph

/-- For each host the number of its dependencies. -/
def inDegrees (g : DependencyGraph) : List Nat :=
  g.edges.foldl (fun degrees e => degrees.modify e.after (· + 1)) (List.replicate g.size 0)

/-- The hosts that wait for the host number `i`, once for each dependency. -/
def successors (g : DependencyGraph) (i : Nat) : List Nat :=
  (g.edges.filter (·.before == i)).map (·.after)

/-- All hosts are left. -/
def start (g : DependencyGraph) : Progress where
  inDegrees := g.inDegrees
  done := List.replicate g.size false
  remaining := g.size

/-- The host number `i` is done, and nobody waits for it any more. -/
def finish? (g : DependencyGraph) (p : Progress) (i : Nat) : Option Progress := do
  let remaining ← lower? p.remaining
  let inDegrees ← (g.successors i).foldlM lowerAt? p.inDegrees
  return { inDegrees, done := p.done.set i true, remaining }

theorem remaining_of_finish? {g : DependencyGraph} {p q : Progress} {i : Nat}
    (h : g.finish? p i = some q) : q.remaining + 1 = p.remaining := by
  obtain ⟨remaining, hr, h⟩ := Option.bind_eq_some_iff.1 h
  obtain ⟨inDegrees, -, h⟩ := Option.bind_eq_some_iff.1 h
  obtain rfl := Option.some.inj h
  cases hp : p.remaining with
  | zero =>
    rw [hp] at hr
    cases hr
  | succ n =>
    rw [hp] at hr
    rw [Option.some.inj hr]

theorem remaining_of_foldlM_finish? {g : DependencyGraph} {p q : Progress} {round : List Nat}
    (h : round.foldlM g.finish? p = some q) : q.remaining + round.length = p.remaining := by
  induction round generalizing p with
  | nil =>
    obtain rfl := Option.some.inj h
    rfl
  | cons i rest ih =>
    rw [List.foldlM_cons] at h
    obtain ⟨next, hn, h⟩ := Option.bind_eq_some_iff.1 h
    have h₁ := remaining_of_finish? hn
    have h₂ := ih h
    simp only [List.length_cons]
    omega

/-- The stages of the hosts that are left, or the hosts that wait for each
    other; none if a count is lowered below zero. -/
def countStages (g : DependencyGraph) (p : Progress) :
    Option (Except (List Nat) (List (List Nat))) :=
  if p.remaining = 0 then some (.ok [])
  else
    match p.ready g.size with
    | [] => some (.error (g.cycleMembers (p.left g.size)))
    | i :: rest =>
      match _h : (i :: rest).foldlM g.finish? p with
      | none => none
      | some next => (g.countStages next).map (Except.map ((i :: rest) :: ·))
termination_by p.remaining
decreasing_by
  have := remaining_of_foldlM_finish? _h
  rw [List.length_cons] at this
  omega

/-! ## What has been counted -/

variable {g : DependencyGraph} {done : List Nat} {i j : Nat}

/-- The number of dependencies of the host number `i` on hosts that are left. -/
def unmet (g : DependencyGraph) (done : List Nat) (i : Nat) : Nat :=
  g.edges.countP fun e => e.after == i && !done.contains e.before

/-- What has been counted when hosts are done. -/
def progress (g : DependencyGraph) (done : List Nat) : Progress where
  inDegrees := (List.range g.size).map (g.unmet done)
  done := (List.range g.size).map (done.contains ·)
  remaining := (g.remaining done).length

theorem unmet_nil (g : DependencyGraph) (i : Nat) :
    g.unmet [] i = g.edges.countP (·.after == i) := by
  simp [unmet]

/-- The hosts that are ready are those whose count is down to zero. -/
theorem ready_eq_filter (g : DependencyGraph) (done : List Nat) :
    g.ready done =
      (List.range g.size).filter fun i => !done.contains i && g.unmet done i == 0 := by
  refine List.filter_congr fun i _ => congrArg (!done.contains i && ·) ?_
  rw [Bool.eq_iff_iff, beq_iff_eq, unmet, List.countP_eq_zero, List.all_eq_true]
  refine forall_congr' fun e => imp_congr_right fun _ => ?_
  by_cases e.after = i <;> by_cases e.before ∈ done <;> simp [*]

/-! ## One host after the other -/

/-- Finishing a host takes from a count one for each dependency on it, also
    where there are two; so no count falls below zero. -/
theorem unmet_concat (hi : i ∉ done) (j : Nat) :
    g.unmet (done ++ [i]) j + (g.successors i).count j = g.unmet done j := by
  unfold unmet successors
  induction g.edges with
  | nil => rfl
  | cons e rest ih =>
    simp only [List.countP_cons, List.filter_cons, List.contains_append, ← ih]
    by_cases he : e.before = i
    · by_cases hj : e.after = j <;> simp [he, hj, hi]
      omega
    · by_cases hj : e.after = j <;> by_cases hd : e.before ∈ done <;> simp [he, hj, hd]
      omega

/-- Lowering counts one after the other takes from each how often it occurs. -/
theorem foldlM_lowerAt? {n : Nat} {items : List Nat} {f h : Nat → Nat}
    (hlt : ∀ i ∈ items, i < n) (hsum : ∀ i, h i + items.count i = f i) :
    items.foldlM lowerAt? ((List.range n).map f) = some ((List.range n).map h) := by
  induction items generalizing f with
  | nil =>
    obtain rfl : h = f := funext hsum
    rfl
  | cons i rest ih =>
    -- The count number `i` is one more than what it is for the other ones.
    have hi : f i = h i + rest.count i + 1 := by
      rw [← hsum i, List.count_cons_self]
      omega
    have hget : ((List.range n).map f)[i]? = some (h i + rest.count i + 1) := by
      rw [List.getElem?_map, List.getElem?_range (hlt i List.mem_cons_self), Option.map_some, hi]
    have hset : ((List.range n).map f).set i (h i + rest.count i) =
        (List.range n).map fun j => h j + rest.count j := by
      refine List.ext_getElem (by simp) fun j _ hj => ?_
      rw [List.getElem_set]
      split
      next he => simp [he]
      next he => simp [← hsum j, he]
    rw [List.foldlM_cons, lowerAt?, hget]
    change rest.foldlM lowerAt? (((List.range n).map f).set i (h i + rest.count i)) = _
    rw [hset]
    exact ih (fun j hj => hlt j (List.mem_cons_of_mem i hj)) fun j => rfl

theorem lt_of_mem_successors (hj : j ∈ g.successors i) : j < g.size := by
  obtain ⟨e, he, rfl⟩ := List.mem_map.1 hj
  exact g.after_lt e (List.mem_filter.1 he).1

theorem length_remaining_concat (hlt : i < g.size) (hi : i ∉ done) :
    (g.remaining (done ++ [i])).length + 1 = (g.remaining done).length := by
  have hnodup : (g.remaining done).Nodup := List.nodup_range.filter _
  have herase : g.remaining (done ++ [i]) = (g.remaining done).erase i := by
    rw [hnodup.erase_eq_filter, remaining, remaining, List.filter_filter]
    refine List.filter_congr fun j _ => ?_
    by_cases hj : j ∈ done <;> by_cases he : j = i <;> simp [hj, he]
  have hm : i ∈ g.remaining done := by simp [remaining, hlt, hi]
  have hpos := List.length_pos_of_mem hm
  rw [herase, List.length_erase_of_mem hm]
  omega

/-- Finishing a host that is left leads from the counts before it to those
    after it. -/
theorem finish?_progress (hlt : i < g.size) (hi : i ∉ done) :
    g.finish? (g.progress done) i = some (g.progress (done ++ [i])) := by
  have hremaining : lower? (g.progress done).remaining =
      some (g.progress (done ++ [i])).remaining := by
    rw [progress, ← length_remaining_concat hlt hi]
    rfl
  have hdegrees : (g.successors i).foldlM lowerAt? (g.progress done).inDegrees =
      some (g.progress (done ++ [i])).inDegrees :=
    foldlM_lowerAt? (fun _ => lt_of_mem_successors) (unmet_concat hi)
  have hdone : (g.progress done).done.set i true = (g.progress (done ++ [i])).done := by
    refine List.ext_getElem (by simp [progress]) fun j _ _ => ?_
    rw [List.getElem_set]
    by_cases hj : i = j <;> simp [progress, hj, eq_comm]
  rw [finish?, hremaining, hdegrees]
  show some { g.progress (done ++ [i]) with done := (g.progress done).done.set i true } = _
  rw [hdone]

/-- A round of different hosts that are left is finished, one after the other. -/
theorem foldlM_finish?_progress {round : List Nat} (hnodup : round.Nodup)
    (hround : ∀ i ∈ round, i < g.size ∧ i ∉ done) :
    round.foldlM g.finish? (g.progress done) = some (g.progress (done ++ round)) := by
  induction round generalizing done with
  | nil => rw [List.append_nil]; rfl
  | cons i rest ih =>
    obtain ⟨hi, hrest⟩ := List.nodup_cons.1 hnodup
    obtain ⟨hlt, hdone⟩ := hround i List.mem_cons_self
    have hrest : rest.foldlM g.finish? (g.progress (done ++ [i])) =
        some (g.progress (done ++ [i] ++ rest)) := by
      refine ih hrest fun j hj => ?_
      obtain ⟨hjlt, hjdone⟩ := hround j (List.mem_cons_of_mem i hj)
      refine ⟨hjlt, fun hm => ?_⟩
      rcases List.mem_append.1 hm with hm | hm
      · exact hjdone hm
      · exact hi (List.mem_singleton.1 hm ▸ hj)
    rw [List.foldlM_cons, finish?_progress hlt hdone, Option.bind_eq_bind, Option.bind_some, hrest,
      List.append_assoc, List.singleton_append]

/-! ## Stage after stage -/

/-- Adding one for each dependency counts the dependencies. -/
theorem foldl_modify_eq {n : Nat} (edges : List Dependency) (f : Nat → Nat) :
    edges.foldl (fun degrees e => degrees.modify e.after (· + 1)) ((List.range n).map f) =
      (List.range n).map fun i => f i + edges.countP (·.after == i) := by
  induction edges generalizing f with
  | nil => rfl
  | cons e rest ih =>
    have hmodify : ((List.range n).map f).modify e.after (· + 1) =
        (List.range n).map fun i => f i + if e.after = i then 1 else 0 := by
      refine List.ext_getElem (by simp) fun i _ _ => ?_
      rw [List.getElem_modify]
      by_cases hi : e.after = i <;> simp [hi]
    rw [List.foldl_cons, hmodify, ih]
    refine List.map_congr_left fun i _ => ?_
    simp only [List.countP_cons, beq_iff_eq]
    omega

theorem start_eq_progress (g : DependencyGraph) : g.start = g.progress [] := by
  have hconst : ∀ {α : Type} (a : α),
      List.replicate g.size a = (List.range g.size).map fun _ => a := by
    intro α a
    rw [List.map_const', List.length_range]
  have hdegrees : g.inDegrees = (List.range g.size).map (g.unmet []) := by
    rw [inDegrees, hconst, foldl_modify_eq]
    exact List.map_congr_left fun i _ => by rw [unmet_nil, Nat.zero_add]
  have hremaining : g.remaining [] = List.range g.size := List.filter_eq_self.2 fun _ _ => rfl
  rw [start, progress, hdegrees, hconst, hremaining, List.length_range]
  rfl

theorem ready_progress (g : DependencyGraph) (done : List Nat) :
    (g.progress done).ready g.size = g.ready done := by
  rw [ready_eq_filter]
  refine List.filter_congr fun i hi => ?_
  rw [progress, List.getElem?_map, List.getElem?_map, List.getElem?_range (List.mem_range.1 hi)]
  simp

theorem left_progress (g : DependencyGraph) (done : List Nat) :
    (g.progress done).left g.size = g.remaining done := by
  refine List.filter_congr fun i hi => ?_
  rw [progress, List.getElem?_map, List.getElem?_range (List.mem_range.1 hi)]
  simp

theorem remaining_progress :
    (g.progress done).remaining = 0 ↔ (g.remaining done).isEmpty = true := by
  rw [progress, List.length_eq_zero_iff, List.isEmpty_iff]

/-- A stage is counted by finishing the hosts that are ready. -/
theorem countStages_of_ready {rest : List Nat} (hne : ¬(g.remaining done).isEmpty = true)
    (hready : g.ready done = i :: rest) : g.countStages (g.progress done) =
      (g.countStages (g.progress (done ++ i :: rest))).map (Except.map ((i :: rest) :: ·)) := by
  have hround : (i :: rest).foldlM g.finish? (g.progress done) =
      some (g.progress (done ++ i :: rest)) := by
    rw [← hready]
    refine foldlM_finish?_progress (List.nodup_range.filter _) fun j hj => ?_
    rw [ready_eq_filter, List.mem_filter, List.mem_range, Bool.and_eq_true] at hj
    exact ⟨hj.1, by simpa using hj.2.1⟩
  rw [countStages, if_neg (mt remaining_progress.1 hne), ready_progress]
  split
  next h => cases hready.symm.trans h
  next h =>
    obtain ⟨rfl, rfl⟩ := List.cons.inj (hready.symm.trans h)
    split
    next hnone => cases hround.symm.trans hnone
    next hsome => rw [Option.some.inj (hround.symm.trans hsome)]

/-- **Counting finds the stages**, whatever is done. -/
theorem countStages_progress (g : DependencyGraph) (done : List Nat) :
    g.countStages (g.progress done) = some (g.stagesFrom done) := by
  fun_induction stagesFrom g done with
  | case1 done hempty => rw [countStages, if_pos (remaining_progress.2 hempty)]
  | case2 done hne hready =>
    rw [countStages, if_neg (mt remaining_progress.1 hne), ready_progress, hready, left_progress]
  | case3 done hne i rest hready stages hrec ih =>
    rw [countStages_of_ready hne hready, ih, hrec]
    rfl
  | case4 done hne i rest hready members hrec ih =>
    rw [countStages_of_ready hne hready, ih, hrec]
    rfl

/-- From the start on no count is lowered below zero, and counting finds the
    stages. -/
theorem countStages_start (g : DependencyGraph) :
    g.countStages g.start = some (g.stagesFrom []) := by
  rw [start_eq_progress, countStages_progress]

theorem isSome_countStages (g : DependencyGraph) : (g.countStages g.start).isSome = true := by
  rw [countStages_start]
  rfl

end DependencyGraph

/-! ## Schedules -/

/-- The names of hosts, stage by stage. -/
structure Schedule where
  stages : List (List String)
  deriving DecidableEq

namespace Schedule

/-- The number of the first stage with a host of this name. -/
def stageOf? (p : Schedule) (hostname : String) : Option Nat :=
  p.stages.findIdx? (·.contains hostname)

def size (p : Schedule) : Nat :=
  p.stages.length

def isEmpty (p : Schedule) : Bool :=
  p.stages.isEmpty

end Schedule

namespace DependencyGraph

/-- The stages of all hosts, or the hosts that wait for each other. -/
def schedule (g : DependencyGraph) : Except (List String) Schedule :=
  match (g.countStages g.start).get g.isSome_countStages with
  | .ok stages => .ok { stages := stages.map (·.map g.hostname) }
  | .error members => .error (members.map g.hostname)

theorem schedule_eq (g : DependencyGraph) :
    g.schedule = match g.stagesFrom [] with
      | .ok stages => .ok { stages := stages.map (·.map g.hostname) }
      | .error members => .error (members.map g.hostname) := by
  simp only [schedule, countStages_start, Option.get_some]

end DependencyGraph

end NetworkSite
