/-
  Build stages.

  A stage holds every host that is not in an earlier one and waits only for
  hosts in earlier ones.  If no host is ready although some are left, there are
  hosts that wait for each other; `cycleMembers` are those that are left when
  hosts for which nobody waits any more are dropped over and over.

  `stagesFrom` asks each time for whom a host waits; the loop of
  `DependencyGraph.schedule` finds the same stages by counting.
-/
import NetworkSite.BuildOrder.Dependency
import NetworkSite.Data.Count

namespace NetworkSite

namespace DependencyGraph

/-- The hosts that are not done and wait only for hosts that are done. -/
def ready (g : DependencyGraph) (done : List Nat) : List Nat :=
  (List.range g.size).filter fun i =>
    !done.contains i && g.edges.all fun e => e.after != i || done.contains e.before

/-- The hosts that are not done. -/
def remaining (g : DependencyGraph) (done : List Nat) : List Nat :=
  (List.range g.size).filter fun i => !done.contains i

/-- A host that is ready is one less to do. -/
theorem length_remaining_lt (g : DependencyGraph) {done rest : List Nat} {i : Nat}
    (h : g.ready done = i :: rest) :
    (g.remaining (done ++ i :: rest)).length < (g.remaining done).length := by
  have hi : i ∈ g.ready done := h ▸ List.mem_cons_self
  simp only [ready, List.mem_filter, Bool.and_eq_true] at hi
  simp only [remaining, ← List.countP_eq_length_filter]
  refine countP_lt_countP (fun j _ hj => ?_) hi.1 ?_ hi.2.1
  · simp only [List.contains_append, Bool.not_eq_true', Bool.or_eq_false_iff] at hj ⊢
    exact hj.1
  · simp

/-- The hosts that are alive and for which one that is alive waits. -/
def awaited (g : DependencyGraph) (alive : List Nat) : List Nat :=
  alive.filter fun i => g.edges.any fun e => e.before == i && alive.contains e.after

/-- The hosts that are left when hosts for which no other one waits are dropped
    over and over. -/
def cycleMembers (g : DependencyGraph) (alive : List Nat) : List Nat :=
  if (g.awaited alive).length < alive.length then g.cycleMembers (g.awaited alive) else alive
termination_by alive.length

/-- The stages of the hosts that are not done, or the hosts that wait for each
    other. -/
def stagesFrom (g : DependencyGraph) (done : List Nat) : Except (List Nat) (List (List Nat)) :=
  if (g.remaining done).isEmpty then .ok []
  else
    match _h : g.ready done with
    | [] => .error (g.cycleMembers (g.remaining done))
    | i :: rest =>
      match g.stagesFrom (done ++ i :: rest) with
      | .ok stages => .ok ((i :: rest) :: stages)
      | .error members => .error members
termination_by (g.remaining done).length
decreasing_by exact g.length_remaining_lt _h

end DependencyGraph

end NetworkSite
