import TaskPipeline.Graph.Integrity
import TaskPipeline.Proofs.Graph.WellFormed

/-!
# What the scan finds

The scan for violations is exact: it finds nothing iff the graph is sound (`violations_eq_nil_iff`).
It looks at the two halves of every edge, task by task, and then for a cycle in the graph of the
outflows (`Adjacency.isCyclic_iff`).  It does not count entries, so lists with repetitions pass.
-/

namespace TaskPipeline.Graph

open Relation

variable {tasks : TaskMap} {id a b : TaskId}

/-! ### Cycles -/

namespace Adjacency

theorem mem_edges_addEdge {g : Adjacency} {e x : TaskId × TaskId} :
    x ∈ (g.addEdge e).edges ↔ x ∈ g.edges ∨ x = e := by
  unfold addEdge
  split
  · next he =>
    have hmem : e ∈ g.edges := List.contains_iff_mem.mp he
    exact ⟨.inl, fun h => h.elim (fun hx => hx) fun hx => hx ▸ hmem⟩
  · rw [List.mem_cons, or_comm]

theorem nodes_addEdge (g : Adjacency) (e : TaskId × TaskId) : (g.addEdge e).nodes = g.nodes := by
  unfold addEdge
  split <;> rfl

theorem foldl_addEdge (g : Adjacency) (es : List (TaskId × TaskId)) :
    (es.foldl addEdge g).nodes = g.nodes ∧
      ∀ x, x ∈ (es.foldl addEdge g).edges ↔ x ∈ g.edges ∨ x ∈ es := by
  induction es generalizing g with
  | nil => exact ⟨rfl, by simp⟩
  | cons e es ih =>
    obtain ⟨hnodes, hedges⟩ := ih (g.addEdge e)
    refine ⟨hnodes.trans (nodes_addEdge g e), fun x => ?_⟩
    rw [List.foldl_cons, hedges, mem_edges_addEdge, List.mem_cons, or_assoc]

theorem mem_nodes_ofTasks : a ∈ (ofTasks tasks.toList).nodes ↔ tasks.has a = true := by
  unfold ofTasks
  rw [(foldl_addEdge _ _).1, List.mem_eraseDups]
  exact TaskMap.mem_ids_iff

/-- The edges are the outflows to tasks that are there. -/
theorem mem_edges_ofTasks :
    (a, b) ∈ (ofTasks tasks.toList).edges ↔ Edge tasks a b ∧ tasks.has b = true := by
  unfold ofTasks
  rw [(foldl_addEdge _ _).2, List.mem_flatMap]
  constructor
  · rintro (hno | ⟨t, ht, hmem⟩)
    · cases hno
    · obtain ⟨o, ho, heq⟩ := List.mem_map.mp hmem
      cases heq
      obtain ⟨hout, hnode⟩ := List.mem_filter.mp ho
      rw [List.contains_iff_mem, List.mem_eraseDups] at hnode
      refine ⟨?_, TaskMap.mem_ids_iff.mp hnode⟩
      unfold Edge
      rw [outflowsOf_of_get? (TaskMap.get?_id_of_mem ht)]
      exact hout
  · rintro ⟨hedge, hhas⟩
    obtain ⟨t, ht⟩ := TaskMap.has_iff.mp (has_of_mem_outflowsOf hedge)
    unfold Edge at hedge
    rw [outflowsOf_of_get? ht] at hedge
    refine .inr ⟨t, TaskMap.mem_of_get? ht, List.mem_map.mpr ⟨b, List.mem_filter.mpr ⟨hedge, ?_⟩, ?_⟩⟩
    · rw [List.contains_iff_mem, List.mem_eraseDups]
      exact TaskMap.mem_ids_iff.mpr hhas
    · rw [TaskMap.id_of_get? ht]

theorem follows_ofTasks (tasks : TaskMap) :
    Follows (ofTasks tasks.toList).nodes (ofTasks tasks.toList).successors =
      fun a b => Edge tasks a b ∧ tasks.has b = true := by
  funext a b
  have hsuccessor : b ∈ (ofTasks tasks.toList).successors a ↔
      Edge tasks a b ∧ tasks.has b = true := by
    rw [← mem_edges_ofTasks]
    unfold successors
    simp
  unfold Follows
  rw [hsuccessor, mem_nodes_ofTasks]
  exact propext ⟨And.right, fun h => ⟨has_of_mem_outflowsOf h.1, h⟩⟩

/-- A chain of edges to a task that is there passes through such tasks only. -/
theorem transGen_has (h : TransGen (Edge tasks) a b) (hb : tasks.has b = true) :
    TransGen (fun a b => Edge tasks a b ∧ tasks.has b = true) a b := by
  induction h with
  | single hab => exact .single ⟨hab, hb⟩
  | tail _ hbc ih => exact (ih (has_of_mem_outflowsOf hbc)).tail ⟨hbc, hb⟩

/-- **The graph of the outflows is cyclic** iff some chain of outflows closes. -/
theorem isCyclic_iff :
    (ofTasks tasks.toList).isCyclic = true ↔ ∃ id, TransGen (Edge tasks) id id := by
  unfold isCyclic
  simp only [List.any_eq_true, reaches_iff, follows_ofTasks]
  constructor
  · rintro ⟨id, -, hchain⟩
    exact ⟨id, TransGen.mono (fun _ _ h => h.1) _ _ hchain⟩
  · rintro ⟨id, hchain⟩
    obtain ⟨b, hb, -⟩ := TransGen.head'_iff.mp hchain
    have hhas := has_of_mem_outflowsOf hb
    exact ⟨id, mem_nodes_ofTasks.mpr hhas, transGen_has hchain hhas⟩

end Adjacency

/-! ### Edges -/

theorem outflowViolation?_eq_none_iff :
    outflowViolation? tasks a b = none ↔ b ≠ a ∧ a ∈ inflowsOf tasks b := by
  unfold outflowViolation? inflowsOf
  by_cases hb : b = a
  · simp [hb]
  · cases tasks.get? b with
    | none => simp [hb]
    | some t => simp [hb, Flows.contains_iff]

theorem inflowViolation?_eq_none_iff :
    inflowViolation? tasks b a = none ↔ a ≠ b ∧ b ∈ outflowsOf tasks a := by
  unfold inflowViolation? outflowsOf
  by_cases ha : a = b
  · simp [ha]
  · cases tasks.get? a with
    | none => simp [ha]
    | some t => simp [ha, Flows.contains_iff]

/-- **The scan is exact**: it finds nothing iff edges stand on both of their ends and no chain of
edges closes. -/
theorem violations_eq_nil_iff : violations tasks = [] ↔ Sound tasks := by
  have hperTask : (tasks.toList.flatMap fun t =>
      t.outflows.ids.filterMap (outflowViolation? tasks t.id) ++
        t.inflows.ids.filterMap (inflowViolation? tasks t.id)) = [] ↔
      (∀ a, ∀ b ∈ outflowsOf tasks a, b ≠ a ∧ a ∈ inflowsOf tasks b) ∧
        ∀ b, ∀ a ∈ inflowsOf tasks b, a ≠ b ∧ b ∈ outflowsOf tasks a := by
    simp only [List.flatMap_eq_nil_iff, List.append_eq_nil_iff, List.filterMap_eq_nil_iff,
      outflowViolation?_eq_none_iff, inflowViolation?_eq_none_iff]
    constructor
    · intro h
      refine ⟨fun a b hb => ?_, fun b a ha => ?_⟩
      · obtain ⟨t, ht⟩ := TaskMap.has_iff.mp (has_of_mem_outflowsOf hb)
        obtain rfl := TaskMap.id_of_get? ht
        rw [outflowsOf_of_get? ht] at hb
        exact (h t (TaskMap.mem_of_get? ht)).1 b hb
      · obtain ⟨t, ht⟩ := TaskMap.has_iff.mp (has_of_mem_inflowsOf ha)
        obtain rfl := TaskMap.id_of_get? ht
        rw [inflowsOf_of_get? ht] at ha
        exact (h t (TaskMap.mem_of_get? ht)).2 a ha
    · rintro ⟨hout, hin⟩ t ht
      have hget := TaskMap.get?_id_of_mem ht
      refine ⟨fun b hb => hout t.id b ?_, fun a ha => hin t.id a ?_⟩
      · rw [outflowsOf_of_get? hget]
        exact hb
      · rw [inflowsOf_of_get? hget]
        exact ha
  have hcycle : (if (Adjacency.ofTasks tasks.toList).isCyclic then [Violation.cyclic] else []) = [] ↔
      ∀ id, ¬ TransGen (Edge tasks) id id := by
    rw [← not_exists, ← Adjacency.isCyclic_iff]
    simp
  unfold violations
  rw [List.append_eq_nil_iff, hperTask, hcycle]
  constructor
  · rintro ⟨⟨hout, hin⟩, hacyclic⟩
    exact ⟨fun a b => ⟨fun hb => (hout a b hb).2, fun ha => (hin b a ha).2⟩, hacyclic⟩
  · intro h
    refine ⟨⟨fun a b hb => ?_, fun b a ha => ?_⟩, h.acyclic⟩
    · exact ⟨fun heq => h.not_mem_outflows a (heq ▸ hb), (h.mem_outflows_iff a b).mp hb⟩
    · exact ⟨fun heq => h.not_mem_inflows b (heq ▸ ha), (h.mem_outflows_iff a b).mpr ha⟩

/-- A graph that passes the scan is well-formed if the tasks have lists without repetitions. -/
theorem wellFormed_of_violations (h : violations tasks = [])
    (hnd : ∀ t ∈ tasks.toList, t.inflows.ids.Nodup ∧ t.outflows.ids.Nodup) : WellFormed tasks := by
  apply (violations_eq_nil_iff.mp h).wellFormed
  · intro id
    cases ht : tasks.get? id with
    | none => rw [inflowsOf_of_none ht]; exact List.nodup_nil
    | some t => rw [inflowsOf_of_get? ht]; exact (hnd t (TaskMap.mem_of_get? ht)).1
  · intro id
    cases ht : tasks.get? id with
    | none => rw [outflowsOf_of_none ht]; exact List.nodup_nil
    | some t => rw [outflowsOf_of_get? ht]; exact (hnd t (TaskMap.mem_of_get? ht)).2

end TaskPipeline.Graph
