import Mathlib.Logic.Relation
import TaskPipeline.Proofs.Task.Lookup
import TaskPipeline.Graph.Search

/-!
# Correctness of the search

`Graph.reaches` finds the target iff a chain of one or more edges leads to it from the start
(`reaches_iff`).  So `isAncestor` is a chain of inflows and `hasCycleThrough` a chain of outflows
from a task back to itself, on every set of tasks (`isAncestor_iff`, `hasCycleThrough_iff`).

The search has looked at the seen nodes already: none of them is the target, and their neighbours
are seen or in the queue (`Explored`).  So a chain that starts at a seen node passes through the
queue.  Nothing depends on whether neighbours that were seen are queued once more.
-/

namespace TaskPipeline.Graph

open Relation

variable {nodes : List TaskId} {next : TaskId → List TaskId} {onlyUnseen : Bool} {target : TaskId}

/-- An edge that the search follows: it leaves a node of the graph. -/
def Follows (nodes : List TaskId) (next : TaskId → List TaskId) (a b : TaskId) : Prop :=
  a ∈ nodes ∧ b ∈ next a

/-- What the search knows of the seen nodes. -/
structure Explored (nodes : List TaskId) (next : TaskId → List TaskId) (target : TaskId)
    (seen queue : List TaskId) : Prop where
  /-- The target has not been seen. -/
  ne_target : ∀ a ∈ seen, a ≠ target
  /-- The neighbours of a seen node are seen or in the queue. -/
  closed : ∀ a ∈ seen, ∀ b, Follows nodes next a b → b ∈ seen ∨ b ∈ queue

/-- A chain from a seen node to the target passes through the queue. -/
theorem Explored.exists_mem_queue {seen queue : List TaskId} {a : TaskId}
    (h : Explored nodes next target seen queue) (ha : a ∈ seen)
    (hr : ReflTransGen (Follows nodes next) a target) :
    ∃ q ∈ queue, ReflTransGen (Follows nodes next) q target := by
  -- from the seen end: the next node is seen again, or it is in the queue
  induction hr using ReflTransGen.head_induction_on with
  | refl => exact absurd rfl (h.ne_target target ha)
  | @head a b hab hbt ih =>
    rcases h.closed a ha b hab with hb | hb
    · exact ih hb
    · exact ⟨b, hb, hbt⟩

theorem Explored.skip {seen queue : List TaskId} {n : TaskId}
    (h : Explored nodes next target seen (n :: queue)) (hn : n ∈ seen) :
    Explored nodes next target seen queue where
  ne_target := h.ne_target
  closed a ha b hab := by
    rcases h.closed a ha b hab with hb | hb
    · exact .inl hb
    · rcases List.mem_cons.mp hb with rfl | hb
      · exact .inl hn
      · exact .inr hb

theorem Explored.visit {seen queue more : List TaskId} {n : TaskId}
    (h : Explored nodes next target seen (n :: queue)) (hn : n ≠ target)
    (hmore : ∀ b, Follows nodes next n b → b ∈ n :: seen ∨ b ∈ more) :
    Explored nodes next target (n :: seen) (queue ++ more) where
  ne_target a ha := by
    rcases List.mem_cons.mp ha with rfl | ha
    · exact hn
    · exact h.ne_target a ha
  closed a ha b hab := by
    rcases List.mem_cons.mp ha with rfl | ha
    · exact (hmore b hab).imp_right (List.mem_append_right _)
    · rcases h.closed a ha b hab with hb | hb
      · exact .inl (List.mem_cons_of_mem _ hb)
      · rcases List.mem_cons.mp hb with rfl | hb
        · exact .inl List.mem_cons_self
        · exact .inr (List.mem_append_left _ hb)

theorem mem_of_mem_queued {seen : List TaskId} {n b : TaskId}
    (h : b ∈ queued next onlyUnseen seen n) : b ∈ next n := by
  unfold queued at h
  split at h
  · exact List.mem_of_mem_filter h
  · exact h

/-- A neighbour that is not added to the queue has been seen. -/
theorem mem_seen_or_queued {seen : List TaskId} {n b : TaskId} (h : b ∈ next n) :
    b ∈ seen ∨ b ∈ queued next onlyUnseen seen n := by
  unfold queued unseen
  by_cases hb : b ∈ seen
  · exact .inl hb
  · refine .inr ?_
    split
    · exact List.mem_filter.mpr ⟨h, by simpa using hb⟩
    · exact h

/-- The search finds the target iff a chain of edges leads to it from the queue. -/
theorem search_iff (seen queue : List TaskId) (h : Explored nodes next target seen queue) :
    search nodes next onlyUnseen target seen queue = true ↔
      ∃ q ∈ queue, ReflTransGen (Follows nodes next) q target := by
  -- along the recursion of the search; `Explored` holds at every call
  induction seen, queue using search.induct nodes next onlyUnseen target with
  | case1 seen => simp [search]
  | case2 seen queue =>
    rw [search, if_pos rfl]
    exact iff_of_true rfl ⟨target, List.mem_cons_self, .refl⟩
  | case3 seen n queue hn hs ih =>
    -- a seen node is skipped: a chain from it passes through the rest of the queue
    have hmem : n ∈ seen := List.contains_iff_mem.mp hs
    rw [search, if_neg hn, dif_pos hs, ih (h.skip hmem)]
    constructor
    · rintro ⟨q, hq, hr⟩
      exact ⟨q, List.mem_cons_of_mem _ hq, hr⟩
    · rintro ⟨q, hq, hr⟩
      rcases List.mem_cons.mp hq with rfl | hq
      · exact (h.skip hmem).exists_mem_queue hmem hr
      · exact ⟨q, hq, hr⟩
  | case4 seen n queue hn hs hnodes ih =>
    have hmem : n ∈ nodes := List.contains_iff_mem.mp hnodes
    have hvisit : Explored nodes next target (n :: seen)
        (queue ++ queued next onlyUnseen (n :: seen) n) :=
      h.visit hn fun b hb => mem_seen_or_queued hb.2
    rw [search, if_neg hn, dif_neg hs, dif_pos hnodes, ih hvisit]
    constructor
    · rintro ⟨q, hq, hr⟩
      rcases List.mem_append.mp hq with hq | hq
      · exact ⟨q, List.mem_cons_of_mem _ hq, hr⟩
      · exact ⟨n, List.mem_cons_self, .head ⟨hmem, mem_of_mem_queued hq⟩ hr⟩
    · rintro ⟨q, hq, hr⟩
      rcases List.mem_cons.mp hq with rfl | hq
      · exact hvisit.exists_mem_queue List.mem_cons_self hr
      · exact ⟨q, List.mem_append_left _ hq, hr⟩
  | case5 seen n queue hn hs hnodes ih =>
    have hmem : n ∉ nodes := fun hmem => hnodes (List.contains_iff_mem.mpr hmem)
    have hvisit : Explored nodes next target (n :: seen) (queue ++ []) :=
      h.visit hn fun b hb => absurd hb.1 hmem
    rw [List.append_nil] at hvisit
    rw [search, if_neg hn, dif_neg hs, dif_neg hnodes, ih hvisit]
    constructor
    · rintro ⟨q, hq, hr⟩
      exact ⟨q, List.mem_cons_of_mem _ hq, hr⟩
    · rintro ⟨q, hq, hr⟩
      rcases List.mem_cons.mp hq with rfl | hq
      · exact hvisit.exists_mem_queue List.mem_cons_self hr
      · exact ⟨q, hq, hr⟩

/-- **The search is exact**: it finds the target iff a chain of one or more edges leads there. -/
theorem reaches_iff (start : TaskId) : reaches nodes next onlyUnseen start target = true ↔
    TransGen (Follows nodes next) start target := by
  unfold reaches
  rw [search_iff _ _ ⟨by simp, by simp⟩, TransGen.head'_iff]
  constructor
  · rintro ⟨q, hq, hr⟩
    split at hq
    · next hs => exact ⟨q, ⟨List.contains_iff_mem.mp hs, hq⟩, hr⟩
    · simp at hq
  · rintro ⟨q, ⟨hs, hq⟩, hr⟩
    exact ⟨q, by rw [if_pos (List.contains_iff_mem.mpr hs)]; exact hq, hr⟩

/-! ### Chains of inflows and outflows -/

variable {tasks : TaskMap}

theorem inflowsOf_of_get? {id : TaskId} {t : Task} (h : tasks.get? id = some t) :
    inflowsOf tasks id = t.inflows.ids := by
  unfold inflowsOf; rw [h]

theorem outflowsOf_of_get? {id : TaskId} {t : Task} (h : tasks.get? id = some t) :
    outflowsOf tasks id = t.outflows.ids := by
  unfold outflowsOf; rw [h]

theorem inflowsOf_of_none {id : TaskId} (h : tasks.get? id = none) : inflowsOf tasks id = [] := by
  unfold inflowsOf; rw [h]

theorem outflowsOf_of_none {id : TaskId} (h : tasks.get? id = none) : outflowsOf tasks id = [] := by
  unfold outflowsOf; rw [h]

theorem mem_inflowsOf_iff (a b : TaskId) :
    b ∈ inflowsOf tasks a ↔ ∃ t, tasks.get? a = some t ∧ b ∈ t.inflows.ids := by
  cases ha : tasks.get? a with
  | none => simp [inflowsOf_of_none ha]
  | some t => simp [inflowsOf_of_get? ha]

theorem mem_outflowsOf_iff (a b : TaskId) :
    b ∈ outflowsOf tasks a ↔ ∃ t, tasks.get? a = some t ∧ b ∈ t.outflows.ids := by
  cases ha : tasks.get? a with
  | none => simp [outflowsOf_of_none ha]
  | some t => simp [outflowsOf_of_get? ha]

theorem has_of_mem_inflowsOf {a b : TaskId} (h : b ∈ inflowsOf tasks a) : tasks.has a = true := by
  obtain ⟨t, ht, -⟩ := (mem_inflowsOf_iff a b).mp h
  exact TaskMap.has_iff.mpr ⟨t, ht⟩

theorem has_of_mem_outflowsOf {a b : TaskId} (h : b ∈ outflowsOf tasks a) : tasks.has a = true := by
  obtain ⟨t, ht, -⟩ := (mem_outflowsOf_iff a b).mp h
  exact TaskMap.has_iff.mpr ⟨t, ht⟩

theorem follows_inflows (tasks : TaskMap) :
    Follows tasks.ids (inflowsOf tasks) = fun a b => b ∈ inflowsOf tasks a := by
  funext a b
  exact propext ⟨fun h => h.2, fun h => ⟨TaskMap.mem_ids_iff.mpr (has_of_mem_inflowsOf h), h⟩⟩

theorem follows_outflows (tasks : TaskMap) :
    Follows tasks.ids (outflowsOf tasks) = fun a b => b ∈ outflowsOf tasks a := by
  funext a b
  exact propext ⟨fun h => h.2, fun h => ⟨TaskMap.mem_ids_iff.mpr (has_of_mem_outflowsOf h), h⟩⟩

/-- A task is an ancestor of another iff a chain of inflows leads to it. -/
theorem isAncestor_iff (ancestor id : TaskId) : isAncestor tasks ancestor id = true ↔
    TransGen (fun a b => b ∈ inflowsOf tasks a) id ancestor := by
  unfold isAncestor
  rw [reaches_iff]
  rw [follows_inflows]

/-- A task is on a cycle iff a chain of outflows leads back to it. -/
theorem hasCycleThrough_iff (id : TaskId) : hasCycleThrough tasks id = true ↔
    TransGen (fun a b => b ∈ outflowsOf tasks a) id id := by
  unfold hasCycleThrough
  rw [reaches_iff]
  rw [follows_outflows]

end TaskPipeline.Graph
