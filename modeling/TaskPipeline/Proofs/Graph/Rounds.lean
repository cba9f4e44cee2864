import Mathlib.Data.List.Flatten
import TaskPipeline.Proofs.Graph.Reach

/-!
# Rounds of the search

A search goes in rounds, each of which takes the first identifier off the queue (`Ends`).  The same
identifier may stand in the queue many times, but only when it is met for the first time does it add
anything: its own neighbours.  So a round shortens the queue by one, or moves the neighbours of an
unseen node into it, and the search ends after at most as many rounds as there are entries at the
start and neighbours of all nodes (`search_ends`).  This needs nothing of the graph: there may be
cycles, repeated entries, and entries that are no nodes.

`searches_exact_and_end` says of the two searches along flows that they end, and that they find the
chains of references (`Leads`) that there are.
-/

namespace TaskPipeline.Graph

open Relation

variable {nodes : List TaskId} {next : TaskId → List TaskId} {onlyUnseen : Bool} {target : TaskId}

/-- A search gives an answer after a number of rounds.  What an identifier adds to the queue is
`more`, given what has been seen by then, itself included. -/
inductive Ends (more : List TaskId → TaskId → List TaskId) (target : TaskId) :
    List TaskId → List TaskId → Nat → Bool → Prop where
  /-- The queue is empty. -/
  | exhausted (seen : List TaskId) : Ends more target seen [] 0 false
  /-- The target is met. -/
  | met (seen queue : List TaskId) : Ends more target seen (target :: queue) 1 true
  /-- What has been seen is skipped. -/
  | skipped {seen queue : List TaskId} {n : TaskId} {rounds : Nat} {answer : Bool} (hn : n ≠ target)
      (hs : n ∈ seen) (rest : Ends more target seen queue rounds answer) :
      Ends more target seen (n :: queue) (rounds + 1) answer
  /-- What has not been seen adds to the queue. -/
  | visited {seen queue : List TaskId} {n : TaskId} {rounds : Nat} {answer : Bool} (hn : n ≠ target)
      (hs : n ∉ seen)
      (rest : Ends more target (n :: seen) (queue ++ more (n :: seen) n) rounds answer) :
      Ends more target seen (n :: queue) (rounds + 1) answer

/-! ### What is left to be added -/

/-- The neighbours of the nodes that have not been seen. -/
def ahead (nodes : List TaskId) (next : TaskId → List TaskId) (seen : List TaskId) : List TaskId :=
  (unseen nodes seen).flatMap next

theorem length_queued_le (seen : List TaskId) (n : TaskId) :
    (queued next onlyUnseen seen n).length ≤ (next n).length := by
  unfold queued
  split
  · exact List.length_filter_le _ _
  · exact Nat.le_refl _

theorem length_ahead_cons_le (nodes seen : List TaskId) (n : TaskId) :
    (ahead nodes next (n :: seen)).length ≤ (ahead nodes next seen).length := by
  have hsub : (unseen nodes (n :: seen)).Sublist (unseen nodes seen) := by
    rw [unseen_cons]
    exact List.filter_sublist
  exact (hsub.flatMap next).length_le

/-- **A node that is seen for the first time** takes its neighbours away from those ahead. -/
theorem length_ahead_cons_add_le {seen : List TaskId} {n : TaskId} (hn : n ∈ nodes)
    (hs : n ∉ seen) :
    (ahead nodes next (n :: seen)).length + (next n).length ≤ (ahead nodes next seen).length := by
  have hmem : n ∈ unseen nodes seen := List.mem_filter.mpr ⟨hn, by simpa using hs⟩
  obtain ⟨front, back, hsplit⟩ := List.append_of_mem hmem
  have hshrink : ∀ l : List TaskId,
      ((l.filter fun x => decide (x ≠ n)).flatMap next).length ≤ (l.flatMap next).length :=
    fun l => (List.filter_sublist.flatMap next).length_le
  have hfront := hshrink front
  have hback := hshrink back
  unfold ahead
  rw [unseen_cons, hsplit, List.filter_append, List.filter_cons_of_neg (by simp)]
  simp only [List.flatMap_append, List.flatMap_cons, List.length_append]
  omega

/-! ### The number of rounds -/

/-- **The search ends**, with its answer, after at most as many rounds as there are entries in the
queue and ahead. -/
theorem search_ends (hnext : ∀ n, n ∉ nodes → next n = []) (seen queue : List TaskId) :
    ∃ rounds ≤ queue.length + (ahead nodes next seen).length,
      Ends (queued next onlyUnseen) target seen queue rounds
        (search nodes next onlyUnseen target seen queue) := by
  -- along the recursion of the search; what a round adds to the queue is no longer ahead
  induction seen, queue using search.induct nodes next onlyUnseen target with
  | case1 seen =>
    rw [search]
    exact ⟨0, Nat.zero_le _, .exhausted seen⟩
  | case2 seen queue =>
    rw [search, if_pos rfl]
    refine ⟨1, ?_, .met seen queue⟩
    simp only [List.length_cons]
    omega
  | case3 seen n queue hn hs ih =>
    obtain ⟨rounds, hle, hends⟩ := ih
    rw [search, if_neg hn, dif_pos hs]
    refine ⟨rounds + 1, ?_, .skipped hn (by simpa using hs) hends⟩
    simp only [List.length_cons]
    omega
  | case4 seen n queue hn hs hnodes ih =>
    have hmem : n ∈ nodes := List.contains_iff_mem.mp hnodes
    have hnew : n ∉ seen := by simpa using hs
    have hadded : (queued next onlyUnseen (n :: seen) n).length ≤ (next n).length :=
      length_queued_le (n :: seen) n
    have hahead : (ahead nodes next (n :: seen)).length + (next n).length ≤
        (ahead nodes next seen).length := length_ahead_cons_add_le hmem hnew
    obtain ⟨rounds, hle, hends⟩ := ih
    rw [search, if_neg hn, dif_neg hs, dif_pos hnodes]
    refine ⟨rounds + 1, ?_, .visited hn hnew hends⟩
    simp only [List.length_append, List.length_cons] at hle ⊢
    omega
  | case5 seen n queue hn hs hnodes ih =>
    have hnone : next n = [] := hnext n fun hmem => hnodes (List.contains_iff_mem.mpr hmem)
    have hadded : queued next onlyUnseen (n :: seen) n = [] := by
      apply List.eq_nil_of_length_eq_zero
      have hle : (queued next onlyUnseen (n :: seen) n).length ≤ (next n).length :=
        length_queued_le (n :: seen) n
      simpa [hnone] using hle
    have hahead : (ahead nodes next (n :: seen)).length ≤ (ahead nodes next seen).length :=
      length_ahead_cons_le nodes seen n
    obtain ⟨rounds, hle, hends⟩ := ih
    rw [search, if_neg hn, dif_neg hs, dif_neg hnodes]
    refine ⟨rounds + 1, ?_, .visited hn (by simpa using hs) ?_⟩
    · simp only [List.length_cons]
      omega
    · rw [hadded, List.append_nil]
      exact hends

theorem reaches_ends (hnext : ∀ n, n ∉ nodes → next n = []) (start : TaskId) :
    ∃ rounds ≤ (next start).length + (nodes.flatMap next).length,
      Ends (queued next onlyUnseen) target [] (next start) rounds
        (reaches nodes next onlyUnseen start target) := by
  have hstart : (if nodes.contains start then next start else []) = next start := by
    split
    · rfl
    · next hnodes => exact (hnext start fun hmem => hnodes (List.contains_iff_mem.mpr hmem)).symm
  have hall : ahead nodes next [] = nodes.flatMap next := by
    unfold ahead unseen
    rw [List.filter_eq_self.mpr (by simp)]
  unfold reaches
  rw [hstart, ← hall]
  exact search_ends hnext [] (next start)

/-! ### Chains of references -/

/-- Each identifier of a chain lists the next one on one side, and the last one lists `stop`, which
alone need not be a task of the set. -/
structure Leads (tasks : TaskMap) (side : Task → Flows) (chain : List TaskId) (stop : TaskId) :
    Prop where
  /-- The identifiers of the chain are tasks of the set. -/
  has : ∀ id ∈ chain, tasks.has id = true
  /-- Each lists the next one. -/
  lists : (chain ++ [stop]).IsChain fun a b => ∃ t, tasks.get? a = some t ∧ b ∈ (side t).ids

theorem exists_leads_iff {tasks : TaskMap} {side : Task → Flows}
    (hnext : ∀ a b, b ∈ next a ↔ ∃ t, tasks.get? a = some t ∧ b ∈ (side t).ids) (start stop : TaskId) :
    TransGen (fun a b => b ∈ next a) start stop ↔
      ∃ between, Leads tasks side (start :: between) stop := by
  constructor
  · intro hchain
    induction hchain using TransGen.head_induction_on with
    | @single a ha =>
      obtain ⟨t, ht, hb⟩ := (hnext a stop).mp ha
      refine ⟨[], ?_, .cons_cons ⟨t, ht, hb⟩ (.singleton stop)⟩
      simpa using TaskMap.has_iff.mpr ⟨t, ht⟩
    | @head a b ha _ ih =>
      obtain ⟨between, hhas, hlists⟩ := ih
      obtain ⟨t, ht, hb⟩ := (hnext a b).mp ha
      refine ⟨b :: between, ?_, List.isChain_cons_cons.mpr ⟨⟨t, ht, hb⟩, hlists⟩⟩
      exact List.forall_mem_cons.mpr ⟨TaskMap.has_iff.mpr ⟨t, ht⟩, hhas⟩
  · rintro ⟨between, -, hlists⟩
    induction between generalizing start with
    | nil => exact .single ((hnext start stop).mpr (List.isChain_cons_cons.mp hlists).1)
    | cons b between ih =>
      obtain ⟨hfirst, hrest⟩ := List.isChain_cons_cons.mp hlists
      exact .head ((hnext start b).mpr hfirst) (ih b hrest)

/-- All entries that the tasks have on one side. -/
def references (tasks : TaskMap) (side : Task → Flows) : List TaskId :=
  tasks.toList.flatMap fun t => (side t).ids

theorem flatMap_ids {tasks : TaskMap} {side : Task → Flows}
    (hnext : ∀ t, tasks.get? t.id = some t → next t.id = (side t).ids) :
    tasks.ids.flatMap next = references tasks side := by
  unfold TaskMap.ids references
  rw [List.flatMap_map]
  exact List.flatMap_congr fun t ht => hnext t (TaskMap.get?_id_of_mem ht)

/-! ### Both searches -/

/-- **The searches along flows decide reachability and end, on every set of tasks**: the flows may
have cycles, repeated entries, and entries that are the task itself or no task.  A task is an ancestor
of another iff a chain of inflows leads to it, and a task is on a cycle iff a chain of outflows leads
back to it.  Either search gives its answer after at most as many rounds as there are entries at the
start and on all tasks together. -/
theorem searches_exact_and_end (tasks : TaskMap) (ancestor id : TaskId) :
    (isAncestor tasks ancestor id = true ↔
      ∃ between, Leads tasks Task.inflows (id :: between) ancestor) ∧
    (hasCycleThrough tasks id = true ↔ ∃ between, Leads tasks Task.outflows (id :: between) id) ∧
    (∃ rounds ≤ (inflowsOf tasks id).length + (references tasks Task.inflows).length,
      Ends (queued (inflowsOf tasks) true) ancestor [] (inflowsOf tasks id) rounds
        (isAncestor tasks ancestor id)) ∧
    ∃ rounds ≤ (outflowsOf tasks id).length + (references tasks Task.outflows).length,
      Ends (queued (outflowsOf tasks) false) id [] (outflowsOf tasks id) rounds
        (hasCycleThrough tasks id) := by
  have hnone : ∀ n, n ∉ tasks.ids → tasks.get? n = none := by
    intro n hn
    rw [TaskMap.mem_ids_iff, Bool.not_eq_true] at hn
    exact TaskMap.get?_eq_none_iff.mpr hn
  have hin : tasks.ids.flatMap (inflowsOf tasks) = references tasks Task.inflows :=
    flatMap_ids fun t ht => inflowsOf_of_get? ht
  have hout : tasks.ids.flatMap (outflowsOf tasks) = references tasks Task.outflows :=
    flatMap_ids fun t ht => outflowsOf_of_get? ht
  refine ⟨?_, ?_, ?_, ?_⟩
  · rw [isAncestor_iff]
    exact exists_leads_iff mem_inflowsOf_iff id ancestor
  · rw [hasCycleThrough_iff]
    exact exists_leads_iff mem_outflowsOf_iff id id
  · rw [← hin]
    exact reaches_ends (fun n hn => inflowsOf_of_none (hnone n hn)) id
  · rw [← hout]
    exact reaches_ends (fun n hn => outflowsOf_of_none (hnone n hn)) id

end TaskPipeline.Graph
