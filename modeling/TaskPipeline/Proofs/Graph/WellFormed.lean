import Mathlib.Logic.Relation
import TaskPipeline.Proofs.Graph.Reach
import TaskPipeline.Proofs.Task.Flows
import TaskPipeline.Graph.Link

/-!
# Well-formed graphs

A set of tasks is `WellFormed` if no list of neighbours has a repetition, no task lists itself,
every neighbour exists and lists the task back, and no chain of outflows closes.  (That a task
stands under its own identifier is part of the type of catalogs.)  If the lists may have repetitions,
as those of a file, then what remains of this is that the graph is `Sound`.

Only the flows count (`WellFormed.of_flows_eq`).  Linking two tasks keeps the graph sound and
well-formed (`Sound.link`, `WellFormed.link`), because the search refuses exactly the edges that
would close a chain.
-/

namespace TaskPipeline.Graph

open Relation

/-- A task lists another among its outflows. -/
def Edge (tasks : TaskMap) (a b : TaskId) : Prop := b ∈ outflowsOf tasks a

/-- The flows of all tasks fit together. -/
structure WellFormed (tasks : TaskMap) : Prop where
  /-- No task is listed twice among inflows. -/
  nodup_inflows : ∀ id, (inflowsOf tasks id).Nodup
  /-- No task is listed twice among outflows. -/
  nodup_outflows : ∀ id, (outflowsOf tasks id).Nodup
  /-- No task is its own inflow. -/
  not_mem_inflows : ∀ id, id ∉ inflowsOf tasks id
  /-- No task is its own outflow. -/
  not_mem_outflows : ∀ id, id ∉ outflowsOf tasks id
  /-- Every inflow exists. -/
  has_inflow : ∀ id a, a ∈ inflowsOf tasks id → tasks.has a = true
  /-- Every outflow exists. -/
  has_outflow : ∀ id a, a ∈ outflowsOf tasks id → tasks.has a = true
  /-- An edge stands on both of its ends. -/
  mem_outflows_iff : ∀ a b, b ∈ outflowsOf tasks a ↔ a ∈ inflowsOf tasks b
  /-- No chain of edges closes. -/
  acyclic : ∀ id, ¬ TransGen (Edge tasks) id id

/-- Edges stand on both of their ends, and no chain of edges closes.  A list may have repetitions. -/
structure Sound (tasks : TaskMap) : Prop where
  /-- An edge stands on both of its ends. -/
  mem_outflows_iff : ∀ a b, b ∈ outflowsOf tasks a ↔ a ∈ inflowsOf tasks b
  /-- No chain of edges closes. -/
  acyclic : ∀ id, ¬ TransGen (Edge tasks) id id

/-! ### What well-formedness depends on -/

variable {tasks tasks' : TaskMap}

namespace Sound

variable (h : Sound tasks)

include h

theorem not_mem_outflows (id : TaskId) : id ∉ outflowsOf tasks id :=
  fun hid => h.acyclic id (.single hid)

theorem not_mem_inflows (id : TaskId) : id ∉ inflowsOf tasks id :=
  fun hid => h.not_mem_outflows id ((h.mem_outflows_iff id id).mpr hid)

theorem has_inflow {id a : TaskId} (ha : a ∈ inflowsOf tasks id) : tasks.has a = true :=
  has_of_mem_outflowsOf ((h.mem_outflows_iff a id).mpr ha)

theorem has_outflow {id a : TaskId} (ha : a ∈ outflowsOf tasks id) : tasks.has a = true :=
  has_of_mem_inflowsOf ((h.mem_outflows_iff id a).mp ha)

/-- **A sound graph without repetitions is well-formed**: neighbours exist, since they list the task
back, and a task that lists itself would close a chain. -/
theorem wellFormed (hin : ∀ id, (inflowsOf tasks id).Nodup)
    (hout : ∀ id, (outflowsOf tasks id).Nodup) : WellFormed tasks where
  nodup_inflows := hin
  nodup_outflows := hout
  not_mem_inflows := h.not_mem_inflows
  not_mem_outflows := h.not_mem_outflows
  has_inflow _ _ := h.has_inflow
  has_outflow _ _ := h.has_outflow
  mem_outflows_iff := h.mem_outflows_iff
  acyclic := h.acyclic

/-- Only the flows count. -/
theorem of_flows_eq (hin : ∀ id, inflowsOf tasks' id = inflowsOf tasks id)
    (hout : ∀ id, outflowsOf tasks' id = outflowsOf tasks id) : Sound tasks' where
  mem_outflows_iff a b := by rw [hout, hin]; exact h.mem_outflows_iff a b
  acyclic := by
    have hedge : Edge tasks' = Edge tasks := by
      funext a b
      unfold Edge
      rw [hout]
    rw [hedge]
    exact h.acyclic

end Sound

theorem WellFormed.sound (h : WellFormed tasks) : Sound tasks := ⟨h.mem_outflows_iff, h.acyclic⟩

/-- **Only the flows count.** -/
theorem WellFormed.of_flows_eq (h : WellFormed tasks)
    (hin : ∀ id, inflowsOf tasks' id = inflowsOf tasks id)
    (hout : ∀ id, outflowsOf tasks' id = outflowsOf tasks id) : WellFormed tasks' := by
  apply (h.sound.of_flows_eq hin hout).wellFormed
  · intro id; rw [hin]; exact h.nodup_inflows id
  · intro id; rw [hout]; exact h.nodup_outflows id

theorem wellFormed_empty : WellFormed .empty := by
  have hsound : Sound .empty := by
    refine ⟨fun _ _ => iff_of_false List.not_mem_nil List.not_mem_nil, fun id h => ?_⟩
    obtain ⟨_, hb, -⟩ := TransGen.head'_iff.mp h
    exact absurd hb List.not_mem_nil
  exact hsound.wellFormed (fun _ => List.nodup_nil) fun _ => List.nodup_nil

/-! ### What the searches find -/

theorem hasEdge_iff {source target : TaskId} : hasEdge tasks source target = true ↔
    target ∈ outflowsOf tasks source ∧ source ∈ inflowsOf tasks target := by
  unfold hasEdge
  rw [Bool.and_eq_true, List.contains_iff_mem, List.contains_iff_mem]

namespace Sound

variable {a b : TaskId} (h : Sound tasks)

include h

/-- A chain of inflows is a chain of edges read backwards. -/
theorem transGen_of_inflows (hchain : TransGen (fun a b => b ∈ inflowsOf tasks a) a b) :
    TransGen (Edge tasks) b a := by
  have hswap : TransGen (fun a b => Edge tasks b a) a b :=
    TransGen.mono (fun a b hb => (h.mem_outflows_iff b a).mpr hb) _ _ hchain
  exact transGen_swap.mp hswap

/-- A chain of edges leads to a task from each of its ancestors, and from no other task. -/
theorem isAncestor_iff_chain : isAncestor tasks a b = true ↔ TransGen (Edge tasks) a b := by
  rw [isAncestor_iff]
  refine ⟨h.transGen_of_inflows, fun hchain => ?_⟩
  exact TransGen.mono (fun x y hy => (h.mem_outflows_iff y x).mp hy) _ _ (transGen_swap.mpr hchain)

theorem isAncestor_eq_false_iff : isAncestor tasks a b = false ↔ ¬ TransGen (Edge tasks) a b := by
  rw [Bool.eq_false_iff, Ne, h.isAncestor_iff_chain]

/-- Either end of an edge knows of it. -/
theorem hasEdge_iff : hasEdge tasks a b = true ↔ Edge tasks a b := by
  rw [Graph.hasEdge_iff, ← h.mem_outflows_iff, and_self]
  exact Iff.rfl

theorem not_isAncestor (id : TaskId) : isAncestor tasks id id = false :=
  h.isAncestor_eq_false_iff.mpr (h.acyclic id)

theorem not_hasCycleThrough (id : TaskId) : hasCycleThrough tasks id = false := by
  rw [Bool.eq_false_iff, Ne, hasCycleThrough_iff]
  exact h.acyclic id

/-- A task without outflows is nobody's ancestor. -/
theorem isAncestor_of_outflows_nil (ha : outflowsOf tasks a = []) (b : TaskId) :
    isAncestor tasks a b = false := by
  rw [Bool.eq_false_iff, Ne, isAncestor_iff]
  intro hchain
  obtain ⟨c, -, hc⟩ := TransGen.tail'_iff.mp hchain
  rw [← h.mem_outflows_iff, ha] at hc
  cases hc

end Sound

/-! ### Chains and one more edge -/

/-- A chain over edges of which one is new is a chain over the others, or runs through the new
one. -/
theorem transGen_of_insert {α : Type} {r r' : α → α → Prop} {a b x y : α}
    (hr : ∀ x y, r' x y → r x y ∨ x = a ∧ y = b) (h : TransGen r' x y) :
    TransGen r x y ∨ ReflTransGen r x a ∧ ReflTransGen r b y ∨ ReflTransGen r b a := by
  -- along the chain; the third case is a chain that runs through the new edge more than once
  induction h with
  | single hxy =>
    rcases hr _ _ hxy with hxy | ⟨rfl, rfl⟩
    · exact .inl (.single hxy)
    · exact .inr (.inl ⟨.refl, .refl⟩)
  | tail _ hyz ih =>
    rcases hr _ _ hyz with hyz | ⟨rfl, rfl⟩
    · rcases ih with ih | ⟨hxa, hby⟩ | ih
      · exact .inl (ih.tail hyz)
      · exact .inr (.inl ⟨hxa, hby.tail hyz⟩)
      · exact .inr (.inr ih)
    · rcases ih with ih | ⟨-, hba⟩ | ih
      · exact .inr (.inl ⟨ih.to_reflTransGen, .refl⟩)
      · exact .inr (.inr hba)
      · exact .inr (.inr ih)

/-- An edge closes no chain unless a chain leads from its target to its source. -/
theorem acyclic_of_insert {α : Type} {r r' : α → α → Prop} {a b : α}
    (h : ∀ x, ¬ TransGen r x x) (hr : ∀ x y, r' x y → r x y ∨ x = a ∧ y = b)
    (hba : ¬ ReflTransGen r b a) (x : α) : ¬ TransGen r' x x := by
  intro hx
  rcases transGen_of_insert hr hx with hx | ⟨hxa, hbx⟩ | hchain
  · exact h x hx
  · exact hba (hbx.trans hxa)
  · exact hba hchain

/-! ### Adding an edge -/

section AddEdge

variable {source target : TaskId} {now : Instant}

theorem get?_addEdge (tasks : TaskMap) (source target : TaskId) (now : Instant) (id : TaskId) :
    (addEdge tasks source target now).get? id = (tasks.get? id).map (withHalf source target now) :=
  TaskMap.get?_map _ _ _ _

theorem outflowsOf_addEdge (hs : tasks.has source = true) (id : TaskId) :
    outflowsOf (addEdge tasks source target now) id =
      if id = source then ((Flows.mk (outflowsOf tasks source)).add target).ids
      else outflowsOf tasks id := by
  by_cases hid : id = source
  · subst hid
    obtain ⟨t, ht⟩ := TaskMap.has_iff.mp hs
    have hget : (addEdge tasks id target now).get? id = some (withHalf id target now t) := by
      rw [get?_addEdge, ht, Option.map_some]
    rw [if_pos rfl, outflowsOf_of_get? hget, outflowsOf_of_get? ht]
    unfold withHalf
    rw [if_pos (TaskMap.id_of_get? ht)]
  · rw [if_neg hid]
    cases ht : tasks.get? id with
    | none =>
      rw [outflowsOf_of_none ht, outflowsOf_of_none (by rw [get?_addEdge, ht, Option.map_none])]
    | some t =>
      have hget : (addEdge tasks source target now).get? id =
          some (withHalf source target now t) := by
        rw [get?_addEdge, ht, Option.map_some]
      rw [outflowsOf_of_get? hget, outflowsOf_of_get? ht]
      unfold withHalf
      rw [if_neg (by rw [TaskMap.id_of_get? ht]; exact hid)]
      split <;> rfl

theorem inflowsOf_addEdge (hne : source ≠ target) (ht : tasks.has target = true) (id : TaskId) :
    inflowsOf (addEdge tasks source target now) id =
      if id = target then ((Flows.mk (inflowsOf tasks target)).add source).ids
      else inflowsOf tasks id := by
  by_cases hid : id = target
  · subst hid
    obtain ⟨t, ht⟩ := TaskMap.has_iff.mp ht
    have hget : (addEdge tasks source id now).get? id = some (withHalf source id now t) := by
      rw [get?_addEdge, ht, Option.map_some]
    rw [if_pos rfl, inflowsOf_of_get? hget, inflowsOf_of_get? ht]
    unfold withHalf
    rw [if_neg (by rw [TaskMap.id_of_get? ht]; exact hne.symm), if_pos (TaskMap.id_of_get? ht)]
  · rw [if_neg hid]
    cases ht : tasks.get? id with
    | none =>
      rw [inflowsOf_of_none ht, inflowsOf_of_none (by rw [get?_addEdge, ht, Option.map_none])]
    | some t =>
      have hget : (addEdge tasks source target now).get? id =
          some (withHalf source target now t) := by
        rw [get?_addEdge, ht, Option.map_some]
      rw [inflowsOf_of_get? hget, inflowsOf_of_get? ht]
      unfold withHalf
      split
      · rfl
      · rw [if_neg (by rw [TaskMap.id_of_get? ht]; exact hid)]

/-- The outflows after an edge is added: the old ones and the edge. -/
theorem mem_outflowsOf_addEdge (hs : tasks.has source = true) (a b : TaskId) :
    b ∈ outflowsOf (addEdge tasks source target now) a ↔
      b ∈ outflowsOf tasks a ∨ a = source ∧ b = target := by
  rw [outflowsOf_addEdge hs]
  by_cases ha : a = source
  · rw [if_pos ha, Flows.mem_add, ha]
    simp
  · rw [if_neg ha]
    simp [ha]

/-- The inflows after an edge is added: the old ones and the edge. -/
theorem mem_inflowsOf_addEdge (hne : source ≠ target) (ht : tasks.has target = true)
    (a b : TaskId) :
    a ∈ inflowsOf (addEdge tasks source target now) b ↔
      a ∈ inflowsOf tasks b ∨ a = source ∧ b = target := by
  rw [inflowsOf_addEdge hne ht]
  by_cases hb : b = target
  · rw [if_pos hb, Flows.mem_add, hb]
    simp
  · rw [if_neg hb]
    simp [hb]

/-! ### Linking -/

/-- What a permitted edge fulfils. -/
theorem checkEdge_eq_ok_iff : checkEdge tasks source target = .ok () ↔ source ≠ target ∧
    tasks.has source = true ∧ tasks.has target = true ∧
      isAncestor tasks target source = false := by
  unfold checkEdge
  by_cases hne : source = target
  · simp [hne]
  · rw [if_neg hne]
    by_cases hs : tasks.has source = true
    · by_cases ht : tasks.has target = true
      · by_cases ha : isAncestor tasks target source = true
        · simp [hs, ht, ha]
        · simp [hs, ht, ha, hne]
      · simp [hs, ht]
    · simp [hs]

/-- Linking succeeds if the edge is there or permitted, and then changes nothing or adds it. -/
theorem link_eq_ok_iff : link tasks source target now = .ok tasks' ↔
    hasEdge tasks source target = true ∧ tasks' = tasks ∨
      hasEdge tasks source target = false ∧ checkEdge tasks source target = .ok () ∧
        tasks' = addEdge tasks source target now := by
  rw [link_eq]
  by_cases he : hasEdge tasks source target = true
  · rw [if_pos he]
    simp [he, eq_comm]
  · rw [if_neg he]
    cases hc : checkEdge tasks source target with
    | error e => simp [he, Except.map]
    | ok u => simp [he, eq_comm, Except.map]

/-- **A permitted edge closes no chain**: the search goes along inflows, from the source to its
ancestors, and has not met the target. -/
theorem not_chain_of_checkEdge {r : TaskId → TaskId → Prop}
    (hcheck : checkEdge tasks source target = .ok ())
    (hr : ∀ a b, r a b → a ∈ inflowsOf tasks b) : ¬ ReflTransGen r target source := by
  obtain ⟨hne, -, -, hanc⟩ := checkEdge_eq_ok_iff.mp hcheck
  intro hchain
  have hinflows : ReflTransGen (fun a b => b ∈ inflowsOf tasks a) source target := by
    rw [← reflTransGen_swap]
    exact ReflTransGen.mono hr _ _ hchain
  rcases ReflTransGen.cases_head_iff.mp hinflows with heq | ⟨b, hb, hrest⟩
  · exact hne heq
  · rw [(isAncestor_iff target source).mpr (TransGen.head' hb hrest)] at hanc
    cases hanc

theorem Sound.addEdge (h : Sound tasks) (hcheck : checkEdge tasks source target = .ok ()) :
    Sound (addEdge tasks source target now) := by
  obtain ⟨hne, hs, ht, -⟩ := checkEdge_eq_ok_iff.mp hcheck
  constructor
  · intro a b
    rw [mem_outflowsOf_addEdge hs, mem_inflowsOf_addEdge hne ht, h.mem_outflows_iff]
  · have hchain : ¬ ReflTransGen (Edge tasks) target source :=
      not_chain_of_checkEdge hcheck fun a b hab => (h.mem_outflows_iff a b).mp hab
    exact acyclic_of_insert h.acyclic (fun a b hab => (mem_outflowsOf_addEdge hs a b).mp hab) hchain

theorem WellFormed.addEdge (h : WellFormed tasks)
    (hcheck : checkEdge tasks source target = .ok ()) :
    WellFormed (addEdge tasks source target now) := by
  obtain ⟨hne, hs, ht, -⟩ := checkEdge_eq_ok_iff.mp hcheck
  apply (h.sound.addEdge hcheck).wellFormed
  · intro id
    rw [inflowsOf_addEdge hne ht]
    split
    · exact Flows.nodup_add (h.nodup_inflows target)
    · exact h.nodup_inflows id
  · intro id
    rw [outflowsOf_addEdge hs]
    split
    · exact Flows.nodup_add (h.nodup_outflows source)
    · exact h.nodup_outflows id

/-- **Linking two tasks keeps the graph sound.** -/
theorem Sound.link (h : Sound tasks) (hlink : link tasks source target now = .ok tasks') :
    Sound tasks' := by
  rcases link_eq_ok_iff.mp hlink with ⟨-, rfl⟩ | ⟨-, hcheck, rfl⟩
  · exact h
  · exact h.addEdge hcheck

/-- **Linking two tasks keeps the graph well-formed.** -/
theorem WellFormed.link (h : WellFormed tasks) (hlink : link tasks source target now = .ok tasks') :
    WellFormed tasks' := by
  rcases link_eq_ok_iff.mp hlink with ⟨-, rfl⟩ | ⟨-, hcheck, rfl⟩
  · exact h
  · exact h.addEdge hcheck

end AddEdge

end TaskPipeline.Graph
