import Mathlib.Logic.Relation
import TaskPipeline.Proofs.Graph.WellFormed

/-!
# Contraction

Merging and splitting both let a task `new` take over the neighbours of a task `old` that goes
away, and then put `new` in the place of `old` in every other task (`Graph.rename`).  On the graph
this is a contraction: every edge goes where `redirect` sends its ends, and an edge that would
become a loop is dropped (`Inherits.mem_replace`).  That is so if every list has `old` once at most;
a list with more than one entry keeps one of them (`Folds.mem_old_outflowsOf`).

The contraction of a sound graph is sound if no chain of edges closes at `new` (`Sound.contract`): a
chain that avoids `new` was there before.  None closes if `new` is a task without edges
(`Sound.contract_of_isolated`), because then each step of a chain comes from one step of the old
graph.  A well-formed graph stays well-formed, since renaming repeats nothing.
-/

namespace TaskPipeline.Graph

open Relation

variable {tasks rest : TaskMap} {old new : TaskId} {now : Instant}

/-- Where a contraction sends an identifier. -/
def redirect (old new id : TaskId) : TaskId := if id = old then new else id

/-- The lists `taken` are the lists `lists`, but `new` has inherited what belonged to `old`.  There
may be repetitions, of which none are new for `old`. -/
structure Inherits (lists taken : TaskId → List TaskId) (old new : TaskId) : Prop where
  /-- Nothing is left to the task that goes away. -/
  of_old : taken old = []
  /-- The lists of other tasks are the same. -/
  of_ne : ∀ id, id ≠ old → id ≠ new → taken id = lists id
  /-- The task that takes over has the neighbours of both, itself excepted. -/
  mem_new : ∀ y, y ∈ taken new ↔ y ≠ new ∧ (y ∈ lists new ∨ y ∈ lists old)
  /-- It lists the task that goes away as often as before. -/
  count_new : (taken new).count old = (lists new).count old

/-- The lists `taken` are the lists `lists`, but `new` has taken over what belonged to `old`. -/
structure TakenOver (lists taken : TaskId → List TaskId) (old new : TaskId) : Prop extends
    Inherits lists taken old new where
  /-- No task is listed twice. -/
  nodup : ∀ id, (taken id).Nodup

variable {lists taken : TaskId → List TaskId}

/-- The task that goes away is listed as often as before. -/
theorem Inherits.count_eq (h : Inherits lists taken old new) (hirr : old ∉ lists old) (id : TaskId) :
    (taken id).count old = (lists id).count old := by
  by_cases hido : id = old
  · rw [hido, h.of_old, List.count_nil, List.count_eq_zero_of_not_mem hirr]
  · by_cases hidn : id = new
    · rw [hidn, h.count_new]
    · rw [h.of_ne id hido hidn]

/-- Only the list of the task that takes over is new, so only there could a task be listed twice. -/
theorem Inherits.takenOver (h : Inherits lists taken old new) (hnd : ∀ id, (lists id).Nodup)
    (hnew : (taken new).Nodup) : TakenOver lists taken old new where
  toInherits := h
  nodup id := by
    by_cases hido : id = old
    · rw [hido, h.of_old]
      exact List.nodup_nil
    · by_cases hidn : id = new
      · rw [hidn]
        exact hnew
      · rw [h.of_ne id hido hidn]
        exact hnd id

/-- **What becomes of the task that goes away**: a list keeps it iff it listed it more than once. -/
theorem Inherits.mem_old_replace (h : Inherits lists taken old new) (hne : new ≠ old)
    (hirr : old ∉ lists old) (x : TaskId) :
    old ∈ ((Flows.mk (taken x)).replace old new x).ids ↔ 2 ≤ (lists x).count old := by
  rw [Flows.mem_old_replace hne, h.count_eq hirr]

/-- **Inheriting and renaming contract the graph** if every list has the task that goes away once at
most: an entry comes from an entry whose ends are sent to the two tasks, and no task lists itself. -/
theorem Inherits.mem_replace (h : Inherits lists taken old new) (hne : new ≠ old)
    (hirr : ∀ id, id ∉ lists id) (hcount : ∀ id, (lists id).count old ≤ 1) (x y : TaskId) :
    y ∈ ((Flows.mk (taken x)).replace old new x).ids ↔
      x ≠ y ∧ ∃ x₀ y₀, y₀ ∈ lists x₀ ∧ redirect old new x₀ = x ∧ redirect old new y₀ = y := by
  rw [Flows.mem_replace (by rw [h.count_eq (hirr old)]; exact hcount x) hne]
  unfold redirect
  by_cases hxo : x = old
  · -- nothing is left there, and nothing is sent there
    rw [hxo, h.of_old]
    constructor
    · simp
    · rintro ⟨-, x₀, y₀, -, hx₀, -⟩
      split at hx₀
      · exact absurd hx₀ hne
      · exact absurd hx₀ ‹_›
  · by_cases hxn : x = new
    · -- both tasks are sent there
      rw [hxn, h.mem_new]
      constructor
      · rintro (⟨⟨hyn, hy⟩, hyo⟩ | ⟨-, -, hnn⟩)
        · refine ⟨hyn.symm, ?_⟩
          rcases hy with hy | hy
          · exact ⟨new, y, hy, if_neg hne, if_neg hyo⟩
          · exact ⟨old, y, hy, if_pos rfl, if_neg hyo⟩
        · exact absurd rfl hnn
      · rintro ⟨hny, x₀, y₀, hmem, hx₀, hy₀⟩
        split at hy₀
        · exact absurd hy₀ hny
        · next hyo =>
          rw [hy₀] at hmem hyo
          refine .inl ⟨⟨hny.symm, ?_⟩, hyo⟩
          split at hx₀
          · next hxo => exact .inr (hxo ▸ hmem)
          · exact .inl (hx₀ ▸ hmem)
    · -- another task: only the entries of its list are sent elsewhere
      rw [h.of_ne x hxo hxn]
      constructor
      · rintro (⟨hy, hyo⟩ | ⟨ho, rfl, hnx⟩)
        · exact ⟨fun hxy => hirr x (hxy ▸ hy), x, y, hy, if_neg hxo, if_neg hyo⟩
        · exact ⟨hxn, x, old, ho, if_neg hxo, if_pos rfl⟩
      · rintro ⟨-, x₀, y₀, hmem, hx₀, hy₀⟩
        split at hx₀
        · exact absurd hx₀.symm hxn
        · rw [hx₀] at hmem
          split at hy₀
          · next hyo => exact .inr ⟨hyo ▸ hmem, hy₀.symm, Ne.symm hxn⟩
          · next hyo => exact .inl ⟨hy₀ ▸ hmem, hy₀ ▸ hyo⟩

/-! ### Renaming -/

theorem get?_rename (tasks : TaskMap) (old new : TaskId) (now : Instant) (id : TaskId) :
    (rename tasks old new now).get? id = (tasks.get? id).map (renamed old new now) :=
  TaskMap.get?_map _ _ _ _

theorem inflows_renamed {t : Task} (h : t.id ≠ old) :
    (renamed old new now t).inflows = t.inflows.replace old new t.id := by
  unfold renamed
  split
  · rfl
  · next hno =>
    have hin : old ∉ t.inflows.ids := fun hin => hno ⟨h, by
      unfold mentions; rw [Flows.contains_iff.mpr hin, Bool.true_or]⟩
    rw [Flows.replace_of_not_mem hin]

theorem outflows_renamed {t : Task} (h : t.id ≠ old) :
    (renamed old new now t).outflows = t.outflows.replace old new t.id := by
  unfold renamed
  split
  · rfl
  · next hno =>
    have hout : old ∉ t.outflows.ids := fun hout => hno ⟨h, by
      unfold mentions; rw [Flows.contains_iff.mpr hout, Bool.or_true]⟩
    rw [Flows.replace_of_not_mem hout]

/-- The inflows after a renaming of a task that is gone. -/
theorem inflowsOf_rename (hold : tasks.get? old = none) (id : TaskId) :
    inflowsOf (rename tasks old new now) id =
      ((Flows.mk (inflowsOf tasks id)).replace old new id).ids := by
  cases ht : tasks.get? id with
  | none =>
    rw [inflowsOf_of_none (by rw [get?_rename, ht, Option.map_none]), inflowsOf_of_none ht,
      Flows.replace_of_not_mem List.not_mem_nil]
  | some t =>
    have hne : t.id ≠ old := by
      rw [TaskMap.id_of_get? ht]
      exact (TaskMap.ne_of_get? hold ht).symm
    rw [inflowsOf_of_get? (by rw [get?_rename, ht, Option.map_some]), inflowsOf_of_get? ht,
      inflows_renamed hne, TaskMap.id_of_get? ht]

/-- The outflows after a renaming of a task that is gone. -/
theorem outflowsOf_rename (hold : tasks.get? old = none) (id : TaskId) :
    outflowsOf (rename tasks old new now) id =
      ((Flows.mk (outflowsOf tasks id)).replace old new id).ids := by
  cases ht : tasks.get? id with
  | none =>
    rw [outflowsOf_of_none (by rw [get?_rename, ht, Option.map_none]), outflowsOf_of_none ht,
      Flows.replace_of_not_mem List.not_mem_nil]
  | some t =>
    have hne : t.id ≠ old := by
      rw [TaskMap.id_of_get? ht]
      exact (TaskMap.ne_of_get? hold ht).symm
    rw [outflowsOf_of_get? (by rw [get?_rename, ht, Option.map_some]), outflowsOf_of_get? ht,
      outflows_renamed hne, TaskMap.id_of_get? ht]

/-! ### Contracting -/

/-- In `rest` the task `old` is gone and `new` has inherited its neighbours on both sides. -/
structure Folds (tasks rest : TaskMap) (old new : TaskId) : Prop where
  /-- The two tasks are different. -/
  ne : new ≠ old
  /-- The task is gone. -/
  gone : rest.get? old = none
  /-- The inflows are inherited. -/
  inflows : Inherits (inflowsOf tasks) (inflowsOf rest) old new
  /-- The outflows are inherited. -/
  outflows : Inherits (outflowsOf tasks) (outflowsOf rest) old new

/-- In `rest` the task `old` is gone and `new` has its neighbours on both sides. -/
structure Contracts (tasks rest : TaskMap) (old new : TaskId) : Prop where
  /-- The two tasks are different. -/
  ne : new ≠ old
  /-- The task is gone. -/
  gone : rest.get? old = none
  /-- The inflows are taken over. -/
  inflows : TakenOver (inflowsOf tasks) (inflowsOf rest) old new
  /-- The outflows are taken over. -/
  outflows : TakenOver (outflowsOf tasks) (outflowsOf rest) old new

theorem Contracts.folds (h : Contracts tasks rest old new) : Folds tasks rest old new :=
  ⟨h.ne, h.gone, h.inflows.toInherits, h.outflows.toInherits⟩

/-- No list has the task more than once. -/
def OnceAtMost (tasks : TaskMap) (old : TaskId) : Prop :=
  ∀ id, (inflowsOf tasks id).count old ≤ 1 ∧ (outflowsOf tasks id).count old ≤ 1

theorem WellFormed.onceAtMost (h : WellFormed tasks) (old : TaskId) : OnceAtMost tasks old :=
  fun id => ⟨List.nodup_iff_count_le_one.mp (h.nodup_inflows id) old,
    List.nodup_iff_count_le_one.mp (h.nodup_outflows id) old⟩

namespace Folds

variable (h : Folds tasks rest old new) (hs : Sound tasks)

include h hs

/-- **A reference to the task that goes away is left** iff there was more than one. -/
theorem mem_old_inflowsOf (x : TaskId) :
    old ∈ inflowsOf (rename rest old new now) x ↔ 2 ≤ (inflowsOf tasks x).count old := by
  rw [inflowsOf_rename h.gone]
  exact h.inflows.mem_old_replace h.ne (hs.not_mem_inflows old) x

theorem mem_old_outflowsOf (x : TaskId) :
    old ∈ outflowsOf (rename rest old new now) x ↔ 2 ≤ (outflowsOf tasks x).count old := by
  rw [outflowsOf_rename h.gone]
  exact h.outflows.mem_old_replace h.ne (hs.not_mem_outflows old) x

variable (honce : OnceAtMost tasks old)

include honce

/-- **The outflows after a contraction** are the image of the outflows before, loops excepted. -/
theorem mem_outflowsOf (x y : TaskId) : y ∈ outflowsOf (rename rest old new now) x ↔ x ≠ y ∧
    ∃ x₀ y₀, y₀ ∈ outflowsOf tasks x₀ ∧ redirect old new x₀ = x ∧ redirect old new y₀ = y := by
  rw [outflowsOf_rename h.gone]
  exact h.outflows.mem_replace h.ne hs.not_mem_outflows (fun id => (honce id).2) x y

/-- **The inflows after a contraction** are the image of the inflows before, loops excepted. -/
theorem mem_inflowsOf (x y : TaskId) : y ∈ inflowsOf (rename rest old new now) x ↔ x ≠ y ∧
    ∃ x₀ y₀, y₀ ∈ inflowsOf tasks x₀ ∧ redirect old new x₀ = x ∧ redirect old new y₀ = y := by
  rw [inflowsOf_rename h.gone]
  exact h.inflows.mem_replace h.ne hs.not_mem_inflows (fun id => (honce id).1) x y

/-- An edge after a contraction that does not touch the remaining task was there before. -/
theorem edge_of_ne {x y : TaskId} (hx : x ≠ new) (hy : y ≠ new)
    (hxy : Edge (rename rest old new now) x y) : Edge tasks x y := by
  obtain ⟨-, x₀, y₀, hmem, rfl, rfl⟩ := (h.mem_outflowsOf hs honce x y).mp hxy
  unfold redirect at hx hy ⊢
  split at hx
  · exact absurd rfl hx
  · split at hy
    · exact absurd rfl hy
    · rw [if_neg ‹_›, if_neg ‹_›]
      exact hmem

end Folds

/-- A chain passes through a node, or all of its steps avoid the node. -/
theorem transGen_avoiding {α : Type} {r r' : α → α → Prop} {n x y : α}
    (hr : ∀ x y, x ≠ n → y ≠ n → r' x y → r x y) (h : TransGen r' x y) :
    TransGen r x y ∨ ReflTransGen r' x n ∧ ReflTransGen r' n y := by
  -- along the chain, looking at the two ends of each step
  induction h with
  | @single y hxy =>
    by_cases hx : x = n
    · exact .inr ⟨hx ▸ .refl, hx ▸ .single hxy⟩
    · by_cases hy : y = n
      · exact .inr ⟨hy ▸ .single hxy, hy ▸ .refl⟩
      · exact .inl (.single (hr x y hx hy hxy))
  | @tail y z hxy hyz ih =>
    rcases ih with ih | ⟨hxn, hny⟩
    · by_cases hy : y = n
      · exact .inr ⟨hy ▸ hxy.to_reflTransGen, hy ▸ .single hyz⟩
      · by_cases hz : z = n
        · exact .inr ⟨hz ▸ (hxy.tail hyz).to_reflTransGen, hz ▸ .refl⟩
        · exact .inl (ih.tail (hr y z hy hz hyz))
    · exact .inr ⟨hxn, hny.tail hyz⟩

/-- If no chain closes at a node, and none closes that avoids the node, then none closes. -/
theorem acyclic_of_avoiding {α : Type} {r r' : α → α → Prop} {n : α}
    (hr : ∀ x y, x ≠ n → y ≠ n → r' x y → r x y) (h : ∀ x, ¬ TransGen r x x)
    (hn : ¬ TransGen r' n n) (x : α) : ¬ TransGen r' x x := by
  intro hx
  rcases transGen_avoiding hr hx with hold | ⟨hxn, hnx⟩
  · exact h x hold
  · exact hn (TransGen.trans_left (TransGen.trans_right hnx hx) hxn)

/-- **Contraction keeps a graph sound** unless it puts the remaining task on a cycle. -/
theorem Sound.contract (hs : Sound tasks) (h : Folds tasks rest old new)
    (honce : OnceAtMost tasks old)
    (hcycle : ¬ TransGen (Edge (rename rest old new now)) new new) :
    Sound (rename rest old new now) := by
  constructor
  · intro a b
    rw [h.mem_outflowsOf hs honce, h.mem_inflowsOf hs honce]
    constructor
    · rintro ⟨hab, x, y, hxy, hx, hy⟩
      exact ⟨hab.symm, y, x, (hs.mem_outflows_iff x y).mp hxy, hy, hx⟩
    · rintro ⟨hba, y, x, hyx, hy, hx⟩
      exact ⟨hba.symm, x, y, (hs.mem_outflows_iff x y).mpr hyx, hx, hy⟩
  · exact acyclic_of_avoiding (fun x y hx hy => h.edge_of_ne hs honce hx hy) hs.acyclic hcycle

/-- A task without edges can take over those of another: no chain closes. -/
theorem Sound.contract_of_isolated (hs : Sound tasks) (h : Folds tasks rest old new)
    (honce : OnceAtMost tasks old)
    (hin : inflowsOf tasks new = []) (hout : outflowsOf tasks new = []) :
    Sound (rename rest old new now) := by
  refine hs.contract h honce fun hnew => ?_
  -- sent back, every step is a step of the old graph, which never touches the new task
  have hback : ∀ x y, Edge (rename rest old new now) x y →
      Edge tasks (redirect new old x) (redirect new old y) := by
    intro x y hxy
    obtain ⟨-, x₀, y₀, hmem, rfl, rfl⟩ := (h.mem_outflowsOf hs honce x y).mp hxy
    have hx₀ : x₀ ≠ new := by
      rintro rfl
      rw [hout] at hmem
      cases hmem
    have hy₀ : y₀ ≠ new := by
      rintro rfl
      have hmem := (hs.mem_outflows_iff x₀ y₀).mp hmem
      rw [hin] at hmem
      cases hmem
    have hinv : ∀ z, z ≠ new → redirect new old (redirect old new z) = z := by
      intro z hz
      unfold redirect
      by_cases hzo : z = old
      · rw [if_pos hzo, if_pos rfl, hzo]
      · rw [if_neg hzo, if_neg hz]
    rw [hinv x₀ hx₀, hinv y₀ hy₀]
    exact hmem
  exact hs.acyclic _ (TransGen.lift (redirect new old) hback _ _ hnew)

/-- **A sound contraction of a well-formed graph is well-formed**, since nothing is listed twice. -/
theorem Contracts.wellFormed (h : Contracts tasks rest old new)
    (hs : Sound (rename rest old new now)) : WellFormed (rename rest old new now) := by
  apply hs.wellFormed
  · intro id
    rw [inflowsOf_rename h.gone]
    exact Flows.nodup_replace (h.inflows.nodup id)
  · intro id
    rw [outflowsOf_rename h.gone]
    exact Flows.nodup_replace (h.outflows.nodup id)

/-- **Contraction keeps a graph well-formed** unless it puts the remaining task on a cycle. -/
theorem WellFormed.contract (hwf : WellFormed tasks) (h : Contracts tasks rest old new)
    (hcycle : ¬ TransGen (Edge (rename rest old new now)) new new) :
    WellFormed (rename rest old new now) :=
  h.wellFormed (hwf.sound.contract h.folds (hwf.onceAtMost old) hcycle)

/-- A task without edges can take over those of another in a well-formed graph. -/
theorem WellFormed.contract_of_isolated (hwf : WellFormed tasks) (h : Contracts tasks rest old new)
    (hin : inflowsOf tasks new = []) (hout : outflowsOf tasks new = []) :
    WellFormed (rename rest old new now) :=
  h.wellFormed (hwf.sound.contract_of_isolated h.folds (hwf.onceAtMost old) hin hout)

end TaskPipeline.Graph
