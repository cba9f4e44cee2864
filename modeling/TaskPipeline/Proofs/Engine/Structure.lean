import TaskPipeline.Proofs.Engine.Chain
import TaskPipeline.Proofs.Graph.Contraction

/-!
# Merging and splitting

A merge is the contraction of the task that is folded in (`TaskMap.contracts_merge`), and a split
the contraction of the task into the first of its parts (`TaskMap.contracts_split`), after which
the parts are linked into a chain.  So both keep the graph well-formed
(`TaskMap.wellFormed_merged`, `TaskMap.wellFormed_splitInto`).

Where the tasks of the result come from is said by `TaskMap.get?_merged` and
`TaskMap.get?_splitInto`: but for rewiring they are the tasks from before, the task that absorbed
another, and the parts.
-/

namespace TaskPipeline

open Relation

namespace TaskMap

variable {tasks tasks' : TaskMap} {source target id : TaskId} {s t : Task} {now : Instant}

theorem demand_eq_ok_iff : tasks.demand id = .ok t ↔ tasks.get? id = some t := by
  unfold demand
  cases tasks.get? id <;> simp

/-- The lists of one side of all tasks. -/
def entries (side : Task → Flows) (tasks : TaskMap) (id : TaskId) : List TaskId :=
  match tasks.get? id with
  | some t => (side t).ids
  | none => []

variable {side : Task → Flows}

theorem entries_of_get? (h : tasks.get? id = some t) : entries side tasks id = (side t).ids := by
  unfold entries; rw [h]

theorem entries_of_none (h : tasks.get? id = none) : entries side tasks id = [] := by
  unfold entries; rw [h]

theorem entries_congr (h : tasks'.get? id = tasks.get? id) :
    entries side tasks' id = entries side tasks id := by
  unfold entries; rw [h]

/-! ### Merging -/

/-- The tasks when `absorbing` has absorbed `source`, and nothing has been renamed yet. -/
def absorbed (tasks : TaskMap) (source : TaskId) (absorbing : Task) : TaskMap :=
  TaskMap.remove (tasks.insert absorbing) source

theorem get?_absorbed (tasks : TaskMap) (source : TaskId) (absorbing : Task) (id : TaskId) :
    (tasks.absorbed source absorbing).get? id =
      if source = id then none
      else if absorbing.id = id then some absorbing
      else tasks.get? id := by
  unfold absorbed
  rw [get?_remove, get?_insert]

/-- The neighbours of a task that has absorbed another. -/
theorem entries_absorbed {absorbing : Task} (hne : target ≠ source) (hid : absorbing.id = target)
    (hside : side absorbing = (side t).addAll ((side s).ids.filter (· ≠ t.id))) :
    entries side (tasks.absorbed source absorbing) target =
      ((side t).addAll ((side s).ids.filter (· ≠ t.id))).ids := by
  rw [← hside]
  apply entries_of_get?
  rw [get?_absorbed, if_neg (Ne.symm hne), if_pos hid]

theorem inherits_absorbed {absorbing : Task} (hs : tasks.get? source = some s)
    (ht : tasks.get? target = some t) (hne : target ≠ source)
    (hirr : ∀ id, id ∉ entries side tasks id) (hid : absorbing.id = target)
    (hside : side absorbing = (side t).addAll ((side s).ids.filter (· ≠ t.id))) :
    Graph.Inherits (entries side tasks) (entries side (tasks.absorbed source absorbing))
      source target where
  of_old := by
    apply entries_of_none
    rw [get?_absorbed, if_pos rfl]
  of_ne id hids hidt := by
    apply entries_congr
    rw [get?_absorbed, if_neg (Ne.symm hids), if_neg (fun h => hidt (h.symm.trans hid))]
  mem_new y := by
    -- neither list brings the task that remains: its own never held it, the other is filtered
    have hirr := hirr target
    rw [entries_absorbed hne hid hside, Flows.mem_addAll, List.mem_filter, id_of_get? ht,
      entries_of_get? hs]
    rw [entries_of_get? ht] at hirr ⊢
    rw [decide_eq_true_iff]
    constructor
    · rintro (hy | ⟨hy, hyt⟩)
      · exact ⟨fun h => hirr (h ▸ hy), .inl hy⟩
      · exact ⟨hyt, .inr hy⟩
    · rintro ⟨hyt, hy | hy⟩
      · exact .inl hy
      · exact .inr ⟨hy, hyt⟩
  count_new := by
    have hirr := hirr source
    rw [entries_of_get? hs] at hirr
    rw [entries_absorbed hne hid hside, entries_of_get? ht]
    exact Flows.count_addAll_of_not_mem fun hmem => hirr (List.mem_filter.mp hmem).1

variable {collision : TagCollision}

/-- **A merge folds a task into another.** -/
theorem folds_merge (hsound : Graph.Sound tasks) (hs : tasks.get? source = some s)
    (ht : tasks.get? target = some t) (hne : target ≠ source) :
    Graph.Folds tasks (tasks.absorbed source (t.absorb s now collision)) source target where
  ne := hne
  gone := by rw [get?_absorbed, if_pos rfl]
  inflows := inherits_absorbed hs ht hne hsound.not_mem_inflows
    (show t.id = target from id_of_get? ht) rfl
  outflows := inherits_absorbed hs ht hne hsound.not_mem_outflows
    (show t.id = target from id_of_get? ht) rfl

/-- **A merge contracts the graph.** -/
theorem contracts_merge (hwf : Graph.WellFormed tasks) (hs : tasks.get? source = some s)
    (ht : tasks.get? target = some t) (hne : target ≠ source) :
    Graph.Contracts tasks (tasks.absorbed source (t.absorb s now collision)) source target := by
  have hfolds : Graph.Folds tasks (tasks.absorbed source (t.absorb s now collision)) source target :=
    folds_merge hwf.sound hs ht hne
  have hid : (t.absorb s now collision).id = target := show t.id = target from id_of_get? ht
  have hin := hwf.nodup_inflows target
  have hout := hwf.nodup_outflows target
  rw [Graph.inflowsOf_of_get? ht] at hin
  rw [Graph.outflowsOf_of_get? ht] at hout
  refine ⟨hne, hfolds.gone, hfolds.inflows.takenOver hwf.nodup_inflows ?_,
    hfolds.outflows.takenOver hwf.nodup_outflows ?_⟩
  · show (entries Task.inflows (tasks.absorbed source (t.absorb s now collision)) target).Nodup
    rw [entries_absorbed hne hid rfl]
    exact Flows.nodup_addAll hin
  · show (entries Task.outflows (tasks.absorbed source (t.absorb s now collision)) target).Nodup
    rw [entries_absorbed hne hid rfl]
    exact Flows.nodup_addAll hout

/-- When a merge succeeds, and what it gives. -/
theorem merged_eq_ok_iff : tasks.merged source target now collision = .ok tasks' ↔
    ∃ s t, tasks.get? source = some s ∧ tasks.get? target = some t ∧ s.sameChain t = true ∧
      Graph.hasCycleThrough tasks' target = false ∧
      tasks' =
        Graph.rename (tasks.absorbed source (t.absorb s now collision)) source target now := by
  unfold merged
  cases hs : tasks.demand source with
  | error e =>
    constructor
    · intro h; cases h
    · rintro ⟨s, t, hs', -⟩
      rw [demand_eq_ok_iff.mpr hs'] at hs
      cases hs
  | ok s =>
    cases ht : tasks.demand target with
    | error e =>
      constructor
      · intro h; cases h
      · rintro ⟨s, t, -, ht', -⟩
        rw [demand_eq_ok_iff.mpr ht'] at ht
        cases ht
    | ok t =>
      rw [demand_eq_ok_iff] at hs ht
      simp only [hs, ht, Option.some.injEq]
      constructor
      · intro h
        simp only [bind, Except.bind] at h
        split at h
        · cases h
        · next hchain =>
          split at h
          · cases h
          · next hcycle =>
            cases h
            exact ⟨s, t, rfl, rfl, by simpa using hchain, Bool.eq_false_iff.mpr hcycle, rfl⟩
      · rintro ⟨s', t', rfl, rfl, hchain, hcycle, rfl⟩
        simp only [bind, Except.bind]
        rw [if_neg (by simpa using hchain)]
        exact if_neg (Bool.eq_false_iff.mp hcycle)

/-- **A merge keeps the graph well-formed**: the only chain that it could close passes through the
task that remains, and that is what it checks. -/
theorem wellFormed_merged (hwf : Graph.WellFormed tasks) (hne : source ≠ target)
    (h : tasks.merged source target now collision = .ok tasks') : Graph.WellFormed tasks' := by
  obtain ⟨s, t, hs, ht, -, hcycle, rfl⟩ := merged_eq_ok_iff.mp h
  refine hwf.contract (contracts_merge hwf hs ht hne.symm) fun hchain => ?_
  rw [(Graph.hasCycleThrough_iff target).mpr hchain] at hcycle
  cases hcycle

/-- **Where the tasks come from after a merge.** -/
theorem get?_merged (hne : source ≠ target)
    (h : tasks.merged source target now collision = .ok tasks') :
    ∃ s t t', tasks.get? source = some s ∧ tasks.get? target = some t ∧
      tasks'.get? target = some t' ∧ (t.absorb s now collision).Rewired t' ∧
      tasks'.get? source = none ∧
      ∀ id, id ≠ source → id ≠ target →
        Option.Rel Task.Rewired (tasks.get? id) (tasks'.get? id) := by
  obtain ⟨s, t, hs, ht, -, -, rfl⟩ := merged_eq_ok_iff.mp h
  have hrewires := Graph.rewires_rename (tasks.absorbed source (t.absorb s now collision))
    source target
    now
  have htid : (t.absorb s now collision).id = target := show t.id = target from id_of_get? ht
  have hget : (tasks.absorbed source (t.absorb s now collision)).get? target =
      some (t.absorb s now collision) := by
    rw [get?_absorbed, if_neg hne, if_pos htid]
  obtain ⟨t', ht', hr⟩ := hrewires.get?_of_some hget
  refine ⟨s, t, t', hs, ht, ht', hr, ?_, fun id hids hidt => ?_⟩
  · rw [Graph.get?_rename, get?_absorbed, if_pos rfl, Option.map_none]
  · have hrel := hrewires id
    rwa [get?_absorbed, if_neg hids.symm, if_neg (fun h => hidt (h.symm.trans htid))] at hrel

/-! ### Splitting -/

/-- The tasks when the parts have taken the place of a task, and nothing has been renamed yet. -/
def parted (tasks : TaskMap) (task first : Task) (rest : List Task) : TaskMap :=
  (tasks.remove task.id).insertAll
    ({ first with inflows := task.inflows, outflows := task.outflows } :: rest)

theorem splitInto_cons (tasks : TaskMap) (task first : Task) (rest : List Task) (now : Instant) :
    tasks.splitInto task (first :: rest) now =
      linkedAll now (Graph.rename (tasks.parted task first rest) task.id first.id now)
        ((first.id :: rest.map Task.id).zip (rest.map Task.id)) := rfl

/-- Where the tasks come from when the parts have taken the place of a task. -/
theorem get?_parted (tasks : TaskMap) (task first : Task) (rest : List Task) (id : TaskId) :
    (∃ p ∈ rest, p.id = id ∧ (tasks.parted task first rest).get? id = some p) ∨
      (∀ p ∈ rest, p.id ≠ id) ∧ (tasks.parted task first rest).get? id =
        if first.id = id then
          some { first with inflows := task.inflows, outflows := task.outflows }
        else if task.id = id then none else tasks.get? id := by
  unfold parted
  rw [insertAll_cons]
  rcases get?_insertAll ((tasks.remove task.id).insert
    { first with inflows := task.inflows, outflows := task.outflows }) rest id with h | ⟨hne, hget⟩
  · exact .inl h
  · refine .inr ⟨hne, ?_⟩
    rw [hget, get?_insert, get?_remove]

/-- The task is gone when its parts are new tasks. -/
theorem get?_parted_self {task first : Task} {rest : List Task}
    (htask : tasks.get? task.id = some task)
    (hfresh : ∀ p ∈ first :: rest, tasks.get? p.id = none) :
    (tasks.parted task first rest).get? task.id = none := by
  have hne : ∀ p ∈ first :: rest, p.id ≠ task.id := fun p hp => ne_of_get? (hfresh p hp) htask
  rcases get?_parted tasks task first rest task.id with ⟨p, hp, hid, -⟩ | ⟨-, hget⟩
  · exact absurd hid (hne p (List.mem_cons_of_mem _ hp))
  · rw [hget, if_neg (hne first List.mem_cons_self), if_pos rfl]

/-- A task without neighbours has none after a renaming. -/
theorem outflows_renamed_of_empty {old new : TaskId} {p : Task} (h : p.outflows = .empty) :
    (Graph.renamed old new now p).outflows = .empty := by
  unfold Graph.renamed
  split
  · show p.outflows.replace old new p.id = .empty
    rw [h, Flows.replace_of_not_mem (f := .empty) List.not_mem_nil]
  · exact h

/-- **The parts of a successful split are all different**, whatever their identifiers were. -/
theorem nodup_of_splitInto {task : Task} {parts : List Task}
    (hout : ∀ p ∈ parts, p.outflows = .empty)
    (h : tasks.splitInto task parts now = .ok tasks') : (parts.map Task.id).Nodup := by
  cases parts with
  | nil => exact List.nodup_nil
  | cons first rest =>
    rw [splitInto_cons] at h
    refine nodup_of_linkedAll (fun id hid => ?_) h
    obtain ⟨p, hp, hpid⟩ := List.mem_map.mp hid
    rcases get?_parted tasks task first rest id with ⟨q, hq, -, hget⟩ | ⟨hne, -⟩
    · have hget' : (Graph.rename (tasks.parted task first rest) task.id first.id now).get? id =
          some (Graph.renamed task.id first.id now q) := by
        rw [Graph.get?_rename, hget, Option.map_some]
      rw [Graph.outflowsOf_of_get? hget',
        outflows_renamed_of_empty (hout q (List.mem_cons_of_mem _ hq))]
      rfl
    · exact absurd hpid (hne p hp)

/-- The first part has the neighbours of the task. -/
theorem entries_parted {task first : Task} {rest : List Task}
    (htask : tasks.get? task.id = some task) (hnodup : ((first :: rest).map Task.id).Nodup)
    (hfirst : side { first with inflows := task.inflows, outflows := task.outflows } = side task) :
    entries side (tasks.parted task first rest) first.id = entries side tasks task.id := by
  rw [entries_of_get? htask]
  rcases get?_parted tasks task first rest first.id with ⟨p, hp, hid, -⟩ | ⟨-, hget⟩
  · exact absurd (hid ▸ List.mem_map_of_mem hp) (List.nodup_cons.mp hnodup).1
  · rw [if_pos rfl] at hget
    rw [entries_of_get? hget, hfirst]

theorem inherits_parted {task first : Task} {rest : List Task}
    (htask : tasks.get? task.id = some task)
    (hfresh : ∀ p ∈ first :: rest, tasks.get? p.id = none)
    (hnodup : ((first :: rest).map Task.id).Nodup) (hirr : ∀ id, id ∉ entries side tasks id)
    (hhas : ∀ id y, y ∈ entries side tasks id → tasks.has y = true)
    (hrest : ∀ p ∈ rest, side p = .empty)
    (hfirst : side { first with inflows := task.inflows, outflows := task.outflows } = side task) :
    Graph.Inherits (entries side tasks) (entries side (tasks.parted task first rest))
      task.id first.id where
  of_old := entries_of_none (get?_parted_self htask hfresh)
  of_ne id hidt hidf := by
    rcases get?_parted tasks task first rest id with ⟨p, hp, hid, hget⟩ | ⟨-, hget⟩
    · -- the other parts have no neighbours, and did not exist
      rw [entries_of_get? hget, hrest p hp, ← hid,
        entries_of_none (hfresh p (List.mem_cons_of_mem _ hp))]
      rfl
    · apply entries_congr
      rw [hget, if_neg hidf.symm, if_neg hidt.symm]
  mem_new y := by
    -- the first part is new, so the task did not list it
    have hnone := hfresh first List.mem_cons_self
    rw [entries_parted htask hnodup hfirst, entries_of_none hnone]
    constructor
    · intro hy
      refine ⟨?_, .inr hy⟩
      rintro rfl
      have hhas := hhas task.id first.id hy
      rw [has_eq_isSome, hnone] at hhas
      cases hhas
    · rintro ⟨-, hy | hy⟩
      · cases hy
      · exact hy
  count_new := by
    rw [entries_parted htask hnodup hfirst, List.count_eq_zero_of_not_mem (hirr task.id),
      entries_of_none (hfresh first List.mem_cons_self), List.count_nil]

/-- **A split folds the task into the first part.** -/
theorem folds_split {task first : Task} {rest : List Task} (hsound : Graph.Sound tasks)
    (htask : tasks.get? task.id = some task)
    (hfresh : ∀ p ∈ first :: rest, tasks.get? p.id = none)
    (hnodup : ((first :: rest).map Task.id).Nodup)
    (hin : ∀ p ∈ rest, p.inflows = .empty) (hout : ∀ p ∈ rest, p.outflows = .empty) :
    Graph.Folds tasks (tasks.parted task first rest) task.id first.id where
  ne := ne_of_get? (hfresh first List.mem_cons_self) htask
  gone := get?_parted_self htask hfresh
  inflows := inherits_parted htask hfresh hnodup hsound.not_mem_inflows
    (fun _ _ => hsound.has_inflow) hin rfl
  outflows := inherits_parted htask hfresh hnodup hsound.not_mem_outflows
    (fun _ _ => hsound.has_outflow) hout rfl

/-- **A split contracts the graph** into the first part. -/
theorem contracts_split {task first : Task} {rest : List Task} (hwf : Graph.WellFormed tasks)
    (htask : tasks.get? task.id = some task)
    (hfresh : ∀ p ∈ first :: rest, tasks.get? p.id = none)
    (hnodup : ((first :: rest).map Task.id).Nodup)
    (hin : ∀ p ∈ rest, p.inflows = .empty) (hout : ∀ p ∈ rest, p.outflows = .empty) :
    Graph.Contracts tasks (tasks.parted task first rest) task.id first.id := by
  have hfolds := folds_split hwf.sound htask hfresh hnodup hin hout
  refine ⟨hfolds.ne, hfolds.gone, hfolds.inflows.takenOver hwf.nodup_inflows ?_,
    hfolds.outflows.takenOver hwf.nodup_outflows ?_⟩
  · show (entries Task.inflows (tasks.parted task first rest) first.id).Nodup
    rw [entries_parted htask hnodup rfl]
    exact hwf.nodup_inflows task.id
  · show (entries Task.outflows (tasks.parted task first rest) first.id).Nodup
    rw [entries_parted htask hnodup rfl]
    exact hwf.nodup_outflows task.id

/-- **A split keeps the graph well-formed** if the parts are new tasks. -/
theorem wellFormed_splitInto {task : Task} {parts : List Task} (hwf : Graph.WellFormed tasks)
    (htask : tasks.get? task.id = some task) (hparts : parts ≠ [])
    (hfresh : ∀ p ∈ parts, tasks.get? p.id = none)
    (hin : ∀ p ∈ parts, p.inflows = .empty) (hout : ∀ p ∈ parts, p.outflows = .empty)
    (h : tasks.splitInto task parts now = .ok tasks') : Graph.WellFormed tasks' := by
  have hnodup := nodup_of_splitInto hout h
  cases parts with
  | nil => exact absurd rfl hparts
  | cons first rest =>
    rw [splitInto_cons] at h
    have hfirst := hfresh first List.mem_cons_self
    have hcontracts := contracts_split hwf htask hfresh hnodup
      (fun p hp => hin p (List.mem_cons_of_mem _ hp))
      (fun p hp => hout p (List.mem_cons_of_mem _ hp))
    exact wellFormed_linkedAll (hwf.contract_of_isolated hcontracts
      (Graph.inflowsOf_of_none hfirst) (Graph.outflowsOf_of_none hfirst)) h

/-- After the parts have taken the place of the task, a split only rewires. -/
theorem rewires_splitInto {task first : Task} {rest : List Task}
    (h : tasks.splitInto task (first :: rest) now = .ok tasks') :
    (tasks.parted task first rest).Rewires tasks' := by
  rw [splitInto_cons] at h
  exact (Graph.rewires_rename _ _ _ _).trans (rewires_linkedAll h)

/-- **Where the tasks come from after a split.** -/
theorem get?_splitInto {task : Task} {parts : List Task} {t' : Task}
    (h : tasks.splitInto task parts now = .ok tasks') (ht' : tasks'.get? id = some t') :
    (∃ p ∈ parts, p.Rewired t') ∨ id ≠ task.id ∧ ∃ t, tasks.get? id = some t ∧ t.Rewired t' := by
  cases parts with
  | nil =>
    cases h
    rw [get?_remove] at ht'
    split at ht'
    · cases ht'
    · next hne => exact .inr ⟨Ne.symm hne, t', ht', .refl t'⟩
  | cons first rest =>
    obtain ⟨t, ht, hr⟩ := (rewires_splitInto h).get?_of_some' ht'
    rcases get?_parted tasks task first rest id with ⟨p, hp, -, hget⟩ | ⟨-, hget⟩
    · rw [hget] at ht
      cases ht
      exact .inl ⟨t, List.mem_cons_of_mem _ hp, hr⟩
    · rw [hget] at ht
      split at ht
      · cases ht
        exact .inl ⟨first, List.mem_cons_self,
          (Task.Rewired.of_flows first task.inflows task.outflows first.updatedAt).trans hr⟩
      · split at ht
        · cases ht
        · next hne => exact .inr ⟨Ne.symm hne, t, ht, hr⟩

/-- The other tasks are there after a split. -/
theorem has_splitInto_of_ne {task : Task} {parts : List Task}
    (h : tasks.splitInto task parts now = .ok tasks') (hid : tasks.has id = true)
    (hne : id ≠ task.id) : tasks'.has id = true := by
  cases parts with
  | nil =>
    cases h
    rw [has_eq_isSome, get?_remove, if_neg hne.symm]
    exact hid
  | cons first rest =>
    rw [(rewires_splitInto h).has_eq, has_iff]
    rcases get?_parted tasks task first rest id with ⟨q, -, -, hget⟩ | ⟨-, hget⟩
    · exact ⟨q, hget⟩
    · rw [if_neg hne.symm] at hget
      rw [hget]
      split
      · exact ⟨_, rfl⟩
      · exact has_iff.mp hid

/-- The parts are there after a split. -/
theorem has_splitInto {task : Task} {parts : List Task} {p : Task}
    (h : tasks.splitInto task parts now = .ok tasks') (hp : p ∈ parts) :
    tasks'.has p.id = true := by
  cases parts with
  | nil => cases hp
  | cons first rest =>
    rw [(rewires_splitInto h).has_eq, has_iff]
    rcases get?_parted tasks task first rest p.id with ⟨q, -, -, hget⟩ | ⟨hne, hget⟩
    · exact ⟨q, hget⟩
    · rcases List.mem_cons.mp hp with rfl | hp
      · rw [if_pos rfl] at hget
        exact ⟨_, hget⟩
      · exact absurd rfl (hne p hp)

end TaskMap

end TaskPipeline
