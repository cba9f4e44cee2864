import TaskPipeline.Proofs.Graph.WellFormed

/-!
# Rewiring

Linking and renaming rewire tasks: they change flows and the time of the last change, and no task
comes, goes or changes in anything else.  `Task.Rewired` says so of a task and `TaskMap.Rewires`
of a set of tasks.
-/

namespace TaskPipeline

/-- A task that differs from another in its flows and the time of its last change at most. -/
def Task.Rewired (t t' : Task) : Prop :=
  t' = { t with inflows := t'.inflows, outflows := t'.outflows, updatedAt := t'.updatedAt }

namespace Task.Rewired

variable {t t' t'' : Task}

theorem refl (t : Task) : t.Rewired t := rfl

theorem trans (h : t.Rewired t') (h' : t'.Rewired t'') : t.Rewired t'' := by
  unfold Rewired at h h' ⊢
  rw [h'] at *
  rw [h]

theorem of_flows (t : Task) (i o : Flows) (now : Instant) :
    t.Rewired { t with inflows := i, outflows := o, updatedAt := now } := rfl

theorem id_eq (h : t.Rewired t') : t'.id = t.id := by rw [h]

theorem stage_eq (h : t.Rewired t') : t'.stage = t.stage := by rw [h]

theorem location_eq (h : t.Rewired t') : t'.location = t.location := by rw [h]

theorem schedule_eq (h : t.Rewired t') : t'.schedule = t.schedule := by rw [h]

theorem version_eq (h : t.Rewired t') : t'.version = t.version := by rw [h]

/-! A task on either side of the relation has its counterpart on the other. -/

theorem of_rel_some {a b : Option Task} (h : Option.Rel Task.Rewired a b) (ha : a = some t) :
    ∃ t', b = some t' ∧ t.Rewired t' := by
  cases h with
  | some hr =>
    cases ha
    exact ⟨_, rfl, hr⟩
  | none => cases ha

theorem of_rel_some' {a b : Option Task} (h : Option.Rel Task.Rewired a b) (hb : b = some t') :
    ∃ t, a = some t ∧ t.Rewired t' := by
  cases h with
  | some hr =>
    cases hb
    exact ⟨_, rfl, hr⟩
  | none => cases hb

end Task.Rewired

/-- The same tasks but for rewiring. -/
def TaskMap.Rewires (tasks tasks' : TaskMap) : Prop :=
  ∀ id, Option.Rel Task.Rewired (tasks.get? id) (tasks'.get? id)

namespace TaskMap.Rewires

variable {tasks tasks' tasks'' : TaskMap} {id : TaskId}

theorem refl (tasks : TaskMap) : tasks.Rewires tasks := by
  intro id
  cases tasks.get? id with
  | none => exact .none
  | some t => exact .some (.refl t)

theorem get?_of_some (h : tasks.Rewires tasks') {t : Task} (ht : tasks.get? id = some t) :
    ∃ t', tasks'.get? id = some t' ∧ t.Rewired t' := Task.Rewired.of_rel_some (h id) ht

theorem get?_of_some' (h : tasks.Rewires tasks') {t' : Task} (ht' : tasks'.get? id = some t') :
    ∃ t, tasks.get? id = some t ∧ t.Rewired t' := Task.Rewired.of_rel_some' (h id) ht'

theorem has_eq (h : tasks.Rewires tasks') (id : TaskId) : tasks'.has id = tasks.has id := by
  have hrel := h id
  rw [TaskMap.has_eq_isSome, TaskMap.has_eq_isSome]
  generalize tasks.get? id = a at hrel
  generalize tasks'.get? id = b at hrel
  cases hrel <;> rfl

theorem trans (h : tasks.Rewires tasks') (h' : tasks'.Rewires tasks'') : tasks.Rewires tasks'' := by
  intro id
  cases ht : tasks.get? id with
  | none =>
    have hnone : tasks''.get? id = none := by
      rw [TaskMap.get?_eq_none_iff, h'.has_eq, h.has_eq, ← TaskMap.get?_eq_none_iff, ht]
    rw [hnone]
    exact .none
  | some t =>
    obtain ⟨t', ht', hr⟩ := h.get?_of_some ht
    obtain ⟨t'', ht'', hr'⟩ := h'.get?_of_some ht'
    rw [ht'']
    exact .some (hr.trans hr')

/-- A function on tasks that rewires each of them rewires the set. -/
theorem map (tasks : TaskMap) (f : Task → Task) (hf : ∀ t : Task, t.Rewired (f t))
    (hkey : ∀ t, Keyed.key (f t) = Keyed.key t) : tasks.Rewires (tasks.map f hkey) := by
  intro id
  rw [TaskMap.get?_map]
  cases tasks.get? id with
  | none => exact .none
  | some t => exact .some (hf t)

end TaskMap.Rewires

namespace Graph

variable {tasks tasks' : TaskMap} {source target : TaskId} {now : Instant}

theorem rewires_addEdge (tasks : TaskMap) (source target : TaskId) (now : Instant) :
    tasks.Rewires (addEdge tasks source target now) := by
  apply TaskMap.Rewires.map
  intro t
  unfold withHalf
  split
  · exact .of_flows t t.inflows (t.outflows.add target) now
  · split
    · exact .of_flows t (t.inflows.add source) t.outflows now
    · exact .refl t

theorem rewires_link (h : link tasks source target now = .ok tasks') : tasks.Rewires tasks' := by
  rcases link_eq_ok_iff.mp h with ⟨-, rfl⟩ | ⟨-, -, rfl⟩
  · exact .refl _
  · exact rewires_addEdge tasks source target now

theorem rewired_renamed (old new : TaskId) (now : Instant) (t : Task) :
    t.Rewired (renamed old new now t) := by
  unfold renamed
  split
  · exact .of_flows t _ _ now
  · exact .refl t

theorem rewires_rename (tasks : TaskMap) (old new : TaskId) (now : Instant) :
    tasks.Rewires (rename tasks old new now) :=
  .map tasks _ (rewired_renamed old new now) _

end Graph

end TaskPipeline
