import TaskPipeline.Engine.Structure

/-!
# Which tasks allow a change

The checks before a change said through stage and status, and where a change puts a task.
-/

namespace TaskPipeline.Task

variable {t : Task}

/-- Only pending and inbox tasks are moved to staging. -/
theorem canStage_eq_ok_iff : t.canStage = .ok () ↔ t.stage = .pending ∨ t.stage = .inbox := by
  unfold canStage refuse
  cases t.stage <;> simp

/-- Only pending and staging tasks are started, and only if work is neither under way nor over. -/
theorem canStart_eq_ok_iff : t.canStart = .ok () ↔
    (t.stage = .pending ∨ t.stage = .staging) ∧
      t.status ≠ .inProgress ∧ t.status ≠ .completed ∧ t.status ≠ .cancelled := by
  unfold canStart refuse
  cases t.stage <;> cases t.status <;> simp

theorem canStop_eq_ok_iff :
    t.canStop = .ok () ↔ t.stage = .active ∧ t.schedule.hasOpenInterval = true := by
  unfold canStop refuse
  by_cases hs : t.stage = .active
  · cases ho : t.schedule.hasOpenInterval <;> simp [hs]
  · simp [hs]

theorem canComplete_eq_ok_iff :
    t.canComplete = .ok () ↔ t.stage = .active ∧ t.schedule.hasOpenInterval = true := by
  unfold canComplete refuse
  by_cases hs : t.stage = .active
  · cases ho : t.schedule.hasOpenInterval <;> simp [hs]
  · simp [hs]

theorem stage_of_canStage (h : t.canStage = .ok ()) : t.stage ≠ .active := by
  have hstage := canStage_eq_ok_iff.mp h
  intro hactive
  simp [hactive] at hstage

theorem stage_of_canStart (h : t.canStart = .ok ()) : t.stage ≠ .active := by
  have hstage := (canStart_eq_ok_iff.mp h).1
  intro hactive
  simp [hactive] at hstage

theorem stage_staged (t : Task) (now : Instant) (location : List String) (points : List Point)
    (tags : Tags) : (t.staged now location points tags).stage = .staging := rfl

theorem status_staged (t : Task) (now : Instant) (location : List String) (points : List Point)
    (tags : Tags) : (t.staged now location points tags).status = t.status := by
  unfold staged
  cases tags.isEmpty <;> rfl

theorem schedule_staged (t : Task) (now : Instant) (location : List String) (points : List Point)
    (tags : Tags) : (t.staged now location points tags).schedule = t.schedule := by
  unfold staged
  cases tags.isEmpty <;> rfl

theorem stage_settled (t : Task) (now : Instant) (zeroIsComplete : Bool) :
    (t.settled now zeroIsComplete).stage = .archived ∨
      (t.settled now zeroIsComplete).stage = .staging := by
  unfold settled
  split
  · exact .inl rfl
  · exact .inr rfl

/-- A task passes the check of its inflows iff all of them are there and completed. -/
theorem checkInflows_eq_ok_iff {tasks : TaskMap} {ids : List TaskId} :
    t.checkInflows tasks ids = .ok () ↔
      ∀ id ∈ ids, ∃ p, tasks.get? id = some p ∧ p.status = .completed := by
  induction ids with
  | nil => simp [checkInflows]
  | cons id ids ih =>
    unfold checkInflows
    rw [List.forall_mem_cons, ← ih]
    cases tasks.get? id with
    | none => simp
    | some p => by_cases hp : p.status = .completed <;> simp [Status.isComplete, hp]

end TaskPipeline.Task

namespace TaskPipeline.TaskMap

variable {tasks : TaskMap} {task : Task} {parts maxInbox : Nat}

/-- A task can be split unless it is active, or in an inbox without room for the parts. -/
theorem checkSplit_eq_ok_iff : tasks.checkSplit task parts maxInbox = .ok () ↔
    task.stage ≠ .active ∧
      (task.stage = .inbox → (tasks.remove task.id).inboxCount + parts ≤ maxInbox) := by
  unfold checkSplit
  by_cases hactive : task.stage = .active
  · simp [hactive]
  · by_cases hinbox : task.stage = .inbox
    · simp [hinbox]
    · simp [hactive, hinbox]

end TaskPipeline.TaskMap
