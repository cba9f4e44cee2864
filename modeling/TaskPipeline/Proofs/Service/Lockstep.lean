import TaskPipeline.Proofs.Service.OpenWork
import TaskPipeline.Proofs.Service.Serial
import TaskPipeline.Proofs.Service.WorkDone

/-!
# Stage, status and open work

The engine keeps stage, status and work intervals in lockstep: the stage says which status a task
has (`Stage.status?`), and a task has one open work interval if it is active and none otherwise.
The open interval need not be the last one, since a merge appends to the work of the task that
remains; so the intervals are counted (`Schedule.openCount`), wherever they stand in the list.

An edit that finds all tasks in step leaves them in step (`Operation.Origin.inStep`).  So tasks are
in step in every state that is reached from a store without tasks, by one engine or by many at the
same time that use no identifier of a deleted task again (`inStep_of_runs`).
-/

namespace TaskPipeline

/-- The status of the tasks in a stage; no task that the engine has made is pending. -/
def Stage.status? : Stage → Option Status
  | pending => none
  | inbox | staging => some .todo
  | active => some .inProgress
  | archived => some .completed

/-! ### Open intervals -/

namespace Schedule

variable {s s' : Schedule} {now : Instant} {points : List Point}

/-- The number of open intervals, wherever they stand. -/
def openCount (s : Schedule) : Nat := s.intervals.countP (·.isOpen)

theorem openCount_openInterval (s : Schedule) (now : Instant) :
    (s.openInterval now).openCount = s.openCount + 1 := by
  unfold openInterval openCount
  simp [List.countP_append, WorkInterval.opened, WorkInterval.isOpen]

theorem openCount_closeInterval (h : s.closeInterval? now points = some s') :
    s.openCount = s'.openCount + 1 := by
  obtain ⟨work, last, hwork, hopen, rfl⟩ := closeInterval?_eq_some_iff.mp h
  have hclosed : (last.close now points).isOpen = false := rfl
  unfold openCount
  dsimp only
  rw [hwork, List.countP_append, List.countP_append]
  simp [hopen, hclosed]

/-- Work that has ended is not open, so there is no more open work with it than without it. -/
theorem openCount_append (due due' : Option Instant) (intervals work : List WorkInterval)
    (now : Instant) :
    openCount ⟨due, intervals ++ work.map (·.closeIfOpen now)⟩ = openCount ⟨due', intervals⟩ := by
  unfold openCount
  rw [List.countP_append, List.countP_map]
  simp [Function.comp_def, WorkInterval.isOpen_closeIfOpen]

end Schedule

/-! ### Tasks in step -/

namespace Task

variable {t t' : Task}

/-- Stage, status and open work of a task go together. -/
structure InStep (t : Task) : Prop where
  /-- A task that waits is still to be done. -/
  waiting : t.stage = .inbox ∨ t.stage = .staging → t.status = .todo
  /-- An active task is under way, with one open work interval. -/
  active : t.stage = .active → t.status = .inProgress ∧ t.schedule.openCount = 1
  /-- An archived task is completed. -/
  archived : t.stage = .archived → t.status = .completed
  /-- The task is not pending. -/
  notPending : t.stage ≠ .pending
  /-- No work is open on a task that is not active. -/
  idle : t.stage ≠ .active → ∀ i ∈ t.schedule.intervals, i.isOpen = false

/-- Being in step is a matter of the status and of the number of open intervals. -/
theorem inStep_iff : t.InStep ↔ t.stage.status? = some t.status ∧
    t.schedule.openCount = if t.stage = .active then 1 else 0 := by
  have hidle : t.schedule.openCount = 0 ↔ ∀ i ∈ t.schedule.intervals, i.isOpen = false := by
    unfold Schedule.openCount
    simp [List.countP_eq_zero]
  constructor
  · intro h
    have hnone : t.stage ≠ .active → t.schedule.openCount = 0 := fun hne => hidle.mpr (h.idle hne)
    cases hstage : t.stage with
    | pending => exact absurd hstage h.notPending
    | inbox =>
      rw [h.waiting (.inl hstage)]
      exact ⟨rfl, hnone (by simp [hstage])⟩
    | staging =>
      rw [h.waiting (.inr hstage)]
      exact ⟨rfl, hnone (by simp [hstage])⟩
    | active =>
      rw [(h.active hstage).1]
      exact ⟨rfl, (h.active hstage).2⟩
    | archived =>
      rw [h.archived hstage]
      exact ⟨rfl, hnone (by simp [hstage])⟩
  · rintro ⟨hstatus, hcount⟩
    refine ⟨?_, ?_, ?_, ?_, fun hne => hidle.mp (by rw [hcount, if_neg hne])⟩
    · rintro (hstage | hstage) <;> simpa [hstage, Stage.status?, eq_comm] using hstatus
    · intro hstage
      rw [hstage] at hstatus hcount
      exact ⟨(Option.some.inj hstatus).symm, hcount⟩
    · intro hstage
      simpa [hstage, Stage.status?, eq_comm] using hstatus
    · intro hstage
      simp [hstage, Stage.status?] at hstatus

theorem InStep.congr (h : t.InStep) (hstage : t'.stage = t.stage) (hstatus : t'.status = t.status)
    (hcount : t'.schedule.openCount = t.schedule.openCount) : t'.InStep := by
  rw [inStep_iff] at h ⊢
  rw [hstage, hstatus, hcount]
  exact h

theorem Rewired.inStep (hr : t.Rewired t') (h : t.InStep) : t'.InStep := by
  rw [hr]
  exact h.congr rfl rfl rfl

theorem InStep.staged (h : t.InStep) (hcan : t.canStage = .ok ()) (now : Instant)
    (location : List String) (points : List Point) (tags : Tags) :
    (t.staged now location points tags).InStep := by
  -- it comes from the inbox, so it is still to be done and nobody works on it
  have hinbox : t.stage = .inbox := (canStage_eq_ok_iff.mp hcan).resolve_left h.notPending
  have hcount := (inStep_iff.mp h).2
  rw [if_neg (by simp [hinbox])] at hcount
  refine inStep_iff.mpr ⟨?_, ?_⟩
  · rw [status_staged, h.waiting (.inl hinbox)]
    rfl
  · rw [schedule_staged, hcount]
    rfl

theorem InStep.started (h : t.InStep) (hcan : t.canStart = .ok ()) (now : Instant) :
    (t.started now).InStep := by
  have hstage : t.stage ≠ .active := stage_of_canStart hcan
  have hcount := (inStep_iff.mp h).2
  rw [if_neg hstage] at hcount
  refine inStep_iff.mpr ⟨rfl, ?_⟩
  show (t.schedule.openInterval now).openCount = 1
  rw [Schedule.openCount_openInterval, hcount]

/-- Ending the work on an active task leaves no open interval. -/
theorem InStep.openCount_closeInterval {now : Instant} {points : List Point} (h : t.InStep)
    (hactive : t.stage = .active) (hclose : t.closeInterval? now points = some t') :
    t'.schedule.openCount = 0 := by
  obtain ⟨s, hs, rfl⟩ := Operation.keeps_closeInterval hclose
  have hone := (h.active hactive).2
  have hremoved := Schedule.openCount_closeInterval hs
  show s.openCount = 0
  omega

theorem inStep_settled (h : t.schedule.openCount = 0) (now : Instant) (zeroIsComplete : Bool) :
    (t.settled now zeroIsComplete).InStep := by
  unfold settled
  split
  · exact inStep_iff.mpr ⟨rfl, h⟩
  · exact inStep_iff.mpr ⟨rfl, h⟩

theorem InStep.absorb (h : t.InStep) (s : Task) (now : Instant) (collision : TagCollision) :
    (t.absorb s now collision).InStep :=
  h.congr rfl rfl (Schedule.openCount_append _ _ _ _ _)

end Task

namespace Operation

variable {policy : Policy} {op : Operation} {ambient : Ambient} {tasks : TaskMap}
  {created : List TaskId} {u : Task}

/-- **Every edit keeps tasks in step.** -/
theorem Origin.inStep (h : Origin policy ambient tasks created op u)
    (hall : ∀ id t, tasks.get? id = some t → t.InStep) : u.InStep := by
  cases h with
  | kept ht hr => exact hr.inStep (hall _ _ ht)
  | changed ht hchange =>
    have hstep := hall _ _ ht
    cases hchange with
    | staged hcan => exact hstep.staged hcan _ _ _ _
    | started hcan _ => exact hstep.started hcan _
    | stopped hcan hclose =>
      have hactive := (Task.canStop_eq_ok_iff.mp hcan).1
      exact Task.inStep_settled (hstep.openCount_closeInterval hactive hclose) _ _
    | completed hcan hclose =>
      have hactive := (Task.canComplete_eq_ok_iff.mp hcan).1
      have hcount := hstep.openCount_closeInterval hactive hclose
      exact Task.inStep_iff.mpr ⟨rfl, hcount⟩
    | tagged => exact hstep.congr rfl rfl rfl
    | dueSet => exact hstep.congr rfl rfl rfl
    | eventRecorded => exact hstep.congr rfl rfl rfl
  | @stagedBehind t t₁ o _ points tags ht hcan _ hr =>
    have hcan₁ : t₁.canStage = .ok () := hr.canStage_eq.trans hcan
    exact (hr.inStep (hall _ _ ht)).staged hcan₁ _ _ _ _
  | added _ => exact Task.inStep_iff.mpr ⟨rfl, rfl⟩
  | absorbed _ ht _ hr => exact hr.inStep ((hall _ _ ht).absorb _ _ _)
  | @part task p _ names descriptions htask hcheck hp hr _ =>
    -- the whole was not active; its parts have its status, and no work at all
    obtain ⟨-, -, hstage, hschedule⟩ := parts_spec hp
    have hnot : p.stage ≠ .active := hstage ▸ (TaskMap.checkSplit_eq_ok_iff.mp hcheck).1
    refine hr.inStep (Task.inStep_iff.mpr ⟨?_, ?_⟩)
    · rw [hstage, (status_of_mem_parts hp).1]
      exact (Task.inStep_iff.mp (hall _ _ htask)).1
    · rw [hschedule, if_neg hnot]
      rfl

end Operation

/-! ### Runs -/

/-- Stage, status and open work of every task go together. -/
def TaskMap.InStep (tasks : TaskMap) : Prop := ∀ id t, tasks.get? id = some t → t.InStep

theorem TaskMap.inStep_empty : TaskMap.InStep .empty := fun _ _ h => nomatch h

/-- **A performed operation keeps tasks in step.** -/
theorem Operation.Performed.inStep {policy : Policy} {op : Operation} {ambient : Ambient}
    {store before store' : TaskMap} {edited committed : Edited}
    (hp : Performed policy op ambient store before edited committed store')
    (hargs : op.checkArguments = .ok ()) (h : store.InStep) : store'.InStep := by
  intro id t' ht'
  rcases hp.origin hargs ht' with hold | ⟨u, v, horigin, rfl⟩
  · exact h id t' hold
  · have hread : ∀ id t, before.get? id = some t → t.InStep := fun id t ht =>
      h id t (hp.upToDate id t ht)
    exact (horigin.inStep hread).congr rfl rfl rfl

theorem Turn.inStep {tasks : TaskMap} (turn : Turn) (h : tasks.InStep) :
    (turn.after tasks).InStep := by
  rcases turn.outcome_cases tasks with ⟨e, -, heq⟩ | ⟨n, before, edited, committed, hargs, hp, -⟩
  · rw [heq]
    exact h
  · exact hp.inStep hargs h

theorem System.Run.inStep {start sys : System} {log : List Write} (hrun : Run start log sys)
    (hempty : start.shared.tasks = .empty) (hidle : ∀ i, start.sessions i = none)
    (hlog : NoneReturns start.shared.retired log)
    (hops : ∀ changes, Write.batch changes ∉ log) : sys.shared.tasks.InStep := by
  have hv : start.shared.Versioned := fun id t ht => by
    rw [hempty] at ht
    cases ht
  induction hrun with
  | nil =>
    rw [hempty]
    exact TaskMap.inStep_empty
  | @snoc log sys sys' w hrun hstep ih =>
    have hsys := ih hlog.of_append fun changes hmem => hops changes (List.mem_append_left _ hmem)
    cases w with
    | none =>
      rw [hstep.shared_eq]
      exact hsys
    | some w =>
      cases w with
      | operation i s =>
        rcases (hrun.inv hv hidle hlog.of_append).performed (hrun.isNew hlog) hstep with
          hsame | ⟨n, before, edited, committed, hargs, hp⟩
        · rw [hsame]
          exact hsys
        · exact hp.inStep hargs hsys
      | batch changes => exact absurd (List.mem_append_right _ List.mem_cons_self) (hops changes)

/-- **Stage, status and open work move in lockstep.**  A turn leaves tasks in step that were so
before, and from a store without tasks every run leads to tasks in step: the turns of one engine,
and the operations of any number of engines that share the store and interleave call by call, if no
identifier of a deleted task is used again. -/
theorem inStep_of_runs :
    (∀ (tasks : TaskMap) (turn : Turn), tasks.InStep → (turn.after tasks).InStep) ∧
      (∀ turns : List Turn, (replay .empty turns).InStep) ∧
      ∀ (start sys : System) (log : List Write), start.shared.tasks = .empty →
        (∀ i, start.sessions i = none) → System.Run start log sys →
        NoneReturns start.shared.retired log → (∀ changes, Write.batch changes ∉ log) →
        sys.shared.tasks.InStep :=
  ⟨fun _ turn h => turn.inStep h,
    replay_induction TaskMap.inStep_empty fun _ turn h => turn.inStep h,
    fun _ _ _ hempty hidle hrun hlog hops => hrun.inStep hempty hidle hlog hops⟩

theorem Sample.inStep_working : Sample.working.InStep := by
  intro id t ht
  have hall : ∀ t ∈ Sample.working.toList, t.stage.status? = some t.status ∧
      t.schedule.openCount = if t.stage = .active then 1 else 0 := by decide
  exact Task.inStep_iff.mpr (hall t (TaskMap.mem_of_get? ht))

/-- Two active tasks are merged: the last interval of the task that remains is closed, and yet it
has one open interval.  The tasks that two engines create at the same time are in step. -/
theorem inStep_of_merging : Sample.working.InStep ∧
    (∃ t, (Sample.merging.after Sample.working).get? Sample.second = some t ∧ t.stage = .active ∧
      t.schedule.hasOpenInterval = false ∧ t.schedule.openCount = 1) ∧
    Sample.raced.2.shared.tasks.InStep := by
  refine ⟨Sample.inStep_working, ?_, ?_⟩
  · have hview : ((Sample.merging.after Sample.working).get? Sample.second).map
        (fun t => (t.stage, t.schedule.hasOpenInterval)) = some (.active, false) := by cbv
    obtain ⟨t, ht, hstage⟩ := Option.map_eq_some_iff.mp hview
    injection hstage with hactive hclosed
    have hmerged := inStep_of_runs.1 _ Sample.merging Sample.inStep_working
    exact ⟨t, ht, hactive, hclosed, ((hmerged _ t ht).active hactive).2⟩
  · have hraced := inStep_of_runs.2.2 Sample.idle Sample.raced.2 Sample.raced.1 rfl (fun _ => rfl)
      Sample.run_raced Sample.noneReturns_raced
    refine hraced fun changes hmem => ?_
    obtain ⟨i, s, hlog⟩ : ∃ i s, Sample.raced.1 = [.operation i s] := ⟨_, _, rfl⟩
    rw [hlog] at hmem
    have hbatch := List.mem_singleton.mp hmem
    cases hbatch

end TaskPipeline
