import TaskPipeline.Proofs.Service.Turn
import TaskPipeline.Proofs.Task.Absorb
import TaskPipeline.Proofs.Task.Transition

/-!
# Open work

An active task can be stopped or completed iff its last work interval is open; one that cannot is
`Task.Stranded`.  A merge puts the work of the task that is folded in behind the work of the task
that remains, closed: if the task that remains is active and there is such work, then the open
interval is not the last one any more.  Such a merge `Turn.Buries` open work.

Burying is the only way to strand a task, and it always does (`not_stoppable_after_iff`).  No turn
helps a stranded task; it goes away when it is merged into another one, and not otherwise
(`Task.Stranded.after`).
-/

namespace TaskPipeline

namespace Schedule

variable {s : Schedule}

theorem hasOpenInterval_openInterval (s : Schedule) (now : Instant) :
    (s.openInterval now).hasOpenInterval = true := by
  unfold hasOpenInterval openInterval
  rw [List.getLast?_concat]
  rfl

/-- Work that has ended hides the open interval before it. -/
theorem hasOpenInterval_append (due : Option Instant) (intervals : List WorkInterval)
    (work : List WorkInterval) (now : Instant) :
    hasOpenInterval ⟨due, intervals ++ work.map (·.closeIfOpen now)⟩ =
      (work.isEmpty && hasOpenInterval ⟨due, intervals⟩) := by
  unfold hasOpenInterval
  rcases List.eq_nil_or_concat work with rfl | ⟨work, last, rfl⟩
  · simp
  · rw [List.concat_eq_append, List.map_append, List.map_singleton, ← List.append_assoc,
      List.getLast?_concat, show (work ++ [last]).isEmpty = false by simp, Bool.false_and]
    exact last.isOpen_closeIfOpen now

end Schedule

namespace Task

variable {t t' : Task}

/-- An active task whose last work interval is not open. -/
def Stranded (t : Task) : Prop := t.stage = .active ∧ t.schedule.hasOpenInterval = false

theorem hasOpenInterval_started (t : Task) (now : Instant) :
    (t.started now).schedule.hasOpenInterval = true :=
  Schedule.hasOpenInterval_openInterval t.schedule now

theorem Stranded.congr (h : t.Stranded) (hstage : t'.stage = t.stage)
    (hintervals : t'.schedule.intervals = t.schedule.intervals) : t'.Stranded := by
  unfold Stranded Schedule.hasOpenInterval at h ⊢
  rw [hstage, hintervals]
  exact h

theorem Rewired.stranded (hr : t.Rewired t') (h : t.Stranded) : t'.Stranded :=
  h.congr hr.stage_eq (congrArg Schedule.intervals hr.schedule_eq)

theorem Rewired.stranded' (hr : t.Rewired t') (h : t'.Stranded) : t.Stranded :=
  h.congr hr.stage_eq.symm (congrArg Schedule.intervals hr.schedule_eq.symm)

/-- A task that absorbs another is stranded if it was, or if it is active and takes over work. -/
theorem stranded_absorb_iff (t s : Task) (now : Instant) (collision : TagCollision) :
    (t.absorb s now collision).Stranded ↔
      t.stage = .active ∧ (s.schedule.intervals ≠ [] ∨ t.Stranded) := by
  have hopen : (t.absorb s now collision).schedule.hasOpenInterval =
      (s.schedule.intervals.isEmpty && t.schedule.hasOpenInterval) :=
    Schedule.hasOpenInterval_append _ _ _ _
  unfold Stranded
  rw [hopen, show (t.absorb s now collision).stage = t.stage from rfl]
  cases s.schedule.intervals <;> simp

end Task

namespace Operation

variable {policy : Policy} {op : Operation} {ambient : Ambient} {tasks : TaskMap}
  {created : List TaskId} {t u : Task}

/-- **How an edit can strand a task**: it was stranded before, or it absorbed work while it was
active. -/
theorem Origin.of_stranded (h : Origin policy ambient tasks created op u) (hu : u.Stranded) :
    (∃ t, tasks.get? u.id = some t ∧ t.Stranded) ∨
      ∃ source s t, op = .merge source u.id ∧ tasks.get? source = some s ∧
        s.schedule.intervals ≠ [] ∧ tasks.get? u.id = some t ∧ t.stage = .active := by
  cases h with
  | kept ht hr => exact .inl ⟨_, hr.id_eq ▸ ht, hr.stranded' hu⟩
  | changed ht hchange =>
    have hid := hchange.keeps.1
    -- a change that ends in another stage, or opens an interval, strands nothing
    cases hchange with
    | staged _ => exact absurd hu.1 (by rw [Task.stage_staged]; exact nofun)
    | started _ _ => exact absurd hu.2 (by rw [Task.hasOpenInterval_started]; exact nofun)
    | stopped _ _ =>
      have hactive := hu.1
      rcases Task.stage_settled _ _ _ with hstage | hstage
      · rw [hstage] at hactive
        cases hactive
      · rw [hstage] at hactive
        cases hactive
    | completed _ _ => exact absurd hu.1 nofun
    | tagged => exact .inl ⟨_, ht, hu⟩
    | dueSet => exact .inl ⟨_, ht, hu⟩
    | eventRecorded => exact .inl ⟨_, ht, hu⟩
  | stagedBehind _ _ _ _ => exact absurd hu.1 (by rw [Task.stage_staged]; exact nofun)
  | added _ => exact absurd hu.1 nofun
  | @absorbed source s t _ hs ht hne hr =>
    have hid : u.id = t.id := hr.id_eq
    rw [hid]
    obtain ⟨hactive, hcase⟩ := (Task.stranded_absorb_iff _ _ _ _).mp (hr.stranded' hu)
    rcases hcase with hwork | hstranded
    · exact .inr ⟨source, s, t, rfl, hs, hwork, ht, hactive⟩
    · exact .inl ⟨t, ht, hstranded⟩
  | part htask hcheck hp hr _ =>
    -- an active task is not split
    have hstage := (hr.stranded' hu).1
    rw [(parts_spec hp).2.2.1] at hstage
    exact absurd hstage (TaskMap.checkSplit_eq_ok_iff.mp hcheck).1

/-- **No edit helps a stranded task.** -/
theorem Origin.stranded (h : Origin policy ambient tasks created op u)
    (ht : tasks.get? u.id = some t)
    (hstranded : t.Stranded) (hid : u.id ∉ created) : u.Stranded := by
  cases h with
  | kept ht' hr =>
    rw [hr.id_eq, ht'] at ht
    cases ht
    exact hr.stranded hstranded
  | changed ht' hchange =>
    rw [hchange.keeps.1, ht'] at ht
    cases ht
    -- the changes that could help are refused
    cases hchange with
    | staged hcan => exact absurd hstranded.1 (Task.stage_of_canStage hcan)
    | started hcan _ => exact absurd hstranded.1 (Task.stage_of_canStart hcan)
    | stopped hcan _ =>
      have hopen := (Task.canStop_eq_ok_iff.mp hcan).2
      rw [hstranded.2] at hopen
      cases hopen
    | completed hcan _ =>
      have hopen := (Task.canComplete_eq_ok_iff.mp hcan).2
      rw [hstranded.2] at hopen
      cases hopen
    | tagged => exact hstranded
    | dueSet => exact hstranded
    | eventRecorded => exact hstranded
  | @stagedBehind t' t₁ o _ points tags ht' hcan _ hr =>
    rw [(keeps_staged t₁ _ _ _ _).1, hr.id_eq, ht'] at ht
    cases ht
    exact absurd hstranded.1 (Task.stage_of_canStage hcan)
  | added hnew => exact absurd hnew hid
  | @absorbed source s t' _ hs ht' hne hr =>
    have hid' : u.id = t'.id := hr.id_eq
    rw [hid', ht'] at ht
    cases ht
    exact hr.stranded ((Task.stranded_absorb_iff _ _ _ _).mpr ⟨hstranded.1, .inr hstranded⟩)
  | part _ _ _ _ hnew => exact absurd hnew hid

end Operation

/-! ### Turns -/

variable {tasks : TaskMap} {t : Task} {turn : Turn} {id : TaskId}

/-- The turn folds a task with work into an active one, and succeeds. -/
def Turn.Buries (turn : Turn) (tasks : TaskMap) : Prop :=
  ∃ source target s t r, turn.op = .merge source target ∧ tasks.get? source = some s ∧
    s.schedule.intervals ≠ [] ∧ tasks.get? target = some t ∧ t.stage = .active ∧
    turn.outcome tasks = .ok r

/-- Every active task can be stopped and completed. -/
def TaskMap.Stoppable (tasks : TaskMap) : Prop :=
  ∀ id t, tasks.get? id = some t → t.stage = .active →
    t.canStop = .ok () ∧ t.canComplete = .ok ()

theorem TaskMap.stoppable_iff :
    tasks.Stoppable ↔ ¬ ∃ id t, tasks.get? id = some t ∧ t.Stranded := by
  constructor
  · rintro h ⟨id, t, ht, hactive, hclosed⟩
    have hopen := (Task.canStop_eq_ok_iff.mp (h id t ht hactive).1).2
    rw [hclosed] at hopen
    cases hopen
  · intro h id t ht hactive
    have hopen : t.schedule.hasOpenInterval = true := by
      by_contra hclosed
      exact h ⟨id, t, ht, hactive, Bool.eq_false_iff.mpr hclosed⟩
    exact ⟨Task.canStop_eq_ok_iff.mpr ⟨hactive, hopen⟩,
      Task.canComplete_eq_ok_iff.mpr ⟨hactive, hopen⟩⟩

/-- An active task is not split. -/
theorem not_split_of_stranded {policy : Policy} {ambient : Ambient} {edited : Operation.Edited}
    {names descriptions : List String} (ht : tasks.get? id = some t) (h : t.Stranded) :
    ¬ Operation.Edits policy ambient tasks (.split id names descriptions) edited := by
  intro hedits
  obtain ⟨task, htask, hcheck, -⟩ := hedits.of_split
  rw [ht] at htask
  cases htask
  exact (TaskMap.checkSplit_eq_ok_iff.mp hcheck).1 h.1

/-- **A stranded task stays stranded**, whatever is done, unless it is merged into another one. -/
theorem Task.Stranded.after (h : t.Stranded) (ht : tasks.get? id = some t) (turn : Turn) :
    (∃ target, turn.op = .merge id target) ∨
      ∃ t', (turn.after tasks).get? id = some t' ∧ t'.Stranded := by
  rcases turn.outcome_cases tasks with ⟨e, -, heq⟩ | ⟨n, before, edited, committed, hargs, hp, -⟩
  · exact .inr ⟨t, by rw [heq, ht], h⟩
  · rcases hp.fate hargs ht with hsame | ⟨hread, ⟨u, v, horigin, hid, hnew, hget⟩ | ⟨-, hgone⟩⟩
    · exact .inr ⟨t, hsame, h⟩
    · exact .inr ⟨_, hget, horigin.stranded (hid ▸ hread) h (hid ▸ hnew)⟩
    · rcases hgone with hmerge | ⟨names, descriptions, hsplit⟩
      · exact .inl hmerge
      · have hedits := Operation.edits_of_edit hp.edits
        rw [hsplit] at hedits
        exact absurd hedits (not_split_of_stranded hread h)

/-- A turn that strands a task buries open work. -/
theorem buries_of_not_stoppable (h : tasks.Stoppable) (hafter : ¬ (turn.after tasks).Stoppable) :
    turn.Buries tasks := by
  rw [TaskMap.stoppable_iff] at h hafter
  obtain ⟨id, t', ht', hstranded⟩ := not_not.mp hafter
  rcases turn.outcome_cases tasks with ⟨e, -, heq⟩ |
    ⟨n, before, edited, committed, hargs, hp, houtcome⟩
  · exact absurd ⟨id, t', heq ▸ ht', hstranded⟩ h
  · -- the stranded task was not stored before, so the edit has made it what it is
    rcases hp.origin hargs ht' with hold | ⟨u, v, horigin, rfl⟩
    · exact absurd ⟨id, t', hold, hstranded⟩ h
    · rcases horigin.of_stranded hstranded with ⟨t, ht, hold⟩ |
        ⟨source, s, t, hop, hs, hwork, ht, hactive⟩
      · exact absurd ⟨u.id, t, hp.upToDate _ t ht, hold⟩ h
      · obtain ⟨r, hr⟩ := Turn.exists_outcome_of_merge hop hargs hp houtcome
        exact ⟨source, u.id, s, t, r, hop, hp.upToDate _ s hs, hwork, hp.upToDate _ t ht, hactive,
          hr⟩

/-- A turn that buries open work strands a task. -/
theorem not_stoppable_of_buries (h : turn.Buries tasks) : ¬ (turn.after tasks).Stoppable := by
  rw [TaskMap.stoppable_iff, not_not]
  obtain ⟨source, target, s, t, r, hop, hs, hwork, ht, hactive, hr⟩ := h
  obtain ⟨now, u, v, hrewired, hget⟩ := Turn.get?_after_merge hop hs ht hr
  have hstranded : u.Stranded :=
    hrewired.stranded ((Task.stranded_absorb_iff _ _ _ _).mpr ⟨hactive, .inl hwork⟩)
  exact ⟨target, { u with version := v }, hget, hstranded⟩

/-- **Burying open work is the only way to strand a task**, and it always does. -/
theorem not_stoppable_after_iff (h : tasks.Stoppable) (turn : Turn) :
    ¬ (turn.after tasks).Stoppable ↔ turn.Buries tasks :=
  ⟨buries_of_not_stoppable h, not_stoppable_of_buries⟩

/-- **When every active task can be stopped**: in all states of a run iff no turn of it buries open
work; and whatever is done after the run, a task that is stranded stays so until it is merged into
another. -/
theorem stoppable_run_iff_never_buries (tasks : TaskMap) (turns : List Turn)
    (h : tasks.Stoppable) :
    ((∀ done rest, turns = done ++ rest → (replay tasks done).Stoppable) ↔
      ∀ done turn rest, turns = done ++ turn :: rest → ¬ turn.Buries (replay tasks done)) ∧
    ∀ (turn : Turn) (id : TaskId) (t : Task),
      (replay tasks turns).get? id = some t → t.Stranded →
        (∃ target, turn.op = .merge id target) ∨
          ∃ t', (turn.after (replay tasks turns)).get? id = some t' ∧ t'.Stranded := by
  refine ⟨⟨fun hrun done turn rest hturns => ?_, fun hrun done => ?_⟩,
    fun turn _ _ ht hstranded => hstranded.after ht turn⟩
  · have hdone := hrun done (turn :: rest) hturns
    rw [← not_stoppable_after_iff hdone, not_not, ← replay_concat]
    exact hrun (done ++ [turn]) rest (by rw [hturns, List.append_assoc]; rfl)
  · induction done using List.reverseRecOn with
    | nil => exact fun _ _ => h
    | append_singleton done turn ih =>
      intro rest hturns
      rw [List.append_assoc] at hturns
      have hdone := ih ([turn] ++ rest) hturns
      rw [replay_concat]
      by_contra hnot
      exact hrun done turn rest hturns ((not_stoppable_after_iff hdone turn).mp hnot)

namespace Sample

/-- Both tasks are worked on. -/
def working : TaskMap :=
  .ofList [(Task.create first "first" "" user (.midnight .epoch)).started (.midnight .epoch),
    (Task.create second "second" "" user (.midnight .epoch)).started (.midnight .epoch)]

/-- Work on the second task is to be stopped. -/
def stopping : Turn := .plain (ambient first) (.stop second [])

theorem stoppable_working : working.Stoppable := by
  intro id t ht _
  have hall : ∀ t ∈ working.toList, t.canStop = .ok () ∧ t.canComplete = .ok () := by decide
  exact hall t (TaskMap.mem_of_get? ht)

theorem merging_buries : merging.Buries working := by
  obtain ⟨r, hr⟩ : ∃ r, merging.outcome working = .ok r := isOk_iff.mp (by cbv)
  exact ⟨first, second, _, _, r, rfl, rfl, by decide, rfl, rfl, hr⟩

end Sample

/-- Two tasks are worked on; the merge strands the one that remains, and it cannot be stopped. -/
theorem stranded_after_merging : Sample.working.Stoppable ∧
    ¬ (∀ done rest, [Sample.merging] = done ++ rest → (replay Sample.working done).Stoppable) ∧
      ∃ t, (Sample.stopping.after (Sample.merging.after Sample.working)).get? Sample.second = some t ∧
        t.Stranded := by
  have hrun := stoppable_run_iff_never_buries Sample.working [Sample.merging] Sample.stoppable_working
  refine ⟨Sample.stoppable_working, fun hall => ?_, ?_⟩
  · exact hrun.1.mp hall [] Sample.merging [] rfl Sample.merging_buries
  · have hview : ((Sample.merging.after Sample.working).get? Sample.second).map
        (fun t => (t.stage, t.schedule.hasOpenInterval)) = some (.active, false) := by cbv
    obtain ⟨t, ht, hstage⟩ := Option.map_eq_some_iff.mp hview
    injection hstage with hactive hclosed
    rcases hrun.2 Sample.stopping Sample.second t ht ⟨hactive, hclosed⟩ with ⟨target, hmerge⟩ | hstranded
    · cases hmerge
    · exact hstranded

end TaskPipeline
