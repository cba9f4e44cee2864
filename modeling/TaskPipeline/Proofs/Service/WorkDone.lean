import TaskPipeline.Proofs.Service.Turn
import TaskPipeline.Proofs.Task.Absorb
import TaskPipeline.Proofs.Task.Outstanding
import TaskPipeline.Proofs.Task.Transition

/-!
# Completed work

A task becomes completed when work on it is stopped with all points done, or when it is marked
complete and everything outstanding is credited.  Either way it has completed as many points as it
declares, and it goes to the archive, where no one declares more points for it.

A merge does not look at that: the task that remains keeps its status and takes over the declared
points of the other one.  If it is completed, and the two together have declared more points than
were completed, then the merge `Turn.Overdraws`.  No other turn leaves a completed task with work
to do (`workDone_run_iff_never_overdraws`).
-/

namespace TaskPipeline

namespace Task

variable {t t' : Task}

/-- As many points were completed as were declared, if the task counts as completed. -/
def WorkDone (t : Task) : Prop := t.status = .completed → t.totalPoints ≤ t.completedPoints

/-- A completed task is archived, and its work is done. -/
def Accounted (t : Task) : Prop := t.WorkDone ∧ (t.status = .completed → t.stage = .archived)

theorem accounted_of_status (h : t.status ≠ .completed) : t.Accounted :=
  ⟨fun hc => absurd hc h, fun hc => absurd hc h⟩

theorem Rewired.accounted (hr : t.Rewired t') (h : t.Accounted) : t'.Accounted := by
  rw [hr]
  exact h

theorem Accounted.status_of_canStage (h : t.Accounted) (hcan : t.canStage = .ok ()) :
    t.status ≠ .completed := by
  intro hc
  -- it would be archived, and archived tasks are not staged
  have harchived : t.stage = .archived := h.2 hc
  have hstage := canStage_eq_ok_iff.mp hcan
  simp [harchived] at hstage

theorem accounted_settled (t : Task) (now : Instant) (zeroIsComplete : Bool) :
    (t.settled now zeroIsComplete).Accounted := by
  unfold settled
  split
  · next hcomplete =>
    refine ⟨fun _ => ?_, fun _ => rfl⟩
    show t.totalPoints ≤ t.completedPoints
    -- either the sums were compared, or there were no points at all
    unfold isComplete at hcomplete
    split at hcomplete
    · next hzero => omega
    · exact of_decide_eq_true hcomplete
  · exact accounted_of_status nofun

theorem accounted_completed {now : Instant} {text : String}
    (hclose : t.closeInterval? now t.outstanding = some t') :
    (note { t' with stage := .archived, status := .completed } now text).Accounted :=
  ⟨fun _ => (settles_closeInterval hclose).enough, fun _ => rfl⟩

end Task

namespace Operation

variable {policy : Policy} {op : Operation} {ambient : Ambient} {tasks : TaskMap}
  {created : List TaskId} {u : Task}

theorem status_of_mem_parts {p task : Task} {names descriptions : List String}
    (hp : p ∈ parts task ambient names descriptions) : p.status = task.status ∧ p.points = [] := by
  unfold parts at hp
  obtain ⟨⟨⟨name, description⟩, i⟩, -, rfl⟩ := List.mem_map.mp hp
  exact ⟨rfl, rfl⟩

/-- **How an edit can leave a completed task with work to do**: by merging into it. -/
theorem Origin.accounted (h : Origin policy ambient tasks created op u)
    (hall : ∀ id t, tasks.get? id = some t → t.Accounted) :
    u.Accounted ∨ ∃ source s t, op = .merge source u.id ∧ tasks.get? source = some s ∧
      tasks.get? u.id = some t ∧ t.status = .completed ∧
      t.completedPoints + s.completedPoints < t.totalPoints + s.totalPoints := by
  cases h with
  | kept ht hr => exact .inl (hr.accounted (hall _ _ ht))
  | changed ht hchange =>
    have haccounted := hall _ _ ht
    cases hchange with
    | staged hcan =>
      refine .inl (Task.accounted_of_status ?_)
      rw [Task.status_staged]
      exact haccounted.status_of_canStage hcan
    | started _ _ => exact .inl (Task.accounted_of_status nofun)
    | stopped _ _ => exact .inl (Task.accounted_settled _ _ _)
    | completed _ hclose => exact .inl (Task.accounted_completed hclose)
    | tagged => exact .inl haccounted
    | dueSet => exact .inl haccounted
    | eventRecorded => exact .inl haccounted
  | @stagedBehind t t₁ o _ points tags ht hcan _ hr =>
    refine .inl (Task.accounted_of_status ?_)
    rw [Task.status_staged, show t₁.status = t.status by rw [hr]]
    exact (hall _ _ ht).status_of_canStage hcan
  | added _ => exact .inl (Task.accounted_of_status nofun)
  | @absorbed source s t _ hs ht hne hr =>
    have hid : u.id = t.id := hr.id_eq
    have haccounted := hall _ _ ht
    -- the task that remains keeps its status, and gets the points of both
    rw [hid]
    by_cases hover : t.status = .completed ∧
        t.completedPoints + s.completedPoints < t.totalPoints + s.totalPoints
    · exact .inr ⟨source, s, t, rfl, hs, ht, hover⟩
    · refine .inl (hr.accounted ⟨fun hc => ?_, haccounted.2⟩)
      rw [(Task.unites_absorb _ _ _ _).totalPoints, (Task.unites_absorb _ _ _ _).completedPoints]
      exact Nat.le_of_not_lt fun hlt => hover ⟨hc, hlt⟩
  | @part task p _ names descriptions htask _ hp hr _ =>
    -- it declares no points of its own, and is as completed and as archived as the whole
    obtain ⟨hstatus, hpoints⟩ := status_of_mem_parts hp
    refine .inl (hr.accounted ⟨fun _ => ?_, fun hc => ?_⟩)
    · unfold Task.totalPoints
      rw [hpoints]
      exact Nat.zero_le _
    · rw [(parts_spec hp).2.2.1]
      exact (hall _ _ htask).2 (hstatus ▸ hc)

end Operation

/-! ### Turns -/

variable {tasks : TaskMap} {turn : Turn}

/-- The declared work of every completed task is done. -/
def TaskMap.WorkDone (tasks : TaskMap) : Prop := ∀ id t, tasks.get? id = some t → t.WorkDone

/-- Every completed task is archived, and its declared work is done. -/
def TaskMap.Accounted (tasks : TaskMap) : Prop := ∀ id t, tasks.get? id = some t → t.Accounted

theorem TaskMap.accounted_empty : TaskMap.Accounted .empty := fun _ _ h => nomatch h

theorem TaskMap.Accounted.workDone (h : tasks.Accounted) : tasks.WorkDone :=
  fun id t ht => (h id t ht).1

/-- The turn merges a task into a completed one, the two have declared more points than were
completed, and the merge succeeds. -/
def Turn.Overdraws (turn : Turn) (tasks : TaskMap) : Prop :=
  ∃ source target s t r, turn.op = .merge source target ∧ tasks.get? source = some s ∧
    tasks.get? target = some t ∧ t.status = .completed ∧
    t.completedPoints + s.completedPoints < t.totalPoints + s.totalPoints ∧
    turn.outcome tasks = .ok r

/-- **A turn that does not overdraw keeps the accounts**, whether it succeeds or fails. -/
theorem TaskMap.Accounted.after (h : tasks.Accounted) (hnot : ¬ turn.Overdraws tasks) :
    (turn.after tasks).Accounted := by
  intro id t' ht'
  rcases turn.outcome_cases tasks with ⟨e, -, heq⟩ |
    ⟨n, before, edited, committed, hargs, hp, houtcome⟩
  · exact h id t' (heq ▸ ht')
  · rcases hp.origin hargs ht' with hold | ⟨u, v, horigin, rfl⟩
    · exact h id t' hold
    · have hread : ∀ id t, before.get? id = some t → t.Accounted := fun id t ht =>
        h id t (hp.upToDate id t ht)
      rcases horigin.accounted hread with haccounted | ⟨source, s, t, hop, hs, ht, hstatus, hlt⟩
      · exact haccounted
      · obtain ⟨r, hr⟩ := Turn.exists_outcome_of_merge hop hargs hp houtcome
        exact absurd ⟨source, u.id, s, t, r, hop, hp.upToDate _ s hs, hp.upToDate _ t ht, hstatus,
          hlt, hr⟩ hnot

/-- A turn that overdraws leaves a completed task with work to do. -/
theorem Turn.Overdraws.not_workDone (h : turn.Overdraws tasks) :
    ¬ (turn.after tasks).WorkDone := by
  obtain ⟨source, target, s, t, r, hop, hs, ht, hstatus, hlt, hr⟩ := h
  obtain ⟨now, u, v, hrewired, hget⟩ := Turn.get?_after_merge hop hs ht hr
  intro hdone
  have hwork : u.WorkDone := hdone target { u with version := v } hget
  rw [hrewired] at hwork
  have hle : (t.absorb s now turn.setup.policy.tagCollision).totalPoints ≤
      (t.absorb s now turn.setup.policy.tagCollision).completedPoints := hwork hstatus
  rw [(Task.unites_absorb _ _ _ _).totalPoints, (Task.unites_absorb _ _ _ _).completedPoints] at hle
  omega

/-- **When completed means done.**  If every completed task is archived with its declared work
done, as in a store without tasks, then the declared work of every completed task is done in all
states of a run iff no turn of the run overdraws. -/
theorem workDone_run_iff_never_overdraws (tasks : TaskMap) (turns : List Turn)
    (h : tasks.Accounted) :
    (∀ done rest, turns = done ++ rest → (replay tasks done).WorkDone) ↔
      ∀ done turn rest, turns = done ++ turn :: rest → ¬ turn.Overdraws (replay tasks done) := by
  constructor
  · intro hrun done turn rest hturns hover
    refine hover.not_workDone ?_
    rw [← replay_concat]
    exact hrun (done ++ [turn]) rest (by rw [hturns, List.append_assoc]; rfl)
  · intro hnever done rest hturns
    exact (replay_prefix_induction (p := fun _ => TaskMap.Accounted) h
      (fun done turn rest hturns hdone => hdone.after (hnever done turn rest hturns))
      done rest hturns).workDone

namespace Sample

/-- A task with three points to do. -/
def outstanding : Task :=
  { Task.create first "first" "" user (.midnight .epoch) with points := [⟨"slides", 3⟩] }

/-- A task that was completed without any points. -/
def completed : Task :=
  { Task.create second "second" "" user (.midnight .epoch) with
    stage := .archived, status := .completed }

def finished : TaskMap := .ofList [outstanding, completed]

theorem accounted_finished : finished.Accounted := by
  intro id t ht
  have hall : ∀ t ∈ finished.toList, (t.status ≠ .completed ∨ t.totalPoints ≤ t.completedPoints) ∧
      (t.status ≠ .completed ∨ t.stage = .archived) := by decide
  obtain ⟨hwork, hstage⟩ := hall t (TaskMap.mem_of_get? ht)
  exact ⟨hwork.neg_resolve_left, hstage.neg_resolve_left⟩

theorem merging_overdraws : merging.Overdraws finished := by
  obtain ⟨r, hr⟩ : ∃ r, merging.outcome finished = .ok r := isOk_iff.mp (by cbv)
  exact ⟨first, second, outstanding, completed, r, rfl, by decide, by decide, rfl, by decide, hr⟩

end Sample

/-- Folding the task with points into the completed one leaves a completed task with work to do. -/
theorem overdrawn_after_merging : Sample.finished.Accounted ∧
    ¬ ∀ done rest, [Sample.merging] = done ++ rest → (replay Sample.finished done).WorkDone := by
  refine ⟨Sample.accounted_finished, fun hall => ?_⟩
  exact (workDone_run_iff_never_overdraws Sample.finished [Sample.merging]
    Sample.accounted_finished).mp hall [] Sample.merging [] rfl Sample.merging_overdraws

end TaskPipeline
