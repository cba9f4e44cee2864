import TaskPipeline.Proofs.Service.Turn
import TaskPipeline.Proofs.Task.Outstanding

/-!
# Forced completion

Marking a task complete credits exactly what is missing: the points that are outstanding are what
was declared minus what was completed, title by title, and a task whose last interval is closed with
them has nothing left to do (`forced_completion_exact`).  That is the task which the operation
stores and returns; the note, the new stage and status and the version do not touch the accounts.
-/

namespace TaskPipeline

open Operation

variable {tasks : TaskMap} {id : TaskId}

/-- A forced completion that succeeds has closed the last interval with everything outstanding. -/
theorem Operation.edit_complete {policy : Policy} {ambient : Ambient} {edited : Edited}
    (h : (Operation.complete id).edit policy ambient tasks = .ok edited) :
    ∃ t t', tasks.get? id = some t ∧ t.closeInterval? (ambient.now 0) t.outstanding = some t' ∧
      edited.1.get? id = some (Task.note { t' with stage := .archived, status := .completed }
        (ambient.now 0) "Marked complete") ∧ edited.2 = [id] := by
  simp only [edit, editComplete, editTask_eq_ok_iff, bind_eq_ok_iff, refusing_eq_ok_iff,
    Task.completed?] at h
  obtain ⟨t, u, ht, ⟨-, -, hu⟩, rfl⟩ := h
  split at hu
  · cases hu
  · next t' hclose =>
    cases hu
    -- the identifier stays the same, so the task takes its own place
    have hid : t'.id = id := by
      rw [← TaskMap.id_of_get? ht]
      obtain ⟨s, -, rfl⟩ := keeps_closeInterval hclose
      rfl
    refine ⟨t, t', ht, hclose, ?_, rfl⟩
    rw [TaskMap.get?_insert]
    exact if_pos hid

/-- A turn that marks a task complete stores and returns the settled task. -/
theorem Turn.settles_of_complete {turn : Turn} {t : Task} {results : List Task} {jobs : List Job}
    (hop : turn.op = .complete id) (ht : tasks.get? id = some t)
    (hok : turn.outcome tasks = .ok (results, jobs)) :
    ∃ t', results = [t'] ∧ (turn.after tasks).get? id = some t' ∧ t.Settles t' := by
  obtain ⟨n, before, edited, committed, hargs, hp, hanswer⟩ := performed_of_ok hok
  rw [hop] at hp hargs
  obtain ⟨t₀, u, ht₀, hclose, hu, hone⟩ := edit_complete hp.edits
  -- what was read is what the store holds
  obtain rfl : t₀ = t := Option.some.inj ((hp.upToDate id t₀ ht₀).symm.trans ht)
  obtain ⟨t', hresults, hstored⟩ := result_of_answer hargs rfl hp hone hanswer
  obtain ⟨v, hget⟩ := hp.get?_of_edited hargs rfl hu
  obtain rfl := Option.some.inj (hget.symm.trans hstored)
  exact ⟨_, hresults, hget, { Task.settles_closeInterval hclose with }⟩

/-- **Forced completion credits exactly what is missing.**  The outstanding points of any task are
what is missing of the declared ones.  If work on the task goes on, it can be ended with them as
credit, and then the task is settled.  That is how a turn leaves a task that it marks complete. -/
theorem forced_completion_exact (t : Task) :
    t.Missing t.outstanding ∧
    (t.schedule.hasOpenInterval = true → ∀ now, ∃ t',
      t.closeInterval? now t.outstanding = some t' ∧ t.Settles t') ∧
    ∀ (turn : Turn) (tasks : TaskMap) (results : List Task) (jobs : List Job),
      turn.op = .complete t.id → tasks.get? t.id = some t →
      turn.outcome tasks = .ok (results, jobs) →
      ∃ t', results = [t'] ∧ (turn.after tasks).get? t.id = some t' ∧ t.Settles t' := by
  refine ⟨t.missing_outstanding, fun hopen now => ?_,
    fun turn tasks results jobs hop ht hok => Turn.settles_of_complete hop ht hok⟩
  obtain ⟨t', hclose⟩ := Task.exists_closeInterval hopen now t.outstanding
  exact ⟨t', hclose, Task.settles_closeInterval hclose⟩

namespace Sample

/-- A task that declares one title twice.  Under a title that it does not declare, more was done
than is missing. -/
def talk : Task :=
  { Task.create first "talk" "" user .epoch with
    stage := .active
    points := [⟨"slides", 2⟩, ⟨"demo", 0⟩, ⟨"slides", 3⟩]
    schedule := ⟨none, [⟨.epoch, some .epoch, [⟨"slides", 1⟩, ⟨"travel", 4⟩]⟩, ⟨.epoch, none, []⟩]⟩ }

/-- The talk alone. -/
def agenda : TaskMap := .ofList [talk]

/-- The talk is marked complete. -/
def finishing : Turn := .plain (ambient second) (.complete first)

end Sample

example : Sample.talk.outstanding = [⟨"slides", 1⟩, ⟨"slides", 3⟩] := by decide

/-- The travel does not count for the slides, so more is completed in the end than was declared. -/
theorem travel_does_not_count :
    (∃ t', Sample.talk.closeInterval? .epoch Sample.talk.outstanding = some t' ∧
      t'.outstanding = []) ∧
    ∃ t', (Sample.finishing.after Sample.agenda).get? Sample.first = some t' ∧
      t'.totalPoints < t'.completedPoints := by
  obtain ⟨-, hclosing, hturn⟩ := forced_completion_exact Sample.talk
  obtain ⟨t', hclose, hclosed⟩ := hclosing rfl .epoch
  obtain ⟨⟨results, jobs⟩, hok⟩ : ∃ r, Sample.finishing.outcome Sample.agenda = .ok r :=
    isOk_iff.mp (by cbv)
  obtain ⟨u, -, hu, hsettled⟩ := hturn Sample.finishing Sample.agenda results jobs rfl rfl hok
  refine ⟨⟨t', hclose, hclosed.nothingLeft⟩, u, hu,
    Nat.lt_of_le_of_ne hsettled.enough fun hsame => ?_⟩
  exact absurd (hsettled.exactly_iff.mp hsame.symm "travel") (by decide)

end TaskPipeline
