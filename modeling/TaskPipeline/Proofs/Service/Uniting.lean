import TaskPipeline.Proofs.Service.Turn
import TaskPipeline.Proofs.Task.Absorb

/-!
# Merging loses no work

A merge that succeeds, under either policy for tags, returns the task that remains as it is stored,
and that task unites the work of the two (`merge_unites`).  Folding one task into the other does so
by itself; renaming the references to the source and writing the result touch only neighbours, the
time of the last change and the version.
-/

namespace TaskPipeline

open Operation

variable {tasks : TaskMap} {source target : TaskId}

/-- Rewiring and writing change nothing about the work. -/
theorem Task.Unites.rewired {now : Instant} {collision : TagCollision} {s t t' u : Task}
    (h : t.Unites s now collision t') (hr : t'.Rewired u) (v : Nat) :
    t.Unites s now collision { u with version := v } := by
  rw [hr]
  exact { h with }

/-- **A performed merge unites the work of both tasks.** -/
theorem Operation.Performed.unites {policy : Policy} {ambient : Ambient}
    {store before store' : TaskMap} {edited committed : Edited}
    (h : Performed policy (.merge source target) ambient store before edited committed store')
    (hargs : (Operation.merge source target).checkArguments = .ok ()) :
    ∃ s t t', store.get? source = some s ∧ store.get? target = some t ∧
      store'.get? target = some t' ∧ t.Unites s (ambient.now 0) policy.tagCollision t' := by
  have hmerge := (edits_of_edit h.edits).of_merge.1
  rw [h.whole rfl] at hmerge
  obtain ⟨s, t, u, hs, ht, hu, hrewired, -⟩ :=
    TaskMap.get?_merged (checkArguments_merge hargs) hmerge
  obtain ⟨v, hstored⟩ := h.get?_of_edited hargs rfl hu
  have hunites := Task.unites_absorb t s (ambient.now 0) policy.tagCollision
  exact ⟨s, t, _, hs, ht, hstored, hunites.rewired hrewired v⟩

/-- **Merging loses no work.**  Whatever the store holds and whichever side wins where both tasks
have a tag, a merge that succeeds returns one task.  It is stored, and it unites the work of the
two: their points, declared and completed, their intervals, none of which goes on, their histories,
tags and due times, as of the moment of the try that was committed. -/
theorem merge_unites (turn : Turn) {results : List Task} {jobs : List Job}
    (hop : turn.op = .merge source target) (hok : turn.outcome tasks = .ok (results, jobs)) :
    ∃ n s t t', tasks.get? source = some s ∧ tasks.get? target = some t ∧
      results = [t'] ∧ (turn.after tasks).get? target = some t' ∧
      t.Unites s ((turn.ambients n).now 0) turn.setup.policy.tagCollision t' := by
  obtain ⟨n, before, edited, committed, hargs, hp, hanswer⟩ := Turn.performed_of_ok hok
  rw [hop] at hp hargs
  have hone : edited.2 = [target] := (edits_of_edit hp.edits).of_merge.2
  obtain ⟨t', hresults, hstored⟩ := Turn.result_of_answer hargs rfl hp hone hanswer
  obtain ⟨s, t, u, hs, ht, hu, hunites⟩ := hp.unites hargs
  obtain rfl : u = t' := Option.some.inj (hu.symm.trans hstored)
  exact ⟨n, s, t, u, hs, ht, hresults, hstored, hunites⟩

namespace Sample

/-- A task with a due time, whose work goes on. -/
def underWay : Task :=
  { Task.create first "first" "" user .epoch with
    points := [⟨"slides", 2⟩]
    schedule := ⟨some .epoch, [⟨.epoch, none, [⟨"slides", 1⟩]⟩]⟩
    tags := .ofList [⟨"room", .text "blue"⟩, ⟨"kind", .text "talk"⟩] }

/-- A task with a tag of the same name, whose work has ended. -/
def resting : Task :=
  { Task.create second "second" "" user .epoch with
    points := [⟨"slides", 3⟩]
    schedule := ⟨none, [⟨.epoch, some .epoch, [⟨"slides", 1⟩]⟩]⟩
    tags := .ofList [⟨"room", .text "red"⟩] }

def talks : TaskMap := .ofList [underWay, resting]

/-- The first task is folded into the second, and its tags win. -/
def overriding : Turn :=
  { merging with setup := ⟨{ Policy.default with tagCollision := .takeSource }, ⟨none, none, none⟩⟩ }

end Sample

/-- The points of both are there, the work that went on has ended, and of the two rooms the first
stays. -/
theorem united_by_merging : ∃ t', (Sample.overriding.after Sample.talks).get? Sample.second = some t' ∧
    t'.totalPoints = 5 ∧ t'.completedPoints = 2 ∧ t'.schedule.due = some .epoch ∧
    t'.tags.find? "room" = some ⟨"room", .text "blue"⟩ := by
  obtain ⟨⟨results, jobs⟩, hok⟩ : ∃ r, Sample.overriding.outcome Sample.talks = .ok r :=
    isOk_iff.mp (by cbv)
  obtain ⟨n, s, t, t', hs, ht, -, hstored, hunites⟩ := merge_unites Sample.overriding rfl hok
  obtain rfl : Sample.underWay = s := Option.some.inj hs
  obtain rfl : Sample.resting = t := Option.some.inj ht
  exact ⟨t', hstored, hunites.totalPoints, hunites.completedPoints, hunites.due,
    hunites.tags "room"⟩

end TaskPipeline
