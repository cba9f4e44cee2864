import TaskPipeline.Proofs.Engine.Frame
import TaskPipeline.Proofs.Service.Merging

/-!
# Operations write only what they are about

A turn over a well-formed store leaves every task as it is, version included, except for those that
its operation is about (`writes_only`): the task that it changes, the ends of the edges that it adds,
and the neighbours of the task that it takes away.  A task that is not the same as itself is no such
task, but an operation that reads it gives it the next version.
-/

namespace TaskPipeline

open Operation

/-- A task that was not there before was added, or is a part of one that was split. -/
theorem Operation.Performed.creates {policy : Policy} {op : Operation} {ambient : Ambient}
    {store before store' : TaskMap} {edited committed : Edited} {id : TaskId}
    (h : Performed policy op ambient store before edited committed store')
    (hargs : op.checkArguments = .ok ()) (hnone : store.get? id = none)
    (hthere : store'.get? id ≠ none) :
    (∃ name description owner, op = .add name description owner) ∨
      ∃ task names descriptions, op = .split task names descriptions := by
  obtain ⟨t', ht'⟩ := Option.ne_none_iff_exists'.mp hthere
  rcases h.origin hargs ht' with ht | ⟨t, v, horigin, rfl⟩
  · rw [hnone] at ht
    cases ht
  · have hid : t.id = id := show ({ t with version := v } : Task).id = id from
      TaskMap.id_of_get? ht'
    by_cases hcreated : t.id ∈ op.created edited
    · cases op with
      | add name description owner => exact .inl ⟨name, description, owner, rfl⟩
      | split task names descriptions => exact .inr ⟨task, names, descriptions, rfl⟩
      | _ => cases hcreated
    · obtain ⟨u, hu, -⟩ := horigin.version hcreated
      rw [hid] at hu
      rw [h.upToDate id u hu] at hnone
      cases hnone

/-- **Operations write only what they are about**, and tasks that are not the same as themselves.  After
a turn over a well-formed store, every task that was there is the same as before, or its operation may
write it, and then changes no more of it than `Operation.Writes` says, or it is not the same as itself,
was read, and has the next version.  If the whole store was read and the turn succeeds, no task of the
last kind is left out.  No task comes up that was not there, unless one is added or split. -/
theorem writes_only (turn : Turn) (tasks : TaskMap) (hwf : Graph.WellFormed tasks) :
    (∀ id t, tasks.get? id = some t → (turn.after tasks).get? id = some t ∨
      turn.op.Writes tasks (turn.after tasks) t ((turn.after tasks).get? id) ∨
      turn.op.Rewritten tasks (turn.after tasks) id t) ∧
    ((∃ r, turn.outcome tasks = .ok r) → turn.op.scope = .whole → ∀ id t,
      tasks.get? id = some t → t.same t = false → (turn.after tasks).get? id ≠ some t) ∧
    ∀ id, tasks.get? id = none → (turn.after tasks).get? id ≠ none →
      (∃ name description owner, turn.op = .add name description owner) ∨
        ∃ task names descriptions, turn.op = .split task names descriptions := by
  refine ⟨?_, fun ⟨r, hr⟩ hscope id t => Turn.ne_of_restless hr hscope, ?_⟩
  · intro id t ht
    rcases turn.outcome_cases tasks with ⟨e, -, heq⟩ | ⟨n, before, edited, committed, hargs, hp, -⟩
    · rw [heq]
      exact .inl ht
    · exact or_assoc.mp (hp.fares hargs hwf.sound ht)
  · intro id hnone hthere
    rcases turn.outcome_cases tasks with ⟨e, -, heq⟩ | ⟨n, before, edited, committed, hargs, hp, -⟩
    · rw [heq] at hthere
      exact absurd hnone hthere
    · exact hp.creates hargs hnone hthere

namespace Sample

/-- A task by itself. -/
def lone : TaskId := ⟨"lone", by decide, by decide⟩

/-- The triangle, and a task without neighbours. -/
def besides : TaskMap := triangle.insert (Task.create lone "fourth" "" user (.midnight .epoch))

theorem wellFormed_besides : Graph.WellFormed besides :=
  wellFormed_of_flows wellFormed_triangle (flows_insert_new (by decide) rfl rfl)

end Sample

/-- A merge in the triangle takes a task away and leaves the one beside the triangle alone.  A task
beside the merged ones whose place is not a number is written. -/
theorem bystander_of_merging :
    (Sample.merging.after Sample.besides).ids = [Sample.second, Sample.third, Sample.lone] ∧
    (Sample.merging.after Sample.besides).get? Sample.lone = Sample.besides.get? Sample.lone ∧
    (Sample.merging.after Sample.unmapped).get? Sample.third ≠
      Sample.unmapped.get? Sample.third := by
  refine ⟨by cbv, ?_, ?_⟩
  · obtain ⟨t, ht⟩ : ∃ t, Sample.besides.get? Sample.lone = some t := ⟨_, rfl⟩
    have hid := TaskMap.id_of_get? ht
    have hself : t.same t = true := by
      obtain rfl := Option.some.inj ht
      decide
    obtain ⟨honly, -, -⟩ := writes_only Sample.merging Sample.besides Sample.wellFormed_besides
    rw [ht]
    rcases honly Sample.lone t ht with hsame | hwrites | hrewritten
    · exact hsame
    · -- it is neither of the two tasks, and no neighbour of the one that goes away
      generalize (Sample.merging.after Sample.besides).get? Sample.lone = result at hwrites
      cases hwrites with
      | subject hop _ _ => cases hop
      | staged hop => cases hop
      | linked hop _ _ => cases hop
      | absorbing hop =>
        injection hop with _ htarget
        exact absurd (htarget.trans hid) (by decide)
      | neighbour hop hneighbours _ =>
        obtain rfl := Option.some.inj hop
        rw [hid] at hneighbours
        have hout : Sample.lone ∉ Graph.outflowsOf Sample.besides Sample.first := by decide
        have hin : Sample.first ∉ Graph.outflowsOf Sample.besides Sample.lone := by decide
        exact (hneighbours.elim hout hin).elim
      | discarded hop => exact absurd ((Option.some.inj hop).trans hid) (by decide)
    · rw [hrewritten.restless] at hself
      cases hself
  · obtain ⟨r, hr⟩ : ∃ r, Sample.merging.outcome Sample.unmapped = .ok r := isOk_iff.mp (by cbv)
    obtain ⟨-, hrestless, -⟩ := writes_only Sample.merging Sample.unmapped Sample.wellFormed_unmapped
    exact hrestless ⟨r, hr⟩ rfl Sample.third _ rfl (by decide)

end TaskPipeline
