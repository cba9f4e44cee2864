import Mathlib.Data.List.Permutation
import TaskPipeline.Proofs.Engine.Run
import TaskPipeline.Service.Handle

/-!
# Turns

A `Turn` is one call of the engine by a caller who has the store to itself: an operation with all
its arguments, the settings of the engine, the readings of the clock and the fresh identifiers,
and which of its calls to the store fail.  `replay` makes turns one after the other.

`Turn.outcome_cases` says what a turn can do, so that a property of the tasks holds in every state
that is reached if every performed operation keeps it (`replay_induction`).
-/

namespace TaskPipeline

open Operation

/-- One call of the engine. -/
structure Turn where
  /-- The settings, and the parties outside the engine. -/
  setup : Service.Setup
  /-- The operation. -/
  op : Operation
  /-- The clock and the fresh identifiers of each try. -/
  ambients : Nat → Ambient
  /-- Whether the caller's time is up. -/
  expired : Bool
  /-- Which calls to the store fail; calls of one kind are counted from 1. -/
  fault : CallKind → Nat → Option StoreError

namespace Turn

variable {turn : Turn} {tasks : TaskMap}

/-- The store in memory with the failing calls of the turn. -/
def repository (turn : Turn) : Repository (Observed TaskMap) :=
  interfered memory ⟨fun _ _ tasks => tasks, turn.fault⟩

/-- Makes the turn. -/
def perform (turn : Turn) (tasks : TaskMap) :
    Except EngineError (List Task × List Job) × Observed TaskMap :=
  (Service.operate turn.expired turn.setup turn.ambients turn.op).run turn.repository turn.expired
    (.start tasks)

/-- What the caller gets: the results and the background jobs that were started, or an error. -/
def outcome (turn : Turn) (tasks : TaskMap) : Except EngineError (List Task × List Job) :=
  (turn.perform tasks).1

/-- The tasks after the turn. -/
def after (turn : Turn) (tasks : TaskMap) : TaskMap := (turn.perform tasks).2.store

theorem faithful (turn : Turn) : turn.repository.Faithful Observed.store :=
  interfered_faithful memory_faithful fun _ _ _ => rfl

/-- The results of a performed operation, with the jobs that it starts. -/
def answer (turn : Turn) (committed : Edited) : Except EngineError (List Task × List Job) :=
  (results committed).map fun ts => (ts, Job.after turn.setup.parties turn.op ts)

theorem answer_of_results (turn : Turn) {committed : Edited} {ts : List Task}
    (h : results committed = .ok ts) :
    turn.answer committed = .ok (ts, Job.after turn.setup.parties turn.op ts) := by
  unfold answer
  rw [h]
  rfl

/-- **What a turn can do**: fail and leave the tasks alone, or perform its operation and answer with
the results. -/
theorem outcome_cases (turn : Turn) (tasks : TaskMap) :
    (∃ e, turn.outcome tasks = .error e ∧ turn.after tasks = tasks) ∨
    ∃ n before edited committed, turn.op.checkArguments = .ok () ∧
      Performed turn.setup.policy turn.op (turn.ambients n) tasks before edited committed
        (turn.after tasks) ∧
      turn.outcome tasks = turn.answer committed := by
  unfold outcome after perform Service.operate Service.andGo
  generalize (turn.op.checkArguments >>= fun _ => _ : Except EngineError Unit) = check
  cases check with
  | error e => exact .inl ⟨e, rfl, rfl⟩
  | ok u =>
    dsimp only [Service.andThen, Script.bind]
    rw [Script.run_bind]
    rcases @run_script turn.setup.policy turn.op turn.ambients _ _ _ turn.expired (.start tasks)
        turn.faithful with
      ⟨e, he, hview⟩ | ⟨n, before, edited, committed, hargs, hperformed, hresults⟩
    · rw [he]
      exact .inl ⟨e, rfl, hview⟩
    · rw [hresults]
      refine .inr ⟨n, before, edited, committed, hargs, ?_⟩
      unfold answer
      cases results committed with
      | error e => exact ⟨hperformed, rfl⟩
      | ok ts => exact ⟨hperformed, rfl⟩

/-- A turn that succeeds was performed, and answers with the results. -/
theorem performed_of_ok {r : List Task × List Job} (hok : turn.outcome tasks = .ok r) :
    ∃ n before edited committed, turn.op.checkArguments = .ok () ∧
      Performed turn.setup.policy turn.op (turn.ambients n) tasks before edited committed
        (turn.after tasks) ∧
      turn.answer committed = .ok r := by
  rcases turn.outcome_cases tasks with ⟨e, he, -⟩ |
    ⟨n, before, edited, committed, hargs, hp, houtcome⟩
  · cases hok.symm.trans he
  · exact ⟨n, before, edited, committed, hargs, hp, houtcome.symm.trans hok⟩

/-- A turn over the whole store that succeeds writes every task that is not the same as itself. -/
theorem ne_of_restless {r : List Task × List Job} {id : TaskId} {t : Task}
    (hr : turn.outcome tasks = .ok r) (hscope : turn.op.scope = .whole)
    (ht : tasks.get? id = some t) (hno : t.same t = false) :
    (turn.after tasks).get? id ≠ some t := by
  obtain ⟨n, before, edited, committed, hargs, hp, -⟩ := performed_of_ok hr
  exact hp.ne_of_restless hargs hscope ht hno

/-- The result of an operation that returns one task is what the store holds of it. -/
theorem result_of_answer {policy : Policy} {op : Operation} {ambient : Ambient}
    {store before store' : TaskMap} {edited committed : Edited} {id : TaskId} {ts : List Task}
    {jobs : List Job} (hargs : op.checkArguments = .ok ()) (hop : op.retags = false)
    (hp : Performed policy op ambient store before edited committed store')
    (hone : edited.2 = [id]) (hanswer : turn.answer committed = .ok (ts, jobs)) :
    ∃ t, ts = [t] ∧ store'.get? id = some t := by
  obtain ⟨ts', hts, hpair⟩ := map_eq_ok_iff.mp hanswer
  cases hpair
  exact hp.single_result hargs hop hone hts

/-- A merge that was performed succeeds, since it returns one task. -/
theorem exists_outcome_of_merge {n : Nat} {before : TaskMap} {edited committed : Edited}
    {source target : TaskId} (hop : turn.op = .merge source target)
    (hargs : turn.op.checkArguments = .ok ())
    (hp : Performed turn.setup.policy turn.op (turn.ambients n) tasks before edited committed
      (turn.after tasks))
    (houtcome : turn.outcome tasks = turn.answer committed) :
    ∃ r, turn.outcome tasks = .ok r := by
  have hnd : edited.2.Nodup := by
    rcases (edits_of_edit hp.edits).nodup_returned with hnd | ⟨_, _, hstitch, -⟩
    · exact hnd
    · rw [hop] at hstitch
      cases hstitch
  obtain ⟨ts, hts⟩ := hp.results_ok hargs hnd
  exact ⟨_, houtcome.trans (turn.answer_of_results hts)⟩

/-- **After a merge** the target has absorbed the source; it may be rewired, and it has a version. -/
theorem get?_after_merge {source target : TaskId} {s t : Task} {r : List Task × List Job}
    (hop : turn.op = .merge source target) (hs : tasks.get? source = some s)
    (ht : tasks.get? target = some t) (hr : turn.outcome tasks = .ok r) :
    ∃ now u v, (t.absorb s now turn.setup.policy.tagCollision).Rewired u ∧
      (turn.after tasks).get? target = some { u with version := v } := by
  obtain ⟨n, before, edited, committed, hargs, hp, -⟩ := performed_of_ok hr
  have hedits := edits_of_edit hp.edits
  have hscope : turn.op.scope = .whole := by rw [hop]; rfl
  have hbefore := hp.whole hscope
  have hmerge := hargs
  rw [hop] at hedits hmerge
  obtain ⟨s', t', u, hs', ht', hu, hrewired, -⟩ :=
    TaskMap.get?_merged (checkArguments_merge hmerge) hedits.of_merge.1
  rw [hbefore, hs] at hs'
  rw [hbefore, ht] at ht'
  cases hs'
  cases ht'
  -- what is stored differs from the edited task in its version only
  obtain ⟨v, hstored⟩ := hp.get?_of_edited hargs (retags_of_whole hscope) hu
  exact ⟨(turn.ambients n).now 0, u, v, hrewired, hstored⟩

/-- The caller is in time, and the store does not fail. -/
def Undisturbed (turn : Turn) : Prop := turn.expired = false ∧ ∀ k n, turn.fault k n = none

/-- An undisturbed turn runs its operation on the store in memory. -/
theorem perform_of_undisturbed (h : turn.Undisturbed) (tasks : TaskMap) :
    (turn.outcome tasks, turn.after tasks) =
      (Service.operate turn.expired turn.setup turn.ambients turn.op).run memory false tasks := by
  have hreliable : turn.repository.Reliable Observed.store :=
    interfered_reliable (fun _ _ _ => rfl) h.2
  have hrun := Script.run_reliable hreliable
    (Service.operate turn.expired turn.setup turn.ambients turn.op) (.start tasks)
  refine Eq.trans ?_ hrun
  unfold outcome after perform
  rw [h.1]

/-- The caller of an operation that adds no task gets what its script gives. -/
theorem run_operate (turn : Turn)
    (hop : ∀ name description owner, turn.op ≠ .add name description owner)
    (hargs : turn.op.checkArguments = .ok ()) :
    (Service.operate turn.expired turn.setup turn.ambients turn.op).run memory false tasks =
      ((((turn.op.script turn.setup.policy turn.ambients).run memory false tasks).1).map fun ts =>
          (ts, Job.after turn.setup.parties turn.op ts),
        ((turn.op.script turn.setup.policy turn.ambients).run memory false tasks).2) := by
  have hcheck : Service.operate turn.expired turn.setup turn.ambients turn.op =
      Service.andThen (turn.op.script turn.setup.policy turn.ambients) fun ts =>
        .done (.ok (ts, Job.after turn.setup.parties turn.op ts)) := by
    unfold Service.operate Service.andGo
    rw [hargs]
    generalize turn.op = op at hop
    cases op with
    | add name description owner => exact absurd rfl (hop name description owner)
    | _ => rfl
  rw [hcheck, Service.andThen, Script.run_bind]
  generalize (turn.op.script turn.setup.policy turn.ambients).run memory false tasks = r
  obtain ⟨result, after⟩ := r
  cases result <;> rfl

section Undisturbed

variable (h : turn.Undisturbed)
  (hop : ∀ name description owner, turn.op ≠ .add name description owner)
  (hargs : turn.op.checkArguments = .ok ())

include h hop hargs

theorem perform_eq (tasks : TaskMap) : (turn.outcome tasks, turn.after tasks) =
    ((((turn.op.script turn.setup.policy turn.ambients).run memory false tasks).1).map fun ts =>
        (ts, Job.after turn.setup.parties turn.op ts),
      ((turn.op.script turn.setup.policy turn.ambients).run memory false tasks).2) := by
  rw [perform_of_undisturbed h, turn.run_operate hop hargs]

variable (hscope : turn.op.scope = .whole)

include hscope

/-- An undisturbed turn over the whole store fails if its edit fails. -/
theorem outcome_of_edit_error {e : EngineError}
    (hedit : turn.op.edit turn.setup.policy (turn.ambients 0) tasks = .error e) :
    turn.outcome tasks = .error e ∧ turn.after tasks = tasks := by
  have hperform := perform_eq h hop hargs tasks
  rw [run_script_memory_error hscope hargs hedit] at hperform
  injection hperform with houtcome hafter
  exact ⟨houtcome, hafter⟩

/-- An undisturbed turn over the whole store performs its edit if that succeeds and creates new tasks
only. -/
theorem performed_of_edit_ok {edited : Edited}
    (hedit : turn.op.edit turn.setup.policy (turn.ambients 0) tasks = .ok edited)
    (hnew : ∀ id ∈ turn.op.created edited, tasks.get? id = none) :
    ∃ committed, Performed turn.setup.policy turn.op (turn.ambients 0) tasks tasks edited committed
        (turn.after tasks) ∧ turn.outcome tasks = turn.answer committed := by
  obtain ⟨committed, hresults, hp⟩ :=
    run_script_memory hscope hargs hedit hnew
  have hperform := perform_eq h hop hargs tasks
  rw [hresults] at hperform
  injection hperform with houtcome hafter
  exact ⟨committed, hafter ▸ hp, houtcome⟩

/-- So does one whose operation creates no task. -/
theorem performed_of_creates_none {edited : Edited}
    (hedit : turn.op.edit turn.setup.policy (turn.ambients 0) tasks = .ok edited)
    (hnone : turn.op.created edited = []) :
    ∃ committed, Performed turn.setup.policy turn.op (turn.ambients 0) tasks tasks edited committed
        (turn.after tasks) ∧ turn.outcome tasks = turn.answer committed := by
  refine performed_of_edit_ok h hop hargs hscope hedit fun id hid => ?_
  rw [hnone] at hid
  cases hid

end Undisturbed

/-- A turn over the default settings, with nobody outside the engine, in time, and with a store that
does not fail. -/
def plain (ambient : Ambient) (op : Operation) : Turn :=
  ⟨⟨.default, ⟨none, none, none⟩⟩, op, fun _ => ambient, false, fun _ _ => none⟩

end Turn

/-- Makes turns one after the other. -/
def replay (tasks : TaskMap) (turns : List Turn) : TaskMap :=
  turns.foldl (fun tasks turn => turn.after tasks) tasks

theorem replay_concat (tasks : TaskMap) (turns : List Turn) (turn : Turn) :
    replay tasks (turns ++ [turn]) = turn.after (replay tasks turns) := by
  unfold replay
  rw [List.foldl_append]
  rfl

/-- **A property that every turn keeps holds in every state that is reached.** -/
theorem replay_induction {p : TaskMap → Prop} {tasks : TaskMap} (h : p tasks)
    (hturn : ∀ tasks (turn : Turn), p tasks → p (turn.after tasks)) (turns : List Turn) :
    p (replay tasks turns) := by
  induction turns using List.reverseRecOn with
  | nil => exact h
  | append_singleton turns turn ih =>
    rw [replay_concat]
    exact hturn _ turn ih

/-- A property of the turns that were made and of the state that was reached holds throughout a run if
the turns of the run keep it, each in the state in which it is made. -/
theorem replay_prefix_induction {p : List Turn → TaskMap → Prop} {tasks : TaskMap}
    {turns : List Turn} (h : p [] tasks)
    (hturn : ∀ done turn rest, turns = done ++ turn :: rest → p done (replay tasks done) →
      p (done ++ [turn]) (turn.after (replay tasks done))) :
    ∀ done rest, turns = done ++ rest → p done (replay tasks done) := by
  intro done
  induction done using List.reverseRecOn with
  | nil => exact fun _ _ => h
  | append_singleton done turn ih =>
    intro rest hturns
    rw [List.append_assoc] at hturns
    rw [replay_concat]
    exact hturn done turn rest hturns (ih ([turn] ++ rest) hturns)

/-! ### Well-formed graphs -/

/-- **A turn keeps the graph well-formed**, whether it succeeds or fails. -/
theorem Turn.wellFormed {tasks : TaskMap} (turn : Turn) (h : Graph.WellFormed tasks) :
    Graph.WellFormed (turn.after tasks) := by
  rcases turn.outcome_cases tasks with ⟨e, -, heq⟩ | ⟨n, before, edited, committed, hargs, hp, -⟩
  · rw [heq]
    exact h
  · exact hp.wellFormed hargs h

/-- **Every reachable graph is well-formed**: each turn keeps well-formedness, in whatever store and
with whatever arguments it is made, and so do runs that begin with no tasks. -/
theorem wellFormed_after_turns :
    (∀ (tasks : TaskMap) (turn : Turn),
      Graph.WellFormed tasks → Graph.WellFormed (turn.after tasks)) ∧
      ∀ turns : List Turn, Graph.WellFormed (replay .empty turns) :=
  ⟨fun _ turn h => turn.wellFormed h,
    replay_induction Graph.wellFormed_empty fun _ turn h => turn.wellFormed h⟩

/-! ### A small run -/

namespace Sample

/-- A task. -/
def first : TaskId := ⟨"a", by decide, by decide⟩

/-- Another task. -/
def second : TaskId := ⟨"b", by decide, by decide⟩

def third : TaskId := ⟨"c", by decide, by decide⟩

/-- The owner of the tasks. -/
def user : UserId := ⟨"user", by decide, by decide⟩

/-- A clock that stands still, and one fresh identifier. -/
def ambient (id : TaskId) : Ambient := ⟨fun _ => .midnight .epoch, fun _ => id⟩

/-- The two tasks. -/
def tasks : TaskMap :=
  .ofList [.create first "first" "" user (.midnight .epoch),
    .create second "second" "" user (.midnight .epoch)]

/-- The first task is folded into the second. -/
def merging : Turn := .plain (ambient first) (.merge first second)

theorem wellFormed : Graph.WellFormed tasks := by
  refine wellFormed_of_flows ?_ (flows_insert_new (by decide) rfl rfl)
  exact wellFormed_of_flows Graph.wellFormed_empty (flows_insert_new rfl rfl rfl)

/-- The two tasks, and a third one whose place is not a number. -/
def unmapped : TaskMap :=
  tasks.insert
    { Task.create third "third" "" user (.midnight .epoch) with
      tags := .ofList [⟨"place", .location ⟨.nan, .nan, ""⟩⟩] }

theorem wellFormed_unmapped : Graph.WellFormed unmapped :=
  wellFormed_of_flows wellFormed (flows_insert_new (by decide) rfl rfl)

end Sample

/-- The merge of two tasks keeps their graph well-formed, and leaves one of them. -/
theorem wellFormed_after_merging : Graph.WellFormed Sample.tasks ∧
    Graph.WellFormed (Sample.merging.after Sample.tasks) ∧
      (Sample.merging.after Sample.tasks).ids = [Sample.second] := by
  refine ⟨Sample.wellFormed,
    wellFormed_after_turns.1 Sample.tasks Sample.merging Sample.wellFormed, ?_⟩
  cbv

end TaskPipeline
