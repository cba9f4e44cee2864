import TaskPipeline.Engine.Operation
import TaskPipeline.Proofs.Task.Lookup

/-!
# What a step fails with

An edit is made of steps that may fail.  What can be said of the error of each step can be said of the
error of the edit (`FailsOnly.bind`): that it reports no lost race, that it names no task but one of the
request, or that it finds no fault in the graph.
-/

namespace TaskPipeline

variable {ε α β : Type} {P : ε → Prop} {x : Except ε α}

/-- The error, if there is one, has the property. -/
def FailsOnly (P : ε → Prop) (x : Except ε α) : Prop := ∀ e, x = .error e → P e

theorem failsOnly_ok (a : α) : FailsOnly P (.ok a : Except ε α) := fun _ h => by cases h

theorem failsOnly_error {e : ε} (h : P e) : FailsOnly P (.error e : Except ε α) := by
  intro e' he
  obtain rfl := Except.error.inj he
  exact h

/-- **Steps that follow one another** fail only with what one of them fails with. -/
theorem FailsOnly.bind {f : α → Except ε β} (hx : FailsOnly P x)
    (hf : ∀ a, x = .ok a → FailsOnly P (f a)) : FailsOnly P (x >>= f) := by
  cases x with
  | error e => exact failsOnly_error (hx e rfl)
  | ok a => exact hf a rfl

theorem FailsOnly.map (hx : FailsOnly P x) (f : α → β) : FailsOnly P (x.map f) := by
  cases x with
  | error e => exact failsOnly_error (hx e rfl)
  | ok a => exact failsOnly_ok (f a)

section Steps

variable {P : EngineError → Prop} {tasks : TaskMap} {id : TaskId}

/-- A task that refuses a change says in which stage it is. -/
theorem failsOnly_refusing (h : ∀ e, P (.invalidState e)) (x : Except TransitionError α) :
    FailsOnly P (refusing x) := by
  cases x with
  | error e => exact failsOnly_error (h e)
  | ok a => exact failsOnly_ok a

/-- A task that is demanded is missing. -/
theorem failsOnly_demand (h : P (.taskNotFound id)) : FailsOnly P (tasks.demand id) := by
  unfold TaskMap.demand
  split
  · exact failsOnly_ok _
  · exact failsOnly_error h

/-- One of the inflows is not there, or is not completed. -/
theorem failsOnly_checkInflows {ids : List TaskId} (t : Task)
    (hmissing : ∀ q ∈ ids, tasks.has q = false →
      P (.integrity ("task " ++ t.id.text ++ " has a dangling inflow: " ++ q.text)))
    (hopen : ∀ q ∈ ids, P (.dependencyNotSatisfied t.id q)) :
    FailsOnly P (t.checkInflows tasks ids) := by
  induction ids with
  | nil => exact failsOnly_ok ()
  | cons q ids ih =>
    unfold Task.checkInflows
    split
    · next hnone =>
      exact failsOnly_error (hmissing q List.mem_cons_self (TaskMap.get?_eq_none_iff.mp hnone))
    · split
      · exact ih (fun q hq => hmissing q (List.mem_cons_of_mem _ hq))
          (fun q hq => hopen q (List.mem_cons_of_mem _ hq))
      · exact failsOnly_error (hopen q List.mem_cons_self)

end Steps

end TaskPipeline
