import TaskPipeline.Proofs.Engine.Failure

/-!
# Lost races

Only the store reports that another writer was faster: no edit fails with that error
(`Operation.noRace_edit`), so an operation is tried again because of its commit, and never because
of its edit.
-/

namespace TaskPipeline

namespace Operation

variable {tasks : TaskMap} {id : TaskId}

/-- Whether an error reports that another writer was faster. -/
def isRace : EngineError → Bool
  | .conflict _ => true
  | _ => false

/-- The error, if there is one, is not a lost race. -/
def NoRace {α : Type} (x : Except EngineError α) : Prop := ∀ e, x = .error e → isRace e = false

theorem noRace_ok {α : Type} (a : α) : NoRace (.ok a) := failsOnly_ok a

theorem noRace_error {α : Type} {e : EngineError} (h : isRace e = false) :
    NoRace (.error e : Except EngineError α) := failsOnly_error h

theorem NoRace.bind {α β : Type} {x : Except EngineError α} {f : α → Except EngineError β}
    (hx : NoRace x) (hf : ∀ a, NoRace (f a)) : NoRace (x >>= f) :=
  FailsOnly.bind hx fun a _ => hf a

theorem NoRace.map {α β : Type} {x : Except EngineError α} (hx : NoRace x) (f : α → β) :
    NoRace (x.map f) := FailsOnly.map hx f

/-! ### The parts of an edit -/

theorem noRace_refusing {α : Type} (x : Except TransitionError α) : NoRace (refusing x) :=
  failsOnly_refusing (fun _ => rfl) x

theorem noRace_demand (tasks : TaskMap) (id : TaskId) : NoRace (tasks.demand id) :=
  failsOnly_demand rfl

theorem noRace_linked (tasks : TaskMap) (source target : TaskId) (now : Instant) :
    NoRace (tasks.linked source target now) := by
  unfold TaskMap.linked
  cases Graph.link tasks source target now with
  | error e => cases e <;> exact noRace_error rfl
  | ok tasks => exact noRace_ok tasks

theorem noRace_linkedAll (tasks : TaskMap) (now : Instant) (pairs : List (TaskId × TaskId)) :
    NoRace (tasks.linkedAll now pairs) := by
  induction pairs generalizing tasks with
  | nil => exact noRace_ok tasks
  | cons e rest ih =>
    unfold TaskMap.linkedAll
    have hlinked := noRace_linked tasks e.1 e.2 now
    split
    · next he => exact he ▸ hlinked
    · exact ih _

theorem noRace_editTask {f : Task → Except EngineError Task} (hf : ∀ t, NoRace (f t)) :
    NoRace (editTask tasks id f) :=
  (noRace_demand tasks id).bind fun t => (hf t).bind fun _ => noRace_ok _

theorem noRace_checkInflows (t : Task) (tasks : TaskMap) (ids : List TaskId) :
    NoRace (t.checkInflows tasks ids) :=
  failsOnly_checkInflows t (fun _ _ _ => rfl) fun _ _ => rfl

theorem noRace_merged (tasks : TaskMap) (source target : TaskId) (now : Instant)
    (collision : TagCollision) : NoRace (tasks.merged source target now collision) := by
  unfold TaskMap.merged
  refine (noRace_demand _ _).bind fun s => (noRace_demand _ _).bind fun t => ?_
  dsimp only
  split
  · exact noRace_error rfl
  · split
    · exact noRace_error rfl
    · exact noRace_ok _

theorem noRace_checkSplit (tasks : TaskMap) (task : Task) (parts maxInbox : Nat) :
    NoRace (tasks.checkSplit task parts maxInbox) := by
  unfold TaskMap.checkSplit
  split
  · exact noRace_error rfl
  · dsimp only
    split
    · exact noRace_error rfl
    · exact noRace_ok ()

theorem noRace_splitInto (tasks : TaskMap) (task : Task) (parts : List Task) (now : Instant) :
    NoRace (tasks.splitInto task parts now) := by
  cases parts with
  | nil => exact noRace_ok _
  | cons first rest => exact noRace_linkedAll _ _ _

/-! ### Edits -/

/-- **An edit reports no lost race**: only the store does. -/
theorem noRace_edit (policy : Policy) (op : Operation) (ambient : Ambient) (tasks : TaskMap) :
    NoRace (op.edit policy ambient tasks) := by
  cases op with
  | add name description owner =>
    simp only [edit, editAdd]
    split
    · exact noRace_error rfl
    · exact noRace_ok _
  | stage id destination points tags =>
    cases destination with
    | location location =>
      exact noRace_editTask fun t => (noRace_refusing _).bind fun _ => noRace_ok _
    | behind other =>
      exact (noRace_demand _ _).bind fun t => (noRace_refusing _).bind fun _ =>
        (noRace_demand _ _).bind fun o => (noRace_linked _ _ _ _).bind fun _ =>
          noRace_editTask fun t => noRace_ok _
  | start id =>
    exact noRace_editTask fun t => (noRace_refusing _).bind fun _ =>
      (noRace_checkInflows _ _ _).bind fun _ => noRace_ok _
  | stop id points =>
    refine noRace_editTask fun t => (noRace_refusing _).bind fun _ => ?_
    unfold Task.stopped?
    split
    · exact noRace_error rfl
    · exact noRace_ok _
  | complete id =>
    refine noRace_editTask fun t => (noRace_refusing _).bind fun _ => ?_
    unfold Task.completed?
    split
    · exact noRace_error rfl
    · exact noRace_ok _
  | tag id tags => exact noRace_editTask fun t => noRace_ok _
  | setDue id due => exact noRace_editTask fun t => noRace_ok _
  | advertise source targets =>
    exact (noRace_demand _ _).bind fun _ => (noRace_linkedAll _ _ _).bind fun _ => noRace_ok _
  | stitch sources target =>
    exact (noRace_demand _ _).bind fun _ => (noRace_linkedAll _ _ _).bind fun _ => noRace_ok _
  | merge source target => exact (noRace_merged _ _ _ _ _).map _
  | split id names descriptions =>
    exact (noRace_demand _ _).bind fun task => (noRace_checkSplit _ _ _ _).bind fun _ =>
      (noRace_splitInto _ _ _ _).bind fun _ => noRace_ok _
  | recordEvent id event => exact (noRace_editTask fun t => noRace_ok _).map _

end Operation

end TaskPipeline
