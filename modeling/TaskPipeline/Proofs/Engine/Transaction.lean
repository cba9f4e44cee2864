import TaskPipeline.Engine.Transaction
import TaskPipeline.Proofs.Engine.Structure
import TaskPipeline.Proofs.Store.Repository

/-!
# What a transaction commits

The operations of the engine are transactions: they begin one, edit its working copy, and commit it
(`Operation.commit_as_transaction`).  They read the whole store (`Operation.tryWhole_as_transaction`),
one task (`Operation.runTask_as_transaction`), or a task and those that it depends on
(`Operation.runWithInflows_as_transaction`).

`Transaction.Step` says what an action of the caller can do.  It leaves the version of every task that
is not new as it was read (`Transaction.Keeps`), and while nobody else writes to the store, what was
read is what the store holds and what is new is not there yet (`Transaction.Tracks`).  From this
`Transaction.commit_exact` follows: the batch that a transaction commits takes the store from what was
read to the working copy, and touches nothing else.
-/

namespace TaskPipeline

open ChangeSet

variable {store : TaskMap}

/-! ### Operations are transactions -/

namespace Operation

variable {policy : Policy} {op : Operation} {ambient : Ambient}

/-- The transaction of an operation whose edit has taken the place of the working copy. -/
def edited (op : Operation) (tx : Transaction) (edited : Edited) : Transaction :=
  { tx with tasks := edited.1, created := op.created edited }

/-- Edits the working copy of a transaction and commits it. -/
def finish (policy : Policy) (op : Operation) (ambient : Ambient) (tx : Transaction) :
    Script (Except EngineError Edited) :=
  match op.edit policy ambient tx.tasks with
  | .error e => .done (.error e)
  | .ok edited => (op.edited tx edited).commit.bind fun outcome =>
      .done (outcome.map fun tasks => (tasks, edited.2))

/-- An operation commits as a transaction does. -/
theorem commit_as_transaction (before : TaskMap) (edited : Edited) : op.commit before edited =
    (Transaction.commit ⟨op.title, before, edited.1, op.created edited, op.scope = .whole⟩).bind
      fun outcome => .done (outcome.map fun tasks => (tasks, edited.2)) := by
  unfold commit Transaction.commit Transaction.changeSet
  dsimp only
  split
  · rfl
  · refine congrArg (Script.call _) (funext fun answer => ?_)
    cases answer <;> rfl

/-- An operation that has read its tasks is a transaction that has just begun. -/
theorem editAndCommit_as_transaction (before : TaskMap) : op.editAndCommit policy ambient before =
    op.finish policy ambient ⟨op.title, before, before, [], op.scope = .whole⟩ := by
  unfold editAndCommit finish
  dsimp only
  cases op.edit policy ambient before with
  | error e => rfl
  | ok edited => exact op.commit_as_transaction before edited

/-- **A try over the whole store is a transaction** that reads every task. -/
theorem tryWhole_as_transaction (hscope : op.scope = .whole) : op.tryWhole policy ambient =
    (Transaction.begin op.title .all).bind fun
      | .error e => .done (.error e)
      | .ok tx => op.finish policy ambient tx := by
  unfold tryWhole
  refine congrArg (Script.call _) (funext fun answer => ?_)
  cases answer with
  | error e => rfl
  | ok tasks =>
    dsimp only
    rw [editAndCommit_as_transaction, hscope]
    rfl

/-- **An operation on one task is a transaction** that reads the task. -/
theorem runTask_as_transaction (hscope : op.scope ≠ .whole) (id : TaskId) :
    op.runTask policy ambient id = (Transaction.begin op.title (.named [id])).bind fun
      | .error e => .done (.error e)
      | .ok tx => op.finish policy ambient tx := by
  unfold runTask
  refine congrArg (Script.call _) (funext fun answer => ?_)
  cases answer with
  | error e => rfl
  | ok tasks =>
    dsimp only
    rw [editAndCommit_as_transaction, decide_eq_false hscope]
    rfl

/-- What becomes of the error of an inflow that cannot be read. -/
def inflowFailure (id : TaskId) : EngineError → EngineError
  | .notFound _ missing => .integrity ("task " ++ id.text ++ " has a dangling inflow: " ++ missing)
  | e => e

theorem inflowError_eq (id : TaskId) (e : StoreError) :
    op.inflowError id e = inflowFailure id (.ofStore op.title e) := by
  unfold inflowError inflowFailure
  cases EngineError.ofStore op.title e <;> rfl

/-- **An operation on one task and its inflows is a transaction** that reads the task and then loads
the inflows. -/
theorem runWithInflows_as_transaction (hscope : op.scope ≠ .whole) (id : TaskId) :
    op.runWithInflows policy ambient id =
      (Transaction.begin op.title (.named [id])).bind fun
        | .error e => .done (.error e)
        | .ok tx =>
          match tx.tasks.demand id >>= fun t => (refusing t.canStart).map fun _ => t with
          | .error e => .done (.error e)
          | .ok t => (tx.load t.inflows.ids).bind fun
            | (.error e, _) => .done (.error (inflowFailure id e))
            | (.ok (), tx) => op.finish policy ambient tx := by
  unfold runWithInflows
  refine congrArg (Script.call _) (funext fun answer => ?_)
  cases answer with
  | error e => rfl
  | ok tasks =>
    dsimp only [Script.bind, Transaction.ofTasks]
    cases (TaskMap.demand (.ofList tasks) id >>= fun t => (refusing t.canStart).map fun _ => t) with
    | error e => rfl
    | ok t =>
      unfold Transaction.load
      dsimp only
      cases (t.inflows.ids.filter fun i => !TaskMap.has (.ofList tasks) i) with
      | nil =>
        dsimp only [Script.bind]
        rw [editAndCommit_as_transaction, decide_eq_false hscope]
      | cons i rest =>
        refine congrArg (Script.call _) (funext fun answer => ?_)
        cases answer with
        | error e =>
          dsimp only [Script.bind]
          rw [inflowError_eq]
        | ok inflows =>
          dsimp only [Script.bind]
          rw [editAndCommit_as_transaction, decide_eq_false hscope]

end Operation

namespace Transaction

variable {tx tx' : Transaction} {title : String} {start : Start} {action : Action}
  {actions : List Action} {id : TaskId} {t : Task}

/-! ### What an action can do -/

/-- **What an action of the caller can do** over a store: nothing at all, or one change of the working
copy. -/
inductive Step (store : TaskMap) (action : Action) (tx : Transaction) : Transaction → Prop where
  /-- Nothing was to be done, or it could not be done. -/
  | none : Step store action tx tx
  /-- Tasks were read that had not been read before. -/
  | loaded (ts : List Task)
      (h : ∀ t ∈ ts, store.get? t.id = some t ∧ tx.original.has t.id = false) :
      Step store action tx { tx with
        original := tx.original.insertAll ts
        tasks := tx.tasks.insertAll ts }
  /-- A task was changed in place. -/
  | modified (t : Task) (revision : Revision) (h : tx.tasks.get? t.id = some t) :
      Step store action tx { tx with tasks := tx.tasks.insert (revision.apply t) }
  /-- A new task was added. -/
  | inserted (t : Task) (h : action = .insertNew t) : Step store action tx (tx.insertNew t)
  /-- A task was taken out. -/
  | removed (id : TaskId) : Step store action tx (tx.remove id).2

theorem run_load (tx : Transaction) (ids : List TaskId) (action : Action) (store : TaskMap) :
    Step store action tx ((tx.load ids).run memory false store).1.2 ∧
      ((tx.load ids).run memory false store).2 = store := by
  have hmissing : ∀ id ∈ ids.filter fun id => !tx.original.has id, tx.original.has id = false := by
    intro id hid
    simpa using (List.mem_filter.mp hid).2
  unfold load
  generalize ids.filter (fun id => !tx.original.has id) = missing at hmissing
  cases missing with
  | nil => exact ⟨.none, rfl⟩
  | cons i rest =>
    have hanswer : memory.perform false (.getMany (i :: rest)) store =
        (store.requireAll (i :: rest), store) := rfl
    dsimp only
    rw [Script.run_call, hanswer]
    cases hts : store.requireAll (i :: rest) with
    | error e => exact ⟨.none, rfl⟩
    | ok ts =>
      refine ⟨.loaded ts fun t ht => ⟨TaskMap.get?_of_requireAll hts ht, hmissing t.id ?_⟩, rfl⟩
      rw [← TaskMap.map_id_of_map_get? (TaskMap.requireAll_eq_ok_iff.mp hts)]
      exact List.mem_map_of_mem ht

/-- **An action is a step** and leaves the store alone. -/
theorem run_act (tx : Transaction) (action : Action) (store : TaskMap) :
    Step store action tx ((tx.act action).run memory false store).1 ∧
      ((tx.act action).run memory false store).2 = store := by
  cases action with
  | load ids =>
    have hact : (tx.act (.load ids)).run memory false store =
        (((tx.load ids).run memory false store).1.2, ((tx.load ids).run memory false store).2) :=
      Script.run_bind _ _ _
    rw [hact]
    exact tx.run_load ids _ store
  | modify id revision =>
    refine ⟨?_, rfl⟩
    show Step store _ tx (tx.modify id revision).2
    unfold modify
    cases ht : tx.tasks.demand id with
    | error e => exact .none
    | ok t =>
      have hget := TaskMap.demand_eq_ok_iff.mp ht
      exact .modified t revision (by rw [TaskMap.id_of_get? hget, hget])
  | insertNew t => exact ⟨.inserted t rfl, rfl⟩
  | remove id => exact ⟨.removed id, rfl⟩

/-- A property that every step keeps holds after all actions, and these leave the store alone. -/
theorem run_actAll {p : Transaction → Prop} (hp : p tx)
    (hstep : ∀ tx tx' action, action ∈ actions → p tx → Step store action tx tx' → p tx') :
    p ((tx.actAll actions).run memory false store).1 ∧
      ((tx.actAll actions).run memory false store).2 = store := by
  induction actions generalizing tx with
  | nil => exact ⟨hp, rfl⟩
  | cons action rest ih =>
    obtain ⟨hact, hstore⟩ := tx.run_act action store
    have hrun : (tx.actAll (action :: rest)).run memory false store =
        (((tx.act action).run memory false store).1.actAll rest).run memory false store := by
      show ((tx.act action).bind fun tx => tx.actAll rest).run memory false store = _
      rw [Script.run_bind, hstore]
    rw [hrun]
    exact ih (hstep _ _ _ List.mem_cons_self hp hact) fun tx tx' a ha =>
      hstep tx tx' a (List.mem_cons_of_mem _ ha)

/-! ### What every transaction keeps -/

/-- A task that is not new has the version in which it was read. -/
def Keeps (tx : Transaction) : Prop :=
  ∀ id t, tx.tasks.get? id = some t → id ∉ tx.created →
    ∃ s, tx.original.get? id = some s ∧ t.version = s.version

theorem keeps_ofTasks (title : String) (ts : List Task) (wholeStore : Bool) :
    Keeps (ofTasks title ts wholeStore) := fun _ t ht _ => ⟨t, ht, rfl⟩

/-- **A step keeps versions.** -/
theorem Step.keeps (h : Step store action tx tx') (hkeeps : tx.Keeps) : tx'.Keeps := by
  intro id u hu hnew
  cases h with
  | none => exact hkeeps id u hu hnew
  | loaded ts hts =>
    -- a task that was read stands in both sets
    dsimp only at hu ⊢
    rcases TaskMap.get?_insertAll tx.tasks ts id with ⟨t, ht, hid, hget⟩ | ⟨hne, hget⟩
    · rcases TaskMap.get?_insertAll tx.original ts id with ⟨s, hs, hsid, hget'⟩ | ⟨hne, -⟩
      · have hstored := (hts t ht).1
        rw [hid, ← hsid, (hts s hs).1] at hstored
        cases hstored
        rw [hget] at hu
        cases hu
        exact ⟨_, hget', rfl⟩
      · exact absurd hid (hne t ht)
    · rw [hget] at hu
      rw [TaskMap.get?_insertAll_of_forall_ne hne]
      exact hkeeps id u hu hnew
  | modified t revision ht =>
    dsimp only at hu ⊢
    rw [TaskMap.get?_insert, revision.id_apply] at hu
    split at hu
    · next hid =>
      cases hu
      rw [revision.version_apply]
      exact hkeeps id t (hid ▸ ht) hnew
    · exact hkeeps id u hu hnew
  | inserted t _ =>
    have hne : t.id ≠ id := fun hid => hnew (hid ▸ List.mem_cons_self)
    have hold : id ∉ tx.created := fun hmem => hnew (List.mem_cons_of_mem _ hmem)
    exact hkeeps id u (TaskMap.get?_insert_of_ne hne ▸ hu) hold
  | removed j =>
    have hget : (tx.tasks.remove j).get? id = some u := hu
    rw [TaskMap.get?_remove] at hget
    split at hget
    · cases hget
    · next hne =>
      refine hkeeps id u hget fun hmem => hnew ?_
      exact List.mem_filter.mpr ⟨hmem, by simpa using Ne.symm hne⟩

/-- What a transaction knows of a store to which nobody else writes. -/
structure Tracks (store : TaskMap) (tx : Transaction) : Prop where
  /-- What was read is what the store holds. -/
  upToDate : UpToDate tx.original store
  /-- All of it, if every task was read. -/
  whole : tx.wholeStore = true → tx.original = store
  /-- A task that is not new has the version in which it was read. -/
  keeps : tx.Keeps
  /-- What is new is not stored, and is there. -/
  isNew : ∀ id ∈ tx.created, store.has id = false ∧ tx.tasks.has id = true

/-- **A step keeps track of the store** if it adds no task that the store has. -/
theorem Step.tracks (h : Step store action tx tx') (htracks : Tracks store tx)
    (hnew : ∀ t, action = .insertNew t → store.has t.id = false) : Tracks store tx' := by
  have hkeeps := h.keeps htracks.keeps
  cases h with
  | none => exact htracks
  | loaded ts hts =>
    refine ⟨upToDate_insertAll htracks.upToDate fun t ht => (hts t ht).1, fun hwhole => ?_, hkeeps,
      fun id hid => ?_⟩
    · -- there is nothing to read any more
      have hall := htracks.whole hwhole
      cases ts with
      | nil => exact hall
      | cons t rest =>
        obtain ⟨hstored, hunread⟩ := hts t List.mem_cons_self
        rw [hall, TaskMap.has_iff.mpr ⟨t, hstored⟩] at hunread
        cases hunread
    · obtain ⟨hstore, hhas⟩ := htracks.isNew id hid
      exact ⟨hstore, TaskMap.has_insertAll_iff.mpr (.inl hhas)⟩
  | modified t revision _ =>
    refine ⟨htracks.upToDate, htracks.whole, hkeeps, fun id hid => ?_⟩
    obtain ⟨hstore, hhas⟩ := htracks.isNew id hid
    exact ⟨hstore, TaskMap.has_insert_of_has hhas⟩
  | inserted t ht =>
    refine ⟨htracks.upToDate, htracks.whole, hkeeps, fun id hid => ?_⟩
    rcases List.mem_cons.mp hid with rfl | hid
    · exact ⟨hnew t ht, TaskMap.has_iff.mpr ⟨t, TaskMap.get?_insert_self tx.tasks t⟩⟩
    · obtain ⟨hstore, hhas⟩ := htracks.isNew id hid
      exact ⟨hstore, TaskMap.has_insert_of_has hhas⟩
  | removed j =>
    refine ⟨htracks.upToDate, htracks.whole, hkeeps, fun id hid => ?_⟩
    obtain ⟨hid, hne⟩ := List.mem_filter.mp hid
    obtain ⟨hstore, hhas⟩ := htracks.isNew id hid
    exact ⟨hstore, TaskMap.has_remove_iff.mpr ⟨hhas, of_decide_eq_true hne⟩⟩

/-! ### Beginning and preparing -/

/-- **How a transaction begins**: with tasks that the store holds, or with an error. -/
theorem run_begin (title : String) (start : Start) (store : TaskMap) :
    ((begin title start).run memory false store).2 = store ∧
      ∀ tx, ((begin title start).run memory false store).1 = .ok tx → Tracks store tx := by
  cases start with
  | all =>
    refine ⟨rfl, fun tx htx => ?_⟩
    have hbegin : (.ok (ofTasks title store.toList true) : Except EngineError Transaction) = .ok tx :=
      htx
    cases hbegin
    have hall : (.ofList store.toList : TaskMap) = store := store.ofList_toList
    exact ⟨fun id t ht => hall ▸ ht, fun _ => hall, keeps_ofTasks _ _ _,
      fun _ hid => absurd hid List.not_mem_nil⟩
  | named ids =>
    have hanswer : memory.perform false (.getMany ids) store = (store.requireAll ids, store) := by
      simp [memory, unlessExpired]
    unfold begin
    rw [Script.run_call, hanswer]
    cases hts : store.requireAll ids with
    | error e => exact ⟨rfl, fun tx htx => by cases htx⟩
    | ok ts =>
      refine ⟨rfl, fun tx htx => ?_⟩
      cases htx
      exact ⟨upToDate_insertAll upToDate_empty fun t ht => TaskMap.get?_of_requireAll hts ht,
        fun hwhole => absurd hwhole Bool.false_ne_true, keeps_ofTasks _ _ _,
        fun _ hid => absurd hid List.not_mem_nil⟩

/-- **A property of a transaction that could be committed** holds if it holds of every transaction that
has just begun and every step keeps it.  Nothing has been written so far. -/
theorem run_prepare {p : Transaction → Prop} (hbegin : ∀ tx, Tracks store tx → p tx)
    (hstep : ∀ tx tx' action, action ∈ actions → p tx → Step store action tx tx' → p tx') :
    ((prepare title start actions).run memory false store).2 = store ∧
      ∀ tx, ((prepare title start actions).run memory false store).1 = .ok tx → p tx := by
  obtain ⟨hstore, htracks⟩ := run_begin title start store
  unfold prepare
  rw [Script.run_bind', hstore]
  cases hstart : ((begin title start).run memory false store).1 with
  | error e => exact ⟨rfl, nofun⟩
  | ok tx =>
    obtain ⟨hp, hafter⟩ := run_actAll (hbegin tx (htracks tx hstart)) hstep
    have hrun : (Script.bind (tx.actAll actions) fun tx => .done (.ok tx) :
        Script (Except EngineError Transaction)).run memory false store =
        (.ok ((tx.actAll actions).run memory false store).1,
          ((tx.actAll actions).run memory false store).2) := Script.run_bind _ _ _
    refine ⟨?_, fun tx' htx' => ?_⟩
    · show ((Script.bind (tx.actAll actions) fun tx => .done (.ok tx) :
        Script (Except EngineError Transaction)).run memory false store).2 = store
      rw [hrun, hafter]
    · have hresult := (congrArg Prod.fst hrun).symm.trans htx'
      cases hresult
      exact hp

/-! ### Committing -/

section Commit

variable {σ : Type} {repo : Repository σ} {view : σ → TaskMap} {expired : Bool} {s : σ}

/-- **Committing a transaction whose tasks are up to date** changes nothing, or stores the working copy
and gives it with the versions that are assigned. -/
theorem run_commit (tx : Transaction) (hrepo : repo.Faithful view) (expired : Bool)
    (hup : UpToDate tx.original (view s)) :
    (∃ e, (tx.commit.run repo expired s).1 = .error e ∧
      view (tx.commit.run repo expired s).2 = view s) ∨
    ∃ written, (tx.commit.run repo expired s).1 = .ok written ∧
      (∀ id, written.get? id = (tx.tasks.get? id).map (versioned tx.original tx.created)) ∧
      (∀ id, (view (tx.commit.run repo expired s).2).get? id =
        if tx.original.has id || tx.tasks.has id then
          (tx.tasks.get? id).map (stored tx.original tx.created)
        else (view s).get? id) ∧
      ∀ id ∈ tx.created, tx.tasks.has id = true → (view s).get? id = none := by
  unfold commit
  by_cases hempty : tx.changeSet.isEmpty = true
  · -- nothing is written, and what was read is what the store holds
    rw [if_pos hempty]
    have hsame := same_of_isEmpty hempty
    refine .inr ⟨tx.tasks, rfl, fun id => ?_, fun id => ?_, fun id hid hhas => ?_⟩
    · cases hget : tx.tasks.get? id with
      | none => rfl
      | some t =>
        obtain rfl := TaskMap.id_of_get? hget
        obtain ⟨hcreated, hholds⟩ := (hsame t.id).2 t hget
        rw [Option.map_some, versioned_of_holds hcreated hholds]
    · show (view s).get? id = _
      rw [(hsame id).1, Bool.or_self]
      split
      · next hhas =>
        obtain ⟨t, ht⟩ := TaskMap.has_iff.mp hhas
        obtain rfl := TaskMap.id_of_get? ht
        obtain ⟨hcreated, hholds⟩ := (hsame t.id).2 t ht
        rw [ht, Option.map_some, hup t.id _ (stored_of_holds hcreated hholds)]
      · rfl
    · obtain ⟨t, ht⟩ := TaskMap.has_iff.mp hhas
      exact absurd hid ((hsame id).2 t ht).1
  · rw [if_neg hempty, Script.run]
    rcases hrepo.commit expired tx.changeSet s with ⟨e, he, hview⟩ | ⟨hok, hcheck, hview⟩
    · simp only [he, Script.run, hview]
      exact .inl ⟨_, rfl, trivial⟩
    · simp only [hok, Script.run, hview]
      refine .inr ⟨_, rfl, get?_insertAll_written, get?_write_of_upToDate hup,
        fun id hid hhas => ?_⟩
      obtain ⟨t, ht⟩ := TaskMap.has_iff.mp hhas
      have htid := TaskMap.id_of_get? ht
      rw [← htid] at ht hid ⊢
      exact (Fits.of_check hcheck).creates t (mem_creates_between.mpr ⟨ht, hid⟩)

end Commit

/-- The version that a task of the working copy gets: the first one if it was not read, the one that it
had if it is the same as the task that was read, and otherwise the next one. -/
def assigned (tx : Transaction) (t : Task) : Nat :=
  match tx.original.get? t.id with
  | none => 1
  | some s => if s.same t then s.version else s.version + 1

/-- What the store has of a task of the working copy: the task that was read if it is the same, and
otherwise the task of the working copy with its version. -/
def kept (tx : Transaction) (t : Task) : Task :=
  match tx.original.get? t.id with
  | none => { t with version := 1 }
  | some s => if s.same t then s else { t with version := s.version + 1 }

/-- As long as there is room, the assigned versions are 64-bit words. -/
theorem assigned_lt (hroom : tx.original.HasRoom 1) (t : Task) : tx.assigned t < UInt64.size := by
  unfold assigned
  cases hs : tx.original.get? t.id with
  | none => exact show 1 < UInt64.size by decide
  | some s =>
    have hnext := hroom s (TaskMap.mem_of_get? hs)
    dsimp only
    split <;> omega

namespace Tracks

variable (h : Tracks store tx)

include h

theorem get?_created (hid : id ∈ tx.created) : tx.original.get? id = none := by
  cases hs : tx.original.get? id with
  | none => rfl
  | some s =>
    have hstored := TaskMap.has_iff.mpr ⟨s, h.upToDate id s hs⟩
    rw [(h.isNew id hid).1] at hstored
    cases hstored

/-- What is said of a batch, said of a transaction. -/
theorem written_eq (ht : tx.tasks.get? t.id = some t) :
    versioned tx.original tx.created t = { t with version := tx.assigned t } ∧
      stored tx.original tx.created t = tx.kept t := by
  unfold assigned kept
  by_cases hcreated : t.id ∈ tx.created
  · rw [h.get?_created hcreated]
    exact ⟨if_pos hcreated, (if_neg fun hkept => hkept.1 hcreated).trans (if_pos hcreated)⟩
  · obtain ⟨s, hs, hversion⟩ := h.keeps t.id t ht hcreated
    rw [hs]
    dsimp only
    cases hsame : s.same t with
    | true =>
      have hholds := (TaskMap.holds_eq hs).trans hsame
      have hstored := stored_of_holds hcreated hholds
      rw [versioned_of_holds hcreated hholds, if_pos rfl, if_pos rfl, ← hversion]
      exact ⟨rfl, Option.some.inj (hstored.symm.trans hs)⟩
    | false =>
      have hholds := (TaskMap.holds_eq hs).trans hsame
      rw [stored_of_changed hholds, versioned_of_changed hcreated hholds, hversion]
      exact ⟨rfl, rfl⟩

/-- The store accepts the batch. -/
theorem check_changeSet : tx.changeSet.check store = .ok () :=
  check_between_eq_ok h.upToDate h.whole
    (fun id hid _ => TaskMap.get?_eq_none_iff.mpr (h.isNew id hid).1) h.keeps

/-- **A transaction that has the store to itself succeeds.** -/
theorem exists_committed : ∃ written after,
    tx.commit.run memory false store = (.ok written, after) ∧
      (∀ id, written.get? id =
        (tx.tasks.get? id).map fun t => { t with version := tx.assigned t }) ∧
      ∀ id, after.get? id =
        if tx.original.has id || tx.tasks.has id then (tx.tasks.get? id).map tx.kept
        else store.get? id := by
  rcases tx.run_commit memory_faithful false h.upToDate with
    ⟨e, he, -⟩ | ⟨written, hok, hwritten, hafter, -⟩
  · unfold commit at he
    split at he
    · cases he
    · rw [Script.run_call, memory_commit_of_check h.check_changeSet] at he
      cases he
  · have hthere : ∀ id t, tx.tasks.get? id = some t → tx.tasks.get? t.id = some t :=
      fun id t ht => TaskMap.id_of_get? ht ▸ ht
    refine ⟨written, _, Prod.ext hok rfl, fun id => ?_, fun id => ?_⟩
    · rw [hwritten]
      exact Option.map_congr fun t ht => (h.written_eq (hthere id t ht)).1
    · refine (hafter id).trans ?_
      split
      · exact Option.map_congr fun t ht => (h.written_eq (hthere id t ht)).2
      · rfl

/-- **The store is called** just if a task is new, has gone, or is not the same as it was read. -/
theorem commit_eq_done_iff : tx.commit = .done (.ok tx.tasks) ↔
    ∀ id, tx.original.has id = tx.tasks.has id ∧
      ∀ t, tx.tasks.get? id = some t → tx.original.holds t = true := by
  have hempty : tx.commit = .done (.ok tx.tasks) ↔ tx.changeSet.isEmpty = true := by
    unfold commit
    split <;> simp_all
  rw [hempty]
  refine isEmpty_between_iff.trans (forall_congr' fun id => and_congr_right fun _ => ?_)
  refine forall₂_congr fun t ht => and_iff_right_of_imp fun hholds hid => ?_
  -- what is new was not read
  obtain ⟨s, hs, -⟩ := TaskMap.holds_iff.mp hholds
  rw [TaskMap.id_of_get? ht, h.get?_created hid] at hs
  cases hs

end Tracks

/-- A transaction that could be committed keeps track of the store if it adds no task that the store
has. -/
theorem tracks_prepare (title : String) (start : Start)
    (hnew : ∀ t, .insertNew t ∈ actions → store.has t.id = false) :
    ((prepare title start actions).run memory false store).2 = store ∧
      ∀ tx, ((prepare title start actions).run memory false store).1 = .ok tx → Tracks store tx :=
  run_prepare (fun _ h => h) fun _ _ _ haction htracks hstep =>
    hstep.tracks htracks fun t ht => hnew t (ht ▸ haction)

/-- **The difference that a transaction commits is exact.**  A transaction reads all of a store, or
tasks with given identifiers, and its caller reads more, changes tasks in place, adds tasks that the
store does not have, and takes tasks out, in any order and whether or not each of it succeeds.
Nothing is written meanwhile.  If the store is still the same when the transaction is committed, then
the commit succeeds and gives the working copy, in which a new task has version 1, a task that is the
same as it was read the version that it had, and any other the next version; these are 64-bit words
if those that were read had room.  Of all tasks that were read or are in the working copy the store
holds just that, but where a task is the same as it was read it keeps the one that was read; and it
holds every other task as before.  The store is not even called just if no task is new or has gone and
every task is the same as it was read. -/
theorem commit_exact (title : String) (start : Start) (actions : List Action)
    (hprepare : ((prepare title start actions).run memory false store).1 = .ok tx)
    (hnew : ∀ t, .insertNew t ∈ actions → store.has t.id = false)
    (hroom : tx.original.HasRoom 1) :
    ((prepare title start actions).run memory false store).2 = store ∧
    (∃ written after, tx.commit.run memory false store = (.ok written, after) ∧
      (∀ id, written.get? id =
        (tx.tasks.get? id).map fun t => { t with version := tx.assigned t }) ∧
      (∀ t, tx.assigned t < UInt64.size) ∧
      ∀ id, after.get? id =
        if tx.original.has id || tx.tasks.has id then (tx.tasks.get? id).map tx.kept
        else store.get? id) ∧
    (tx.commit = .done (.ok tx.tasks) ↔
      ∀ id, tx.original.has id = tx.tasks.has id ∧
        ∀ t, tx.tasks.get? id = some t → tx.original.holds t = true) := by
  obtain ⟨hstore, htracks⟩ := tracks_prepare title start hnew
  have h : Tracks store tx := htracks tx hprepare
  obtain ⟨written, after, hrun, hwritten, hafter⟩ := h.exists_committed
  exact ⟨hstore, ⟨written, after, hrun, hwritten, assigned_lt hroom, hafter⟩,
    h.commit_eq_done_iff⟩

namespace Sample

/-- The first of three tasks. -/
def dig : TaskId := ⟨"dig", by decide, by decide⟩

def pour : TaskId := ⟨"pour", by decide, by decide⟩

def cure : TaskId := ⟨"cure", by decide, by decide⟩

/-- A task that was written three times. -/
def plain (id : TaskId) : Task :=
  { Task.create id "" "" ⟨"foreman", by decide, by decide⟩ (.midnight .epoch) with version := 3 }

/-- Two of the tasks are stored. -/
def stored : TaskMap := .ofList [plain dig, plain pour]

/-- Gives a task a name. -/
def naming : Revision := ⟨fun t => { t with name := "named" }, fun _ => rfl, fun _ => rfl⟩

/-- The first task is named, the second is read, and the third is added. -/
def plan : List Action := [.modify dig naming, .load [pour], .insertNew (plain cure)]

/-- A task with a place on the diagonal. -/
def placed (id : TaskId) (coordinate : Double) : Task :=
  { plain id with tags := .ofList [⟨"site", .location ⟨coordinate, coordinate, ""⟩⟩] }

/-- The place of the first task is not a number, and that of the second is the origin. -/
def mapped : TaskMap := .ofList [placed dig .nan, placed pour (.finite (.zero false))]

/-- Gives a task the place of another. -/
def moving (there : Task) : Revision :=
  ⟨fun t => { t with tags := there.tags }, fun _ => rfl, fun _ => rfl⟩

/-- The signs of the second task's coordinates are turned. -/
def turning : List Action := [.modify pour (moving (placed pour (.finite (.zero true))))]

end Sample

/-- One task is changed, one is read only, and one is added.  A task whose place is not a number is
written although nobody has changed it, and another one is not written although the signs of its
coordinates, which are zero, were turned. -/
theorem committed_with_versions :
    (∃ tx written after,
      ((prepare "" (.named [Sample.dig]) Sample.plan).run memory false Sample.stored).1 = .ok tx ∧
      tx.commit.run memory false Sample.stored = (.ok written, after) ∧
      after.get? Sample.dig = some { Sample.plain Sample.dig with name := "named", version := 4 } ∧
      after.get? Sample.pour = some (Sample.plain Sample.pour) ∧
      after.get? Sample.cure = some { Sample.plain Sample.cure with version := 1 }) ∧
    ∃ tx written after,
      ((prepare "" .all Sample.turning).run memory false Sample.mapped).1 = .ok tx ∧
      tx.commit.run memory false Sample.mapped = (.ok written, after) ∧
      after.get? Sample.dig = some { Sample.placed Sample.dig .nan with version := 4 } ∧
      after.get? Sample.pour = some (Sample.placed Sample.pour (.finite (.zero false))) := by
  constructor
  · obtain ⟨tx, htx, hroom, hseen, ha, hb, hc⟩ : ∃ tx,
        ((prepare "" (.named [Sample.dig]) Sample.plan).run memory false Sample.stored).1 = .ok tx ∧
        tx.original.HasRoom 1 ∧
        (∀ id ∈ [Sample.dig, Sample.pour, Sample.cure], (tx.original.has id || tx.tasks.has id) = true) ∧
        (tx.tasks.get? Sample.dig).map tx.kept =
          some { Sample.plain Sample.dig with name := "named", version := 4 } ∧
        (tx.tasks.get? Sample.pour).map tx.kept = some (Sample.plain Sample.pour) ∧
        (tx.tasks.get? Sample.cure).map tx.kept =
          some { Sample.plain Sample.cure with version := 1 } :=
      ⟨_, rfl, by decide, by decide, rfl, rfl, rfl⟩
    have hnew : ∀ t, .insertNew t ∈ Sample.plan → Sample.stored.has t.id = false := by
      intro t ht
      obtain rfl : t = Sample.plain Sample.cure := by simpa [Sample.plan] using ht
      decide
    obtain ⟨-, ⟨written, after, hrun, -, -, hafter⟩, -⟩ :=
      commit_exact "" (.named [Sample.dig]) Sample.plan htx hnew hroom
    refine ⟨tx, written, after, htx, hrun, ?_, ?_, ?_⟩
    · rw [hafter, if_pos (hseen _ (by decide)), ha]
    · rw [hafter, if_pos (hseen _ (by decide)), hb]
    · rw [hafter, if_pos (hseen _ (by decide)), hc]
  · obtain ⟨tx, htx, hroom, hseen, ha, hb⟩ : ∃ tx,
        ((prepare "" .all Sample.turning).run memory false Sample.mapped).1 = .ok tx ∧
        tx.original.HasRoom 1 ∧
        (∀ id ∈ [Sample.dig, Sample.pour], (tx.original.has id || tx.tasks.has id) = true) ∧
        (tx.tasks.get? Sample.dig).map tx.kept =
          some { Sample.placed Sample.dig .nan with version := 4 } ∧
        (tx.tasks.get? Sample.pour).map tx.kept =
          some (Sample.placed Sample.pour (.finite (.zero false))) :=
      ⟨_, rfl, by decide, by decide, rfl, rfl⟩
    have hnew : ∀ t, .insertNew t ∈ Sample.turning → Sample.mapped.has t.id = false := by
      simp [Sample.turning]
    obtain ⟨-, ⟨written, after, hrun, -, -, hafter⟩, -⟩ :=
      commit_exact "" .all Sample.turning htx hnew hroom
    refine ⟨tx, written, after, htx, hrun, ?_, ?_⟩
    · rw [hafter, if_pos (hseen _ (by decide)), ha]
    · rw [hafter, if_pos (hseen _ (by decide)), hb]

end Transaction

end TaskPipeline
