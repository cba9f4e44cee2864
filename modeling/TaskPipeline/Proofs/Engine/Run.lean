import TaskPipeline.Proofs.Engine.Edit
import TaskPipeline.Proofs.Engine.Race
import TaskPipeline.Proofs.Engine.Transaction

/-!
# What a run of an operation can do

An operation that has the store to itself either fails and leaves the tasks alone, or one of its
tries is `Performed`: it read tasks that are up to date, its edit succeeded, and the store
accepted the difference (`Operation.run_script`).  Only taking the results out of the committed
tasks can fail after that.

What a performed operation does to the store follows from what its edit does: the flows afterwards
are the edited ones (`Operation.Performed.wellFormed`), and every task has an origin
(`Operation.Performed.origin`).  What the store has of an edited task is the committed task
(`Operation.Performed.get?_of_seen`), unless the edit adds nothing but tags: then it may be the task
that was read, which is the same.
-/

namespace TaskPipeline

namespace Operation

open ChangeSet

variable {policy : Policy} {op : Operation} {ambients : Nat → Ambient} {ambient : Ambient}
  {store before store' : TaskMap} {edited committed : Edited} {id : TaskId} {t t' : Task}

/-- The tasks that an operation reads: every task, one task, or one task and what it depends on. -/
def Reads (op : Operation) (tasks : TaskMap) (id : TaskId) : Prop :=
  match op.scope with
  | .whole => True
  | .task i => id = i
  | .withInflows i => id = i ∨ id ∈ Graph.inflowsOf tasks i

/-- What was read is part of what the operation reads. -/
def Within (op : Operation) (before : TaskMap) : Prop :=
  ∀ id, before.has id = true → op.Reads before id

/-- What an operation has read that has the store to itself. -/
structure HasRead (op : Operation) (before store : TaskMap) : Prop where
  /-- Nothing else was read. -/
  within : op.Within before
  /-- What was read is what the store holds. -/
  upToDate : UpToDate before store
  /-- An operation over the whole store has read all of it. -/
  whole : op.scope = .whole → before = store

/-- An operation was performed: `before` is what it read of the store, `edited` what its edit gave,
`committed` the same with the versions that were written, and `store'` the store afterwards. -/
structure Performed (policy : Policy) (op : Operation) (ambient : Ambient)
    (store before : TaskMap) (edited committed : Edited) (store' : TaskMap) : Prop
    extends HasRead op before store where
  /-- The edit succeeded. -/
  edits : op.edit policy ambient before = .ok edited
  /-- The tasks to return are those of the edit. -/
  returned : committed.2 = edited.2
  /-- The committed tasks are the edited ones with new versions. -/
  get?_committed : ∀ id, committed.1.get? id =
    (edited.1.get? id).map (versioned before (op.created edited))
  /-- The store holds what is stored of the edited tasks, and what the operation did not see. -/
  get?_store : ∀ id, store'.get? id =
    if before.has id || edited.1.has id then (edited.1.get? id).map (stored before (op.created edited))
    else store.get? id
  /-- What was created is new. -/
  isNew : ∀ id ∈ op.created edited, edited.1.has id = true → store.get? id = none

/-- How the tries of an operation end: with an error that changes nothing, or performed. -/
inductive Attempt (policy : Policy) (op : Operation) (ambients : Nat → Ambient) (store : TaskMap) :
    Except EngineError Edited → TaskMap → Prop where
  /-- Nothing was changed. -/
  | failed (e : EngineError) : Attempt policy op ambients store (.error e) store
  /-- One of the tries succeeded. -/
  | performed {n : Nat} {before store' : TaskMap} {edited committed : Edited}
      (h : Performed policy op (ambients n) store before edited committed store') :
      Attempt policy op ambients store (.ok committed) store'

theorem Attempt.store_eq_of_error {e : EngineError}
    (h : Attempt policy op ambients store (.error e) store') : store' = store := by
  cases h
  rfl

/-! ### Reading -/

theorem reads_of_whole (hscope : op.scope = .whole) (tasks : TaskMap) (id : TaskId) :
    op.Reads tasks id := by
  unfold Reads
  rw [hscope]
  trivial

/-- What an operation reads of a store it reads of a larger one. -/
theorem Reads.mono {tasks tasks' : TaskMap} (h : op.Reads tasks id) (hup : UpToDate tasks tasks') :
    op.Reads tasks' id := by
  unfold Reads at h ⊢
  cases hscope : op.scope with
  | whole => trivial
  | task i => rwa [hscope] at h
  | withInflows i =>
    rw [hscope] at h
    refine h.imp_right fun hmem => ?_
    obtain ⟨t, ht⟩ := TaskMap.has_iff.mp (Graph.has_of_mem_inflowsOf hmem)
    rwa [Graph.inflowsOf_of_get? (hup i t ht), ← Graph.inflowsOf_of_get? ht]

/-- An operation over the whole store that reads all of it. -/
theorem HasRead.all (hscope : op.scope = .whole) (store : TaskMap) : op.HasRead store store where
  within id _ := reads_of_whole hscope store id
  upToDate _ _ h := h
  whole _ := rfl

theorem has_ofList_of_requireAll {tasks : TaskMap} {j : TaskId} {ts : List Task}
    (hts : tasks.requireAll [id] = .ok ts) (hj : TaskMap.has (.ofList ts) j = true) : j = id := by
  rcases TaskMap.has_insertAll_of_requireAll hts hj with hnone | hmem
  · cases hnone
  · exact List.mem_singleton.mp hmem

theorem Within.of_task {tasks : TaskMap} {ts : List Task} (hscope : op.scope = .task id)
    (hts : tasks.requireAll [id] = .ok ts) : op.Within (.ofList ts) := by
  intro j hj
  unfold Reads
  rw [hscope]
  exact has_ofList_of_requireAll hts hj

/-- The task that is to be started is among those that were read. -/
theorem get?_of_startable
    (h : (before.demand id >>= fun t => (refusing t.canStart).map fun _ => t) = .ok t) :
    before.get? id = some t := by
  obtain ⟨u, hu, hmap⟩ := bind_eq_ok_iff.mp h
  obtain ⟨-, -, rfl⟩ := map_eq_ok_iff.mp hmap
  exact TaskMap.demand_eq_ok_iff.mp hu

theorem Within.of_inflows {tasks later : TaskMap} {ts us : List Task}
    (hscope : op.scope = .withInflows id) (hts : tasks.requireAll [id] = .ok ts)
    (ht : TaskMap.get? (.ofList ts) id = some t)
    (hus : later.requireAll (t.inflows.ids.filter fun i => !TaskMap.has (.ofList ts) i) = .ok us) :
    op.Within (Catalog.insertAll (.ofList ts) us) := by
  intro j hj
  -- the second read does not touch the task itself
  have hself : TaskMap.get? (Catalog.insertAll (.ofList ts) us) id = some t := by
    rw [TaskMap.get?_insertAll_of_forall_ne fun u hu huid => ?_, ht]
    have hmem : u.id ∈ us.map Task.id := List.mem_map_of_mem hu
    rw [TaskMap.map_id_of_map_get? (TaskMap.requireAll_eq_ok_iff.mp hus), huid,
      List.mem_filter, TaskMap.has_iff.mpr ⟨t, ht⟩] at hmem
    simp at hmem
  unfold Reads
  rw [hscope]
  dsimp only
  rw [Graph.inflowsOf_of_get? hself]
  rcases TaskMap.has_insertAll_of_requireAll hus hj with hfirst | hmem
  · exact .inl (has_ofList_of_requireAll hts hfirst)
  · exact .inr (List.mem_filter.mp hmem).1

/-! ### Runs -/

section Runs

variable {σ : Type} {repo : Repository σ} {view : σ → TaskMap} {expired : Bool} {s : σ}

/-- **Committing an edit** performs the operation or changes nothing. -/
theorem run_commit (hrepo : repo.Faithful view) (expired : Bool) (hread : op.HasRead before (view s))
    (hedit : op.edit policy ambient before = .ok edited) :
    (∃ e, ((op.commit before edited).run repo expired s).1 = .error e ∧
      view ((op.commit before edited).run repo expired s).2 = view s) ∨
    ∃ committed, ((op.commit before edited).run repo expired s).1 = .ok committed ∧
      Performed policy op ambient (view s) before edited committed
        (view ((op.commit before edited).run repo expired s).2) := by
  rw [commit_as_transaction, Script.run_bind]
  rcases Transaction.run_commit
      ⟨op.title, before, edited.1, op.created edited, op.scope = .whole⟩ hrepo expired
      hread.upToDate with
    ⟨e, he, hview⟩ | ⟨written, hok, hwritten, hafter, hnew⟩
  · rw [he]
    exact .inl ⟨e, rfl, hview⟩
  · rw [hok]
    exact .inr ⟨(written, edited.2), rfl, hread, hedit, rfl, hwritten, hafter, hnew⟩

theorem attempt_editAndCommit (hrepo : repo.Faithful view) {n : Nat}
    (hread : op.HasRead before (view s)) :
    Attempt policy op ambients (view s)
      ((op.editAndCommit policy (ambients n) before).run repo expired s).1
      (view ((op.editAndCommit policy (ambients n) before).run repo expired s).2) := by
  unfold editAndCommit
  cases hedit : op.edit policy (ambients n) before with
  | error e => exact .failed e
  | ok edited =>
    dsimp only
    rcases run_commit hrepo expired hread hedit with
      ⟨e, he, hview⟩ | ⟨committed, hok, hperformed⟩
    · rw [he, hview]
      exact .failed e
    · rw [hok]
      exact .performed hperformed

theorem attempt_tryWhole (hrepo : repo.Faithful view) (hscope : op.scope = .whole) (n : Nat) :
    Attempt policy op ambients (view s) ((op.tryWhole policy (ambients n)).run repo expired s).1
      (view ((op.tryWhole policy (ambients n)).run repo expired s).2) := by
  unfold tryWhole
  rw [Script.run]
  rcases hrepo.list expired s with ⟨e, he, hview⟩ | ⟨hok, hview⟩
  · simp only [he, Script.run, hview]
    exact .failed _
  · simp only [hok, TaskMap.ofList_toList]
    rw [← hview]
    exact attempt_editAndCommit hrepo (.all hscope _)

/-- **Trying again** ends like one of the tries. -/
theorem attempt_retrying (hrepo : repo.Faithful view) (hscope : op.scope = .whole)
    (n retries : Nat) :
    Attempt policy op ambients (view s)
      ((op.retrying policy ambients n retries).run repo expired s).1
      (view ((op.retrying policy ambients n retries).run repo expired s).2) := by
  induction retries generalizing n s with
  | zero => exact attempt_tryWhole hrepo hscope n
  | succ retries ih =>
    have htry : Attempt policy op ambients (view s)
        ((op.tryWhole policy (ambients n)).run repo expired s).1
        (view ((op.tryWhole policy (ambients n)).run repo expired s).2) :=
      attempt_tryWhole hrepo hscope n
    unfold retrying
    rw [Script.run_bind']
    split
    · next hconflict =>
      -- a try that lost a race has changed nothing
      rw [hconflict] at htry
      rw [← htry.store_eq_of_error]
      exact ih (n + 1)
    · exact htry

theorem attempt_runTask (hrepo : repo.Faithful view) (id : TaskId) (hscope : op.scope = .task id) :
    Attempt policy op ambients (view s) ((op.runTask policy (ambients 0) id).run repo expired s).1
      (view ((op.runTask policy (ambients 0) id).run repo expired s).2) := by
  unfold runTask
  rw [Script.run]
  rcases hrepo.getMany expired [id] s with ⟨e, he, hview⟩ | ⟨ts, hok, hts, hview⟩
  · simp only [he, Script.run, hview]
    exact .failed _
  · simp only [hok]
    rw [← hview] at hts ⊢
    have hup : UpToDate (.ofList ts) (view (repo.perform expired (.getMany [id]) s).2) :=
      upToDate_insertAll upToDate_empty fun t ht => TaskMap.get?_of_requireAll hts ht
    exact attempt_editAndCommit hrepo
      ⟨.of_task hscope hts, hup, fun h => by rw [hscope] at h; cases h⟩

theorem attempt_runWithInflows (hrepo : repo.Faithful view) (id : TaskId)
    (hscope : op.scope = .withInflows id) :
    Attempt policy op ambients (view s)
      ((op.runWithInflows policy (ambients 0) id).run repo expired s).1
      (view ((op.runWithInflows policy (ambients 0) id).run repo expired s).2) := by
  unfold runWithInflows
  rw [Script.run]
  rcases hrepo.getMany expired [id] s with ⟨e, he, hview⟩ | ⟨ts, hok, hts, hview⟩
  · simp only [he, Script.run, hview]
    exact .failed _
  · simp only [hok]
    rw [← hview] at hts ⊢
    have hup : UpToDate (.ofList ts) (view (repo.perform expired (.getMany [id]) s).2) :=
      upToDate_insertAll upToDate_empty fun t ht => TaskMap.get?_of_requireAll hts ht
    have hwhole : op.scope ≠ .whole := fun h => by
      rw [hscope] at h
      cases h
    split
    · exact .failed _
    · next t ht =>
      have hwithin : ∀ later us, TaskMap.requireAll later _ = .ok us → op.Within _ :=
        fun later us => Within.of_inflows hscope hts (get?_of_startable ht)
      generalize (t.inflows.ids.filter fun i => !TaskMap.has (.ofList ts) i) = missing at hwithin ⊢
      cases missing with
      | nil =>
        exact attempt_editAndCommit hrepo ⟨hwithin .empty [] rfl, hup, fun h => absurd h hwhole⟩
      | cons i rest =>
        dsimp only
        rw [Script.run]
        generalize (repo.perform expired (.getMany [id]) s).2 = s₁ at hup ⊢
        rcases hrepo.getMany expired (i :: rest) s₁ with ⟨e, he, hview₁⟩ | ⟨us, hok₁, hus, hview₁⟩
        · simp only [he, Script.run, hview₁]
          exact .failed _
        · simp only [hok₁]
          rw [← hview₁] at hus hup ⊢
          have hup₁ := upToDate_insertAll hup fun t ht => TaskMap.get?_of_requireAll hus ht
          exact attempt_editAndCommit hrepo ⟨hwithin _ us hus, hup₁, fun h => absurd h hwhole⟩

/-- The tries of an operation, over the part of the store that it reads. -/
def tries (policy : Policy) (op : Operation) (ambients : Nat → Ambient) :
    Script (Except EngineError Edited) :=
  match op.scope with
  | .whole => op.retrying policy ambients 0 policy.retries
  | .task id => op.runTask policy (ambients 0) id
  | .withInflows id => op.runWithInflows policy (ambients 0) id

theorem attempt_tries (hrepo : repo.Faithful view) :
    Attempt policy op ambients (view s) ((op.tries policy ambients).run repo expired s).1
      (view ((op.tries policy ambients).run repo expired s).2) := by
  unfold tries
  cases hscope : op.scope with
  | whole => exact attempt_retrying hrepo hscope 0 policy.retries
  | task id => exact attempt_runTask hrepo id hscope
  | withInflows id => exact attempt_runWithInflows hrepo id hscope

/-- An operation checks its arguments, makes its tries and takes its results out of the committed
tasks. -/
theorem script_eq (policy : Policy) (op : Operation) (ambients : Nat → Ambient) :
    op.script policy ambients =
      match op.checkArguments with
      | .error e => .done (.error e)
      | .ok () => (op.tries policy ambients).bind fun outcome => .done (outcome >>= results) := by
  unfold script tries
  cases op.checkArguments with
  | error e => rfl
  | ok u => cases op.scope <;> rfl

/-- **What a run of an operation can do** to a store that it has to itself: fail and leave the tasks
alone, or be performed and return its results. -/
theorem run_script (hrepo : repo.Faithful view) :
    (∃ e, ((op.script policy ambients).run repo expired s).1 = .error e ∧
      view ((op.script policy ambients).run repo expired s).2 = view s) ∨
    ∃ n before edited committed, op.checkArguments = .ok () ∧
      Performed policy op (ambients n) (view s) before edited committed
        (view ((op.script policy ambients).run repo expired s).2) ∧
      ((op.script policy ambients).run repo expired s).1 = results committed := by
  rw [script_eq]
  cases op.checkArguments with
  | error e => exact .inl ⟨e, rfl, rfl⟩
  | ok u =>
    dsimp only
    rw [Script.run_bind]
    have hattempt : Attempt policy op ambients (view s)
        ((op.tries policy ambients).run repo expired s).1
        (view ((op.tries policy ambients).run repo expired s).2) := attempt_tries hrepo
    generalize (op.tries policy ambients).run repo expired s = r at hattempt ⊢
    obtain ⟨outcome, s'⟩ := r
    dsimp only [Script.run] at hattempt ⊢
    generalize view s' = store' at hattempt ⊢
    cases hattempt with
    | failed e => exact .inl ⟨e, rfl, rfl⟩
    | @performed n before _ edited committed h =>
      exact .inr ⟨n, before, edited, committed, rfl, h, rfl⟩

end Runs

/-- **One try is enough** for an operation over the whole store unless it loses a race. -/
theorem run_tries_of_noRace {σ : Type} {repo : Repository σ} {expired : Bool} {s : σ}
    (hscope : op.scope = .whole) (h : ∀ message,
      ((op.tryWhole policy (ambients 0)).run repo expired s).1 ≠ .error (.conflict message)) :
    (op.tries policy ambients).run repo expired s =
      (op.tryWhole policy (ambients 0)).run repo expired s := by
  unfold tries
  rw [hscope]
  cases policy.retries with
  | zero => rfl
  | succ retries =>
    dsimp only
    rw [retrying, Script.run_bind']
    split
    · next hrace => exact absurd hrace (h _)
    · rfl

/-! ### Runs on the store in memory -/

/-- **Committing succeeds** if what was read is up to date and what is created is new. -/
theorem run_commit_memory (hargs : op.checkArguments = .ok ()) (hread : op.HasRead before store)
    (hedit : op.edit policy ambient before = .ok edited)
    (hnew : ∀ id ∈ op.created edited, store.get? id = none) :
    ∃ committed, ((op.commit before edited).run memory false store).1 = .ok committed ∧
      Performed policy op ambient store before edited committed
        ((op.commit before edited).run memory false store).2 := by
  have hcheck : (between before edited.1 (op.created edited) (op.scope = .whole)).check store =
      .ok () := by
    exact check_between_eq_ok hread.upToDate (fun h => hread.whole (of_decide_eq_true h))
      (fun id hid _ => hnew id hid) (version_of_edit hargs hedit)
  rcases run_commit memory_faithful false hread hedit with ⟨e, he, -⟩ | hperformed
  · unfold commit at he
    dsimp only at he
    split at he
    · cases he
    · rw [Script.run, memory_commit_of_check hcheck] at he
      cases he
  · exact hperformed

/-- **An operation over the whole store succeeds in its first try** if its edit succeeds and what it
creates is new. -/
theorem run_script_memory (hscope : op.scope = .whole) (hargs : op.checkArguments = .ok ())
    (hedit : op.edit policy (ambients 0) store = .ok edited)
    (hnew : ∀ id ∈ op.created edited, store.get? id = none) :
    ∃ committed, ((op.script policy ambients).run memory false store).1 = results committed ∧
      Performed policy op (ambients 0) store store edited committed
        ((op.script policy ambients).run memory false store).2 := by
  obtain ⟨committed, hok, hperformed⟩ :=
    run_commit_memory hargs (.all hscope store) hedit hnew
  have htry : (op.tryWhole policy (ambients 0)).run memory false store =
      (.ok committed, ((op.commit store edited).run memory false store).2) := by
    unfold tryWhole
    rw [Script.run]
    show ((op.editAndCommit policy (ambients 0) (.ofList store.toList)).run memory false store) = _
    rw [TaskMap.ofList_toList, editAndCommit, hedit]
    exact Prod.ext hok rfl
  refine ⟨committed, ?_⟩
  rw [script_eq, hargs]
  dsimp only
  rw [Script.run_bind, run_tries_of_noRace hscope fun message hrace => ?_, htry]
  · exact ⟨rfl, hperformed⟩
  · rw [htry] at hrace
    cases hrace

/-- An operation over the whole store ends with its first try if its edit fails. -/
theorem run_script_memory_error {e : EngineError} (hscope : op.scope = .whole)
    (hargs : op.checkArguments = .ok ()) (hedit : op.edit policy (ambients 0) store = .error e) :
    (op.script policy ambients).run memory false store = (.error e, store) := by
  have htry : (op.tryWhole policy (ambients 0)).run memory false store = (.error e, store) := by
    unfold tryWhole
    rw [Script.run]
    show ((op.editAndCommit policy (ambients 0) (.ofList store.toList)).run memory false store) = _
    rw [TaskMap.ofList_toList, editAndCommit, hedit]
    rfl
  rw [script_eq, hargs]
  dsimp only
  rw [Script.run_bind, run_tries_of_noRace hscope fun message hrace => ?_, htry]
  · rfl
  · have hno := noRace_edit policy op (ambients 0) store e hedit
    rw [htry] at hrace
    injection hrace with hrace
    rw [hrace] at hno
    cases hno

/-! ### What is stored afterwards -/

/-- Writing a task changes its version only. -/
theorem keeps_versioned (before : TaskMap) (created : List TaskId) (t : Task) :
    ∃ v, versioned before created t = { t with version := v } := by
  unfold versioned
  split
  · exact ⟨1, rfl⟩
  · split
    · exact ⟨t.version, rfl⟩
    · exact ⟨t.version + 1, rfl⟩

theorem stage_versioned (before : TaskMap) (created : List TaskId) (t : Task) :
    (versioned before created t).stage = t.stage := by
  obtain ⟨v, hv⟩ := keeps_versioned before created t
  rw [hv]

/-- What is stored of a task differs from it in its version and its tags at most. -/
theorem keeps_stored (before : TaskMap) (created : List TaskId) (t : Task) :
    ∃ v tags, stored before created t = { t with version := v, tags := tags } := by
  rcases stored_cases before created t with ⟨-, ⟨s, -, hsame, hs⟩, -⟩ | ⟨-, hs⟩
  · exact ⟨s.version, s.tags, by rw [hs, ← Task.of_same hsame]⟩
  · obtain ⟨v, hv⟩ := keeps_versioned before created t
    exact ⟨v, t.tags, hs.trans hv⟩

/-- What is stored of tasks has their flows. -/
theorem flows_of_stored {tasks : TaskMap} {created : List TaskId}
    (h : store'.get? id = (tasks.get? id).map (stored before created)) :
    Graph.inflowsOf store' id = Graph.inflowsOf tasks id ∧
      Graph.outflowsOf store' id = Graph.outflowsOf tasks id := by
  cases hget : tasks.get? id with
  | none =>
    rw [hget, Option.map_none] at h
    rw [Graph.inflowsOf_of_none hget, Graph.inflowsOf_of_none h, Graph.outflowsOf_of_none hget,
      Graph.outflowsOf_of_none h]
    exact ⟨rfl, rfl⟩
  | some t =>
    rw [hget, Option.map_some] at h
    rw [Graph.inflowsOf_of_get? hget, Graph.inflowsOf_of_get? h, Graph.outflowsOf_of_get? hget,
      Graph.outflowsOf_of_get? h]
    obtain ⟨v, tags, hv⟩ := keeps_stored before created t
    rw [hv]
    exact ⟨rfl, rfl⟩

theorem mem_returned_of_mem_created (h : id ∈ op.created edited) : id ∈ edited.2 := by
  unfold created at h
  split at h
  · exact h
  · exact h
  · cases h

theorem results_eq_ok_iff {ts : List Task} : results committed = .ok ts ↔
    committed.2.Nodup ∧ committed.2.map committed.1.get? = ts.map some := by
  rw [← TaskMap.takeAll_eq_ok_iff]
  unfold results
  cases Journal.takeAll committed.1 committed.2 <;> simp [Except.mapError]

/-- A result is one of the committed tasks that are to be returned. -/
theorem mem_of_results {ts : List Task} (hts : results committed = .ok ts) :
    ∀ t ∈ ts, t.id ∈ committed.2 ∧ committed.1.get? t.id = some t := by
  intro t ht
  have hmem : some t ∈ committed.2.map committed.1.get? := by
    rw [(results_eq_ok_iff.mp hts).2]
    exact List.mem_map_of_mem ht
  obtain ⟨id, hid, hget⟩ := List.mem_map.mp hmem
  rw [TaskMap.id_of_get? hget]
  exact ⟨hid, hget⟩

/-- Tasks that are there are taken out, each once. -/
theorem results_ok_of_has (hnd : committed.2.Nodup)
    (hhas : ∀ id ∈ committed.2, committed.1.has id = true) : ∃ ts, results committed = .ok ts := by
  refine ⟨committed.2.filterMap committed.1.get?, results_eq_ok_iff.mpr ⟨hnd, ?_⟩⟩
  clear hnd
  generalize committed.2 = ids at hhas
  induction ids with
  | nil => rfl
  | cons id ids ih =>
    obtain ⟨t, ht⟩ := TaskMap.has_iff.mp (hhas id List.mem_cons_self)
    rw [List.filterMap_cons_some ht, List.map_cons, List.map_cons, ht,
      ih fun j hj => hhas j (List.mem_cons_of_mem _ hj)]

namespace Performed

variable (h : Performed policy op ambient store before edited committed store')

include h

theorem get?_created (hargs : op.checkArguments = .ok ()) :
    ∀ id ∈ op.created edited, store.get? id = none := fun id hid =>
  h.isNew id hid ((edits_of_edit h.edits).has_returned hargs id (mem_returned_of_mem_created hid))

/-- What the operation has seen has the edited flows, and the rest has the flows that it had. -/
theorem flows_store (id : TaskId) :
    Graph.inflowsOf store' id = (if before.has id || edited.1.has id then
      Graph.inflowsOf edited.1 id else Graph.inflowsOf store id) ∧
    Graph.outflowsOf store' id = (if before.has id || edited.1.has id then
      Graph.outflowsOf edited.1 id else Graph.outflowsOf store id) := by
  have hstore := h.get?_store id
  by_cases hseen : (before.has id || edited.1.has id) = true
  · rw [if_pos hseen] at hstore
    rw [if_pos hseen, if_pos hseen]
    exact flows_of_stored hstore
  · rw [if_neg hseen] at hstore
    rw [if_neg hseen, if_neg hseen]
    unfold Graph.inflowsOf Graph.outflowsOf
    rw [hstore]
    exact ⟨rfl, rfl⟩

/-- After an operation over the whole store it has the edited tasks, and nothing else. -/
theorem get?_of_all (hscope : op.scope = .whole) (id : TaskId) :
    store'.get? id = (edited.1.get? id).map (stored before (op.created edited)) := by
  rw [h.get?_store]
  split
  · rfl
  · next hseen =>
    rw [Bool.or_eq_true, not_or, Bool.not_eq_true, Bool.not_eq_true] at hseen
    rw [← h.whole hscope, TaskMap.get?_eq_none_iff.mpr hseen.1,
      TaskMap.get?_eq_none_iff.mpr hseen.2, Option.map_none]

/-- After an operation over the whole store it has the edited flows. -/
theorem flows_of_whole (hscope : op.scope = .whole) (id : TaskId) :
    Graph.inflowsOf store' id = Graph.inflowsOf edited.1 id ∧
      Graph.outflowsOf store' id = Graph.outflowsOf edited.1 id :=
  flows_of_stored (h.get?_of_all hscope id)

/-- What is stored of the edited tasks is what was committed, unless the edit adds nothing but
tags. -/
theorem map_stored (hargs : op.checkArguments = .ok ()) (hop : op.retags = false) (id : TaskId) :
    (edited.1.get? id).map (stored before (op.created edited)) =
      (edited.1.get? id).map (versioned before (op.created edited)) := by
  refine Option.map_congr fun t ht => ?_
  rcases stored_cases before (op.created edited) t with ⟨hid, ⟨s, hs, hsame, hst⟩, hv⟩ | ⟨-, hst⟩
  · rw [hst, hv]
    exact ((edits_of_edit h.edits).origin hargs ht).eq_of_same hop hid hs hsame
  · exact hst

/-- **The store holds what was committed**, and what the operation did not see, unless the edit adds
nothing but tags. -/
theorem get?_of_seen (hargs : op.checkArguments = .ok ()) (hop : op.retags = false) (id : TaskId) :
    store'.get? id =
      if before.has id || edited.1.has id then committed.1.get? id else store.get? id := by
  rw [h.get?_store, h.map_stored hargs hop, ← h.get?_committed]

/-- After an operation over the whole store it holds the edited tasks with the versions that they
got, and nothing else. -/
theorem get?_of_whole (hargs : op.checkArguments = .ok ()) (hscope : op.scope = .whole)
    (id : TaskId) : store'.get? id = (edited.1.get? id).map (versioned before (op.created edited)) :=
  (h.get?_of_all hscope id).trans (h.map_stored hargs (retags_of_whole hscope) id)

/-- It holds the edited tasks and no others. -/
theorem has_of_whole (hscope : op.scope = .whole) (id : TaskId) :
    store'.has id = edited.1.has id := by
  rw [TaskMap.has_eq_isSome, h.get?_of_all hscope, Option.isSome_map, TaskMap.has_eq_isSome]

/-- They stand where they were put. -/
theorem location_of_whole (hscope : op.scope = .whole) (id : TaskId) :
    (store'.get? id).map Task.location = (edited.1.get? id).map Task.location := by
  have hsame : Task.location ∘ stored before (op.created edited) = Task.location := by
    refine funext fun t => ?_
    obtain ⟨v, tags, hv⟩ := keeps_stored before (op.created edited) t
    show (stored before (op.created edited) t).location = t.location
    rw [hv]
  rw [h.get?_of_all hscope, Option.map_map, hsame]

/-- An operation over the whole store that changes and creates nothing leaves the store as it is, if
every task is the same as itself. -/
theorem store_eq_of_unchanged (hscope : op.scope = .whole) (hsame : edited.1 = store)
    (hnone : op.created edited = []) (hself : store.SelfSame) : store' = store := by
  refine TaskMap.ext_get? fun id => ?_
  rw [h.get?_of_all hscope, hsame, hnone, h.whole hscope]
  cases hget : store.get? id with
  | none => rfl
  | some t =>
    obtain rfl := TaskMap.id_of_get? hget
    have hholds := TaskMap.holds_iff.mpr ⟨t, hget, hself t (TaskMap.mem_of_get? hget)⟩
    rw [Option.map_some, ← stored_of_holds List.not_mem_nil hholds, hget]

/-- An operation over the whole store writes every task that is not the same as itself. -/
theorem ne_of_restless (hargs : op.checkArguments = .ok ()) (hscope : op.scope = .whole)
    (ht : store.get? id = some t) (hno : t.same t = false) : store'.get? id ≠ some t := by
  intro hsame
  rw [h.get?_of_all hscope] at hsame
  obtain ⟨u, hu, hstored⟩ := Option.map_eq_some_iff.mp hsame
  obtain rfl := TaskMap.id_of_get? hu
  rw [← h.whole hscope] at ht
  have hold := h.upToDate u.id t ht
  have hnew : u.id ∉ op.created edited := fun hid => by
    rw [h.get?_created hargs u.id hid] at hold
    cases hold
  rcases stored_cases before (op.created edited) u with
    ⟨-, ⟨s, hs, hsu, hst⟩, -⟩ | ⟨hwritten, hst⟩
  · -- what is the same as another task is the same as itself
    obtain rfl : t = s := Option.some.inj (ht.symm.trans hs)
    rw [Task.same_self_of_same hsu] at hno
    cases hno
  · rw [hst, versioned_of_changed hnew (hwritten.resolve_left hnew)] at hstored
    obtain ⟨s, hs, hversion⟩ := ((edits_of_edit h.edits).origin hargs hu).version hnew
    obtain rfl : t = s := Option.some.inj (ht.symm.trans hs)
    have hnext := congrArg Task.version hstored
    dsimp only at hnext
    omega

/-- **A performed operation keeps the graph well-formed.** -/
theorem wellFormed (hargs : op.checkArguments = .ok ()) (hwf : Graph.WellFormed store) :
    Graph.WellFormed store' := by
  have hedits := edits_of_edit h.edits
  -- the edit of the whole store keeps it well-formed; any other edit changes no flows
  by_cases hscope : op.scope = .whole
  · obtain rfl := h.whole hscope
    exact wellFormed_of_flows (hedits.wellFormed hargs (h.get?_created hargs) hwf)
      (h.flows_of_whole hscope)
  · obtain ⟨t, t', ht, hchange, heq⟩ := hedits.one_of_scope hscope
    obtain ⟨hid, -, hin, hout⟩ := hchange.keeps
    refine wellFormed_of_flows hwf fun id => ?_
    rw [(h.flows_store id).1, (h.flows_store id).2, heq]
    have hflows := flows_insert_changed (hid ▸ ht) hin hout id
    rw [hflows.1, hflows.2]
    split
    · next hseen =>
      -- the task that was changed had been read
      have hread : ∃ u, before.get? id = some u := by
        rcases Bool.or_eq_true_iff.mp hseen with hb | he
        · exact TaskMap.has_iff.mp hb
        · obtain ⟨u, hu⟩ := TaskMap.has_iff.mp he
          rw [TaskMap.get?_insert] at hu
          split at hu
          · next hidt => exact ⟨t, by rw [← hidt, hid, ht]⟩
          · exact ⟨u, hu⟩
      obtain ⟨u, hu⟩ := hread
      have hs := h.upToDate id u hu
      rw [Graph.inflowsOf_of_get? hu, Graph.inflowsOf_of_get? hs, Graph.outflowsOf_of_get? hu,
        Graph.outflowsOf_of_get? hs]
      exact ⟨rfl, rfl⟩
    · exact ⟨rfl, rfl⟩

/-- **Where the stored tasks come from**: a task was stored before, or it is an edited one with the
version that it got. -/
theorem origin (hargs : op.checkArguments = .ok ()) (ht' : store'.get? id = some t') :
    store.get? id = some t' ∨ ∃ t v, Origin policy ambient before (op.created edited) op t ∧
      t' = { t with version := v } := by
  rw [h.get?_store] at ht'
  split at ht'
  · cases hget : edited.1.get? id with
    | none => rw [hget] at ht'; cases ht'
    | some t =>
      obtain rfl := TaskMap.id_of_get? hget
      rw [hget, Option.map_some] at ht'
      cases ht'
      rcases stored_cases before (op.created edited) t with ⟨-, ⟨s, hs, -, hst⟩, -⟩ | ⟨-, hst⟩
      · exact .inl (hst ▸ h.upToDate t.id s hs)
      · obtain ⟨v, hv⟩ := keeps_versioned before (op.created edited) t
        exact .inr ⟨t, v, (edits_of_edit h.edits).origin hargs hget, hst.trans hv⟩
  · exact .inl ht'

/-- The store holds what the edit has made of a task, with some version, unless the edit adds nothing
but tags. -/
theorem get?_of_edited (hargs : op.checkArguments = .ok ()) (hop : op.retags = false)
    (ht : edited.1.get? id = some t) : ∃ v, store'.get? id = some { t with version := v } := by
  obtain ⟨v, hv⟩ := keeps_versioned before (op.created edited) t
  refine ⟨v, ?_⟩
  rw [h.get?_of_seen hargs hop, TaskMap.has_iff.mpr ⟨t, ht⟩, Bool.or_true, if_pos rfl,
    h.get?_committed, ht, Option.map_some, hv]

/-- **What becomes of a stored task**: it stays as it is, or it was read and an edited task takes
its place, or it goes away because it is merged into another or split. -/
theorem fate (hargs : op.checkArguments = .ok ()) (ht : store.get? id = some t) :
    store'.get? id = some t ∨
    before.get? id = some t ∧ (
      (∃ u v, Origin policy ambient before (op.created edited) op u ∧ u.id = id ∧
        id ∉ op.created edited ∧ store'.get? id = some { u with version := v }) ∨
      store'.get? id = none ∧ ((∃ target, op = .merge id target) ∨
        ∃ names descriptions, op = .split id names descriptions)) := by
  have hedits := edits_of_edit h.edits
  have hnew : id ∉ op.created edited := fun hid => by
    rw [h.get?_created hargs id hid] at ht
    cases ht
  have hstore := h.get?_store id
  -- it is still wanted, or it is gone from the edited tasks because it had been read
  cases hedited : edited.1.get? id with
  | some u =>
    have horigin := hedits.origin hargs hedited
    have huid := TaskMap.id_of_get? hedited
    obtain ⟨t₀, ht₀, -⟩ := horigin.version (huid ▸ hnew)
    rw [huid] at ht₀
    have ht₀' := h.upToDate id t₀ ht₀
    rw [ht] at ht₀'
    cases ht₀'
    rw [TaskMap.has_iff.mpr ⟨u, hedited⟩, Bool.or_true, if_pos rfl, hedited, Option.map_some]
      at hstore
    rcases stored_cases before (op.created edited) u with ⟨-, ⟨s, hs, -, hst⟩, -⟩ | ⟨-, hst⟩
    · -- it is the same as it was read
      rw [huid, ht₀] at hs
      cases hs
      exact .inl (hstore.trans (congrArg some hst))
    · obtain ⟨v, hv⟩ := keeps_versioned before (op.created edited) u
      exact .inr ⟨ht₀, .inl ⟨u, v, horigin, huid, hnew,
        hstore.trans (congrArg some (hst.trans hv))⟩⟩
  | none =>
    rw [TaskMap.get?_eq_none_iff.mp hedited, Bool.or_false, hedited, Option.map_none] at hstore
    cases hbefore : before.get? id with
    | none =>
      rw [if_neg (by rw [TaskMap.get?_eq_none_iff.mp hbefore]; exact Bool.false_ne_true)] at hstore
      exact .inl (hstore.trans ht)
    | some t₀ =>
      have hhas := TaskMap.has_iff.mpr ⟨t₀, hbefore⟩
      have ht₀' := h.upToDate id t₀ hbefore
      rw [ht] at ht₀'
      cases ht₀'
      rw [if_pos hhas] at hstore
      refine .inr ⟨rfl, .inr ⟨hstore, ?_⟩⟩
      rcases hedits.has_of_has hargs hhas with hthere | hgone
      · rw [TaskMap.get?_eq_none_iff.mp hedited] at hthere
        cases hthere
      · exact hgone

/-- The tasks to return are there. -/
theorem has_committed (hargs : op.checkArguments = .ok ()) :
    ∀ id ∈ committed.2, committed.1.has id = true := by
  intro id hid
  have hhas := (edits_of_edit h.edits).has_returned hargs id (h.returned ▸ hid)
  rw [TaskMap.has_eq_isSome, h.get?_committed, Option.isSome_map, ← TaskMap.has_eq_isSome, hhas]

/-- **The results are there** unless a task is to be returned twice. -/
theorem results_ok (hargs : op.checkArguments = .ok ()) (hnd : edited.2.Nodup) :
    ∃ ts, results committed = .ok ts :=
  results_ok_of_has (h.returned ▸ hnd) (h.has_committed hargs)

/-- **The results are the stored tasks**, unless the edit adds nothing but tags. -/
theorem get?_results (hargs : op.checkArguments = .ok ()) (hop : op.retags = false)
    {ts : List Task} (hts : results committed = .ok ts) : ∀ t ∈ ts, store'.get? t.id = some t := by
  intro t ht
  obtain ⟨hid, hget⟩ := mem_of_results hts t ht
  have hhas := (edits_of_edit h.edits).has_returned hargs t.id (h.returned ▸ hid)
  rw [h.get?_of_seen hargs hop, hhas, Bool.or_true, if_pos rfl, hget]

/-- The result of an operation on one task is what the store holds of it. -/
theorem single_result (hargs : op.checkArguments = .ok ()) (hop : op.retags = false)
    (hone : edited.2 = [id]) {ts : List Task} (hts : results committed = .ok ts) :
    ∃ t, ts = [t] ∧ store'.get? id = some t := by
  have hreturned := (results_eq_ok_iff.mp hts).2
  rw [h.returned, hone] at hreturned
  obtain ⟨t, rfl⟩ : ∃ t, ts = [t] := List.length_eq_one_iff.mp (by
    have hlength := congrArg List.length hreturned
    rw [List.length_map, List.length_map] at hlength
    exact hlength.symm)
  have hget : committed.1.get? id = some t := List.head_eq_of_cons_eq hreturned
  have hstored := h.get?_results hargs hop hts t (List.mem_singleton_self t)
  rw [TaskMap.id_of_get? hget] at hstored
  exact ⟨t, rfl, hstored⟩

end Performed

end Operation

end TaskPipeline
