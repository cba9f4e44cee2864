import TaskPipeline.Proofs.Engine.Run
import TaskPipeline.Proofs.Record.Task
import TaskPipeline.Proofs.Store.Journal
import TaskPipeline.Proofs.Store.Several

/-!
# Starting a task over either store

To start a task the engine reads the task and then its inflows, all in one call.  A stored list of
inflows may repeat an entry, and this is where the two stores part (`stores_agree_iff`): in memory the
repetition does no harm, but in a file the inflow is missed the second time, which the engine reports
as a broken graph.  If nothing is repeated the operation runs alike over both stores, and what it
leaves in memory is what it writes to the file (`Script.AgreesOn`).
-/

namespace TaskPipeline

variable {j : Journal Task} {tasks before : TaskMap} {id : TaskId} {t : Task} {ids : List TaskId}

theorem memory_getMany (tasks : TaskMap) (ids : List TaskId) :
    memory.perform false (.getMany ids) tasks = (tasks.requireAll ids, tasks) := rfl

/-! ### Scripts that run alike -/

/-- The script has the same result over the file as in memory, and writes nothing or the tasks that it
leaves in memory. -/
structure Script.AgreesOn {α : Type} (s : Script α) (j : Journal Task) (tasks : TaskMap) : Prop where
  result : (s.run journal false j).1 = (s.run memory false tasks).1
  contents : (s.run journal false j).2.contents = j.contents ∧ (s.run memory false tasks).2 = tasks ∨
    (s.run journal false j).2.contents = some (.text (Journal.render (s.run memory false tasks).2))

namespace Script

variable {α β : Type} {next : Answer → Script α}

theorem agreesOn_done (a : α) (j : Journal Task) (tasks : TaskMap) : (done a).AgreesOn j tasks :=
  ⟨rfl, .inl ⟨rfl, rfl⟩⟩

theorem AgreesOn.bind_done {s : Script α} (h : s.AgreesOn j tasks) (f : α → β) :
    (s.bind fun a => done (f a)).AgreesOn j tasks := by
  refine ⟨?_, ?_⟩
  · rw [run_bind, run_bind]
    exact congrArg f h.result
  · rw [run_bind, run_bind]
    exact h.contents

/-- Both stores answer alike if no identifier is repeated. -/
theorem AgreesOn.getMany (hholds : j.Holds tasks) (hids : ¬ tasks.Repeats ids)
    (hnext : (next (tasks.requireAll ids)).AgreesOn j.entered tasks) :
    (call (.getMany ids) next).AgreesOn j tasks := by
  have hanswer := hholds.getMany ids
  rw [TaskMap.takeAll_eq_requireAll hids] at hanswer
  refine ⟨?_, ?_⟩
  · rw [run_call, run_call, hanswer]
    exact hnext.result
  · rw [run_call, run_call, hanswer]
    exact hnext.contents

/-- Both stores accept the same batches, if the script ends with the batch. -/
theorem AgreesOn.commit (hholds : j.Holds tasks) (changes : ChangeSet)
    (hnext : ∀ answer, ∃ a, next answer = done a) : (call (.commit changes) next).AgreesOn j tasks := by
  cases happly : changes.apply tasks with
  | error e =>
    obtain ⟨a, ha⟩ := hnext (.error e)
    have hmemory : memory.perform false (.commit changes) tasks = (.error e, tasks) := by
      simp [memory, unlessExpired, happly]
    refine ⟨?_, .inl ?_⟩
    · rw [run_call, run_call, hholds.commit_of_error happly, hmemory, ha]
      rfl
    · rw [run_call, run_call, hholds.commit_of_error happly, hmemory, ha]
      exact ⟨rfl, rfl⟩
  | ok result =>
    obtain ⟨written, after⟩ := result
    obtain ⟨a, ha⟩ := hnext (.ok written)
    have hmemory : memory.perform false (.commit changes) tasks = (.ok written, after) := by
      simp [memory, unlessExpired, happly]
    refine ⟨?_, .inr ?_⟩
    · rw [run_call, run_call, hholds.commit_of_ok happly, hmemory, ha]
      rfl
    · rw [run_call, run_call, hholds.commit_of_ok happly, hmemory, ha]
      rfl

end Script

namespace Operation

variable {policy : Policy} {op : Operation} {ambient : Ambient} {ambients : Nat → Ambient}

theorem agreesOn_editAndCommit (hholds : j.Holds tasks) (policy : Policy) (op : Operation)
    (ambient : Ambient) (before : TaskMap) :
    (op.editAndCommit policy ambient before).AgreesOn j tasks := by
  unfold editAndCommit
  cases op.edit policy ambient before with
  | error e => exact Script.agreesOn_done _ _ _
  | ok edited =>
    unfold commit
    dsimp only
    split
    · exact Script.agreesOn_done _ _ _
    · refine Script.AgreesOn.commit hholds _ fun answer => ?_
      cases answer with
      | error e => exact ⟨_, rfl⟩
      | ok written => exact ⟨_, rfl⟩

/-! ### What the engine reports as a broken graph -/

/-- The outcome, if it is an error, is no finding about the graph. -/
def FindsNoFault {α : Type} (x : Except EngineError α) : Prop :=
  FailsOnly (fun e => ∀ reason, e ≠ .integrity reason) x

theorem FindsNoFault.ne {α : Type} {x : Except EngineError α} (h : FindsNoFault x)
    (reason : String) : x ≠ .error (.integrity reason) := fun hx => h _ hx reason rfl

theorem findsNoFault_ofStore {α : Type} (operation : String) (e : StoreError) :
    FindsNoFault (.error (.ofStore operation e) : Except EngineError α) :=
  failsOnly_error (EngineError.ofStore_ne_integrity operation e)

theorem findsNoFault_results (committed : Edited) : FindsNoFault (results committed) := by
  unfold results
  cases Journal.takeAll committed.1 committed.2 with
  | error e => exact findsNoFault_ofStore "" e
  | ok ts => exact failsOnly_ok ts

/-- Inflows that were read are not dangling. -/
theorem findsNoFault_checkInflows (t : Task) (h : ∀ q ∈ ids, before.has q = true) :
    FindsNoFault (t.checkInflows before ids) :=
  failsOnly_checkInflows t (fun q hq hmissing => absurd rfl (TaskMap.ne_of_has (h q hq) hmissing))
    fun q _ reason he => by cases he

theorem findsNoFault_editStart (ht : before.get? id = some t)
    (h : ∀ q ∈ t.inflows.ids, before.has q = true) (now : Instant) :
    FindsNoFault (editStart id now before) := by
  have hdemand : before.demand id = .ok t := TaskMap.demand_eq_ok_iff.mpr ht
  unfold editStart editTask
  rw [hdemand]
  show FindsNoFault ((refusing t.canStart >>= fun _ => t.checkInflows before t.inflows.ids >>= fun _ =>
    pure (t.started now)) >>= fun u => pure (before.insert u, [id]))
  have hchecked := findsNoFault_checkInflows t h
  have hallowed : FindsNoFault (refusing t.canStart) :=
    failsOnly_refusing (fun e reason he => by cases he) _
  exact (hallowed.bind fun _ _ => hchecked.bind fun _ _ => failsOnly_ok _).bind fun _ _ =>
    failsOnly_ok _

theorem findsNoFault_editAndCommit (h : FindsNoFault (op.edit policy ambient before)) :
    FindsNoFault ((op.editAndCommit policy ambient before).run memory false tasks).1 := by
  unfold editAndCommit
  cases hedit : op.edit policy ambient before with
  | error e => exact failsOnly_error (h e hedit)
  | ok edited =>
    unfold commit
    dsimp only
    split
    · exact failsOnly_ok edited
    · rw [Script.run_call]
      cases (memory.perform false _ tasks).1 with
      | error e => exact findsNoFault_ofStore op.title e
      | ok written => exact failsOnly_ok _

end Operation

/-! ### Reading the inflows -/

/-- The inflows that are read when the task is started. -/
def Task.otherInflows (t : Task) : List TaskId := t.inflows.ids.filter fun i => i ≠ t.id

/-- The task may be started, and one of its inflows is then read twice. -/
def TaskMap.AsksTwice (tasks : TaskMap) (id : TaskId) : Prop :=
  ∃ t, tasks.get? id = some t ∧ t.canStart = .ok () ∧ tasks.Repeats t.otherInflows

theorem TaskMap.get?_ofList_single (t : Task) (id : TaskId) :
    get? (.ofList [t]) id = if t.id = id then some t else none := get?_insert .empty t id

theorem TaskMap.filter_has_single (t : Task) :
    (t.inflows.ids.filter fun i => !TaskMap.has (.ofList [t]) i) = t.otherInflows := by
  refine List.filter_congr fun i _ => ?_
  rw [has_eq_isSome, get?_ofList_single]
  split
  · next heq => simp [heq]
  · next hne => simp [Ne.symm hne]

namespace Operation

variable {policy : Policy} {op : Operation} {ambient : Ambient}

/-- Reads the other inflows of a task that may be started, and runs the operation. -/
def withOthers (policy : Policy) (op : Operation) (ambient : Ambient) (t : Task) :
    Script (Except EngineError Edited) :=
  match t.otherInflows with
  | [] => op.editAndCommit policy ambient (.ofList [t])
  | missing =>
    .call (.getMany missing) fun
      | .error e => .done (.error (op.inflowError t.id e))
      | .ok inflows => op.editAndCommit policy ambient (.insertAll (.ofList [t]) inflows)

/-- After the task was read, it is checked whether it may be started before anything else is read. -/
theorem runWithInflows_eq (policy : Policy) (op : Operation) (ambient : Ambient) (id : TaskId) :
    ∃ next, op.runWithInflows policy ambient id = .call (.getMany [id]) next ∧
      (∀ e, next (.error e) = .done (.error (.ofStore op.title e))) ∧
      ∀ t, t.id = id → next (.ok [t]) =
        match t.canStart with
        | .error e => .done (.error (.invalidState e))
        | .ok () => op.withOthers policy ambient t := by
  refine ⟨_, rfl, fun e => rfl, ?_⟩
  rintro t rfl
  have hdemand : TaskMap.demand (.ofList [t]) t.id = .ok t :=
    TaskMap.demand_eq_ok_iff.mpr ((TaskMap.get?_ofList_single t t.id).trans (if_pos rfl))
  have hallowed : (TaskMap.demand (.ofList [t]) t.id >>= fun t =>
      (refusing t.canStart).map fun _ => t) = (refusing t.canStart).map fun _ => t := by
    rw [hdemand]
    rfl
  unfold withOthers
  rw [← TaskMap.filter_has_single]
  dsimp only
  rw [hallowed]
  cases t.canStart with
  | error e => rfl
  | ok u => rfl

/-- A read of one task repeats nothing. -/
theorem not_repeats_single (tasks : TaskMap) (id : TaskId) : ¬ tasks.Repeats [id] :=
  not_not.mpr ((List.nodup_singleton id).sublist (List.takeWhile_sublist _))

theorem requireAll_single (hget : tasks.get? id = some t) : tasks.requireAll [id] = .ok [t] := by
  rw [TaskMap.requireAll_eq_ok_iff, List.map_singleton, hget]
  rfl

theorem agreesOn_withOthers (hholds : j.Holds tasks) (policy : Policy) (op : Operation)
    (ambient : Ambient) (h : ¬ tasks.Repeats t.otherInflows) :
    (op.withOthers policy ambient t).AgreesOn j tasks := by
  unfold withOthers
  cases hothers : t.otherInflows with
  | nil => exact agreesOn_editAndCommit hholds policy op ambient _
  | cons q rest =>
    refine Script.AgreesOn.getMany hholds (hothers ▸ h) ?_
    cases tasks.requireAll (q :: rest) with
    | error e => exact Script.agreesOn_done _ _ _
    | ok inflows => exact agreesOn_editAndCommit hholds.entered policy op ambient _

/-- **The operation runs alike** over both stores if no inflow is read twice. -/
theorem agreesOn_runWithInflows (hholds : j.Holds tasks) (policy : Policy) (op : Operation)
    (ambient : Ambient) (h : ¬ tasks.AsksTwice id) :
    (op.runWithInflows policy ambient id).AgreesOn j tasks := by
  obtain ⟨next, heq, herror, hok⟩ := runWithInflows_eq policy op ambient id
  rw [heq]
  refine Script.AgreesOn.getMany hholds (not_repeats_single tasks id) ?_
  cases hget : tasks.get? id with
  | none =>
    rw [TaskMap.requireAll_of_missing (TaskMap.get?_eq_none_iff.mp hget), herror]
    exact Script.agreesOn_done _ _ _
  | some t =>
    rw [requireAll_single hget, hok t (TaskMap.id_of_get? hget)]
    cases hstart : t.canStart with
    | error e => exact Script.agreesOn_done _ _ _
    | ok u =>
      exact agreesOn_withOthers hholds.entered policy op ambient fun hrepeats =>
        h ⟨t, hget, hstart, hrepeats⟩

/-! ### An inflow that is read twice -/

/-- What the engine says about an inflow that it misses. -/
def dangling (id q : TaskId) : EngineError :=
  .integrity ("task " ++ id.text ++ " has a dangling inflow: " ++ q.text)

theorem dangling_inj {p q : TaskId} : dangling id p = dangling id q ↔ p = q := by
  refine ⟨fun h => ?_, fun h => h ▸ rfl⟩
  have htext := EngineError.integrity.inj h
  exact Ident.text_inj.mp (by simpa using htext)

/-- The task and its inflows are found in what was read. -/
theorem loaded_of_requireAll {inflows : List Task} (hget : tasks.get? id = some t)
    (hread : tasks.requireAll t.otherInflows = .ok inflows) :
    TaskMap.get? (.insertAll (.ofList [t]) inflows) id = some t ∧
      ∀ q ∈ t.inflows.ids, TaskMap.has (.insertAll (.ofList [t]) inflows) q = true := by
  have hid := TaskMap.id_of_get? hget
  constructor
  · rcases TaskMap.get?_insertAll (.ofList [t]) inflows id with ⟨u, hu, hsame, hfound⟩ | ⟨-, hfound⟩
    · have hstored := TaskMap.get?_of_requireAll hread hu
      rw [hsame, hget] at hstored
      rw [hfound, hstored]
    · rw [hfound, TaskMap.get?_ofList_single, if_pos hid]
  · intro q hq
    rw [TaskMap.has_insertAll_iff]
    by_cases hself : q = t.id
    · rw [hself, TaskMap.has_eq_isSome, TaskMap.get?_ofList_single, if_pos rfl]
      exact .inl rfl
    · have hother : q ∈ t.otherInflows := List.mem_filter.mpr ⟨hq, by simpa using hself⟩
      have hids := TaskMap.map_id_of_map_get? (TaskMap.requireAll_eq_ok_iff.mp hread)
      exact .inr (hids ▸ hother)

/-- **In memory** only inflows are missed that are not there. -/
theorem missing_of_withOthers {q : TaskId} (hget : tasks.get? id = some t)
    (h : (((start id).withOthers policy ambient t).run memory false tasks).1 =
      .error (dangling id q)) : tasks.has q = false := by
  have hid := TaskMap.id_of_get? hget
  -- nothing is missed once everything has been read
  have hloaded : ∀ inflows, tasks.requireAll t.otherInflows = .ok inflows →
      (((start id).editAndCommit policy ambient (.insertAll (.ofList [t]) inflows)).run memory false
        tasks).1 ≠ .error (dangling id q) := by
    intro inflows hread
    obtain ⟨hfound, hall⟩ := loaded_of_requireAll hget hread
    have hedit : FindsNoFault ((start id).edit policy ambient (.insertAll (.ofList [t]) inflows)) :=
      findsNoFault_editStart hfound hall (ambient.now 0)
    exact (findsNoFault_editAndCommit hedit).ne _
  unfold withOthers at h
  cases hothers : t.otherInflows with
  | nil =>
    rw [hothers] at h hloaded
    exact absurd h (hloaded [] rfl)
  | cons i rest =>
    rw [hothers] at h hloaded
    dsimp only at h
    rw [Script.run_call, memory_getMany] at h
    cases hread : tasks.requireAll (i :: rest) with
    | ok inflows =>
      rw [hread] at h
      exact absurd h (hloaded inflows hread)
    | error e =>
      obtain ⟨p, -, hmissing, rfl⟩ := TaskMap.missing_of_requireAll hread
      rw [hread, hid] at h
      obtain rfl := dangling_inj.mp (Except.error.inj h)
      exact hmissing

/-- **In a file** an inflow is missed that is there. -/
theorem withOthers_of_repeats (hholds : j.Holds tasks) (policy : Policy) (op : Operation)
    (ambient : Ambient) (hid : t.id = id) (h : tasks.Repeats t.otherInflows) :
    ∃ q, tasks.has q = true ∧ ((op.withOthers policy ambient t).run journal false j).1 =
      .error (op.inflowError id (.taskNotFound q)) := by
  unfold withOthers
  cases hothers : t.otherInflows with
  | nil =>
    rw [hothers] at h
    exact absurd List.nodup_nil h
  | cons i rest =>
    obtain ⟨q, -, hhas, htake⟩ := TaskMap.takeAll_of_repeats (hothers ▸ h)
    refine ⟨q, hhas, ?_⟩
    dsimp only
    rw [Script.run_call, hholds.getMany, htake, hid]
    rfl

/-- Taking the results out of what was committed makes no finding about the graph. -/
theorem bind_results_eq_integrity_iff {x : Except EngineError Edited} {reason : String} :
    (x >>= results) = .error (.integrity reason) ↔ x = .error (.integrity reason) := by
  cases x with
  | error e => exact ⟨fun h => congrArg _ (Except.error.inj h), fun h => congrArg _ (Except.error.inj h)⟩
  | ok committed => exact iff_of_false ((findsNoFault_results committed).ne reason) nofun

theorem result_start {σ : Type} (repo : Repository σ) (policy : Policy) (ambients : Nat → Ambient)
    (id : TaskId) (s : σ) : (((start id).script policy ambients).run repo false s).1 =
      (((start id).runWithInflows policy (ambients 0) id).run repo false s).1 >>= results := by
  rw [script_eq]
  exact congrArg Prod.fst (Script.run_bind _ _ s)

/-- **Where the two stores part**: an inflow that is there is read twice, and then the file reports it
missing while the store in memory does not. -/
theorem run_start_of_asksTwice (hholds : j.Holds tasks) (policy : Policy) (ambient : Ambient)
    (h : tasks.AsksTwice id) : ∃ q, tasks.has q = true ∧
      (((start id).runWithInflows policy ambient id).run journal false j).1 = .error (dangling id q) ∧
      (((start id).runWithInflows policy ambient id).run memory false tasks).1 ≠
        .error (dangling id q) := by
  obtain ⟨t, hget, hstart, hrepeats⟩ := h
  have hid := TaskMap.id_of_get? hget
  obtain ⟨next, heq, -, hok⟩ := runWithInflows_eq policy (start id) ambient id
  have hnext := hok t hid
  rw [hstart] at hnext
  have hread := requireAll_single hget
  obtain ⟨q, hhas, hmissed⟩ :=
    withOthers_of_repeats hholds.entered policy (start id) ambient hid hrepeats
  refine ⟨q, hhas, ?_, fun hfound => ?_⟩
  · rw [heq, Script.run_call, hholds.getMany,
      TaskMap.takeAll_eq_requireAll (not_repeats_single tasks id), hread, hnext]
    exact hmissed
  · rw [heq, Script.run_call, memory_getMany, hread, hnext] at hfound
    rw [missing_of_withOthers hget hfound] at hhas
    cases hhas

end Operation

/-- **The two stores agree except on repetitions.**  Asked for several tasks they give the same answer
if no identifier is repeated before the first one that is missing; otherwise the file reports a task
missing that it holds.  So a task is started alike over both stores, with the same tasks stored
afterwards, unless an inflow would be read twice; then the file leads to the finding that this
inflow is dangling, and the memory does not. -/
theorem stores_agree_iff (hholds : j.Holds tasks) :
    (∀ ids,
      (¬ tasks.Repeats ids → (journal.perform false (.getMany ids) j).1 =
        (memory.perform false (.getMany ids) tasks).1) ∧
      (tasks.Repeats ids → ∃ q ∈ ids, tasks.has q = true ∧
        (journal.perform false (.getMany ids) j).1 = .error (.taskNotFound q) ∧
        (memory.perform false (.getMany ids) tasks).1 ≠ .error (.taskNotFound q))) ∧
    ∀ (policy : Policy) (ambients : Nat → Ambient) (id : TaskId),
      (¬ tasks.AsksTwice id →
        ((Operation.start id).script policy ambients).AgreesOn j tasks) ∧
      (tasks.AsksTwice id → ∃ q, tasks.has q = true ∧
        (((Operation.start id).script policy ambients).run journal false j).1 =
          .error (.integrity ("task " ++ id.text ++ " has a dangling inflow: " ++ q.text)) ∧
        (((Operation.start id).script policy ambients).run memory false tasks).1 ≠
          .error (.integrity ("task " ++ id.text ++ " has a dangling inflow: " ++ q.text))) := by
  refine ⟨fun ids => ⟨fun h => ?_, fun h => ?_⟩, fun policy ambients id => ⟨fun h => ?_, fun h => ?_⟩⟩
  · rw [hholds.getMany, memory_getMany, TaskMap.takeAll_eq_requireAll h]
  · obtain ⟨q, hq, hhas, htake⟩ := TaskMap.takeAll_of_repeats h
    refine ⟨q, hq, hhas, by rw [hholds.getMany, htake], fun hmissed => ?_⟩
    obtain ⟨p, -, hmissing, heq⟩ := TaskMap.missing_of_requireAll hmissed
    exact TaskMap.ne_of_has hhas hmissing (Ident.text_inj.mp (StoreError.notFound.inj heq).2)
  · rw [Operation.script_eq]
    exact (Operation.agreesOn_runWithInflows hholds policy (.start id) (ambients 0) h).bind_done _
  · obtain ⟨q, hhas, hfile, hmemory⟩ := Operation.run_start_of_asksTwice hholds policy (ambients 0) h
    refine ⟨q, hhas, ?_, ?_⟩
    · rw [Operation.result_start, Operation.bind_results_eq_integrity_iff]
      exact hfile
    · rw [Operation.result_start, Ne, Operation.bind_results_eq_integrity_iff]
      exact hmemory

namespace Sample

/-- A completed task. -/
def walls : TaskId := ⟨"walls", by decide, by decide⟩

/-- A task that depends on it. -/
def roof : TaskId := ⟨"roof", by decide, by decide⟩

def crew : UserId := ⟨"crew", by decide, by decide⟩

/-- The second task lists the first one twice. -/
def house : TaskMap :=
  .ofList [
    { Task.create walls "walls" "" crew (.midnight .epoch) with
      stage := .archived, status := .completed, outflows := ⟨[roof]⟩, version := 1 },
    { Task.create roof "roof" "" crew (.midnight .epoch) with
      stage := .staging, inflows := ⟨[walls, walls]⟩, version := 1 }]

/-- The second task is to be started. -/
def roofing : Script (Except EngineError (List Task)) :=
  (Operation.start roof).script .default fun _ => ⟨fun _ => .midnight .epoch, fun _ => roof⟩

/-- A file that holds the two tasks. -/
def plans : Journal Task := { path := "plans.jsonl", contents := some (.text (Journal.render house)) }

theorem holds_plans : plans.Holds house := by
  refine ⟨Journal.read_render rfl rfl fun t ht => Task.denotes_encode ?_, rfl⟩
  have hall : ∀ t ∈ house.toList, t.version = 1 ∧ t.tags = .empty := by decide
  obtain ⟨hversion, htags⟩ := hall t ht
  exact Task.recordable_of_untagged (by rw [hversion]; decide) htags

end Sample

/-- The second task can be started in memory; over the file the first task is missed, although it is
there and completed. -/
theorem stores_part_on_repetition :
    Sample.plans.Holds Sample.house ∧ Sample.house.AsksTwice Sample.roof ∧
      (journal.perform false (.getMany [Sample.walls]) Sample.plans).1 =
        (memory.perform false (.getMany [Sample.walls]) Sample.house).1 ∧
      (journal.perform false (.getMany [Sample.walls, Sample.walls]) Sample.plans).1 =
        .error (.taskNotFound Sample.walls) ∧
      ((Sample.roofing.run memory false Sample.house).1).isOk = true ∧
      ∃ q, Sample.house.has q = true ∧ (Sample.roofing.run journal false Sample.plans).1 =
        .error (.integrity ("task roof has a dangling inflow: " ++ q.text)) := by
  have htwice : Sample.house.AsksTwice Sample.roof := ⟨_, rfl, rfl, by decide⟩
  have hagree := stores_agree_iff Sample.holds_plans
  obtain ⟨q, hq, -, hmissed, -⟩ := (hagree.1 [Sample.walls, Sample.walls]).2 (by decide)
  obtain ⟨p, hp, hfinding, -⟩ := (hagree.2 .default
    (fun _ => ⟨fun _ => .midnight .epoch, fun _ => Sample.roof⟩) Sample.roof).2 htwice
  obtain rfl : q = Sample.walls := by simpa using hq
  refine ⟨Sample.holds_plans, htwice, (hagree.1 [Sample.walls]).1 (by decide), hmissed, ?_, p, hp,
    hfinding⟩
  rfl

end TaskPipeline
