import TaskPipeline.Proofs.Engine.Run
import TaskPipeline.Proofs.Store.Shared

/-!
# Operations among other writers

Between two calls of an operation others may commit anything to a shared store.
`Script.Upholds good post` follows a script through all answers that it can get: every commit that
the store accepts ends the script, with `good` relating the tasks before and after it to the
result, and an end without a commit fulfils `post`.

What an operation commits is computed from what it has read, in one of three ways: from the whole
store, from one task, or from one task and its inflows.  `Operation.Delivers` says what is to be
known of one commit, whichever way the reads went; `Operation.upholds_script_of` takes it through
all reads and tries.

So every operation upholds `Operation.ActsAlone` (`Operation.upholds_script`): what it commits, and
what it returns, is what the operation does alone to the tasks that stood there right before the
commit.  A batch is only accepted if what was read is up to date (`Shared.upToDate_of_admits`), and
then the operation alone would read the same (`Operation.Rereads`).  What it returns is stored then
(`Operation.stored_eq_versioned`), since an edit that adds the same tags again leads to no commit.
-/

namespace TaskPipeline

/-- The answer to a call that does not write: an error, or what the store in memory answers. -/
def Call.Answers (c : Call) (tasks : TaskMap) (answer : Answer) : Prop :=
  ∀ ts, answer = .ok ts → (memory.perform false c tasks).1 = .ok ts

/-- The number of tries that a call begins: a try over the whole store begins with a list of it. -/
def Call.starts : Call → Nat
  | .list => 1
  | _ => 0

namespace Script

variable {α β : Type} {good : Nat → TaskMap → TaskMap → α → Prop} {post : Nat → Shared → α → Prop}
  {n : Nat} {shared later : Shared} {x : Script α}

/-- Whatever others commit between the calls, an accepted commit ends the script with `good`, and
an end without one fulfils `post`.  The number counts the tries that were begun. -/
inductive Upholds (good : Nat → TaskMap → TaskMap → α → Prop) (post : Nat → Shared → α → Prop) :
    Nat → Shared → Script α → Prop where
  /-- The script has ended. -/
  | done {n : Nat} {shared : Shared} {a : α} (h : ∀ later, shared.Later later → post n later a) :
      Upholds good post n shared (.done a)
  /-- It reads. -/
  | read {n : Nat} {shared : Shared} {c : Call} {next : Answer → Script α} (hc : c.kind ≠ .commit)
      (h : ∀ later answer, shared.Later later → c.Answers later.tasks answer →
        Upholds good post (n + c.starts) later (next answer)) :
      Upholds good post n shared (.call c next)
  /-- It commits. -/
  | commit {n : Nat} {shared : Shared} {changes : ChangeSet} {next : Answer → Script α}
      (herr : ∀ later e, shared.Later later → Upholds good post n later (next (.error e)))
      (hok : ∀ later, shared.Later later → later.Admits changes →
        ∃ a, next (.ok changes.written) = .done a ∧
          good n later.tasks (changes.write later.tasks) a) :
      Upholds good post n shared (.call (.commit changes) next)

/-- **Commits of others do not matter.** -/
theorem Upholds.transfer (h : x.Upholds good post n shared) (hlater : shared.Later later) :
    x.Upholds good post n later := by
  cases h with
  | done h => exact .done fun latest hlatest => h latest (hlater.trans hlatest)
  | read hc h => exact .read hc fun latest answer hlatest => h latest answer (hlater.trans hlatest)
  | commit herr hok =>
    exact .commit (fun latest e hlatest => herr latest e (hlater.trans hlatest))
      fun latest hlatest => hok latest (hlater.trans hlatest)

/-- Going on with another script that upholds the same, and does nothing after a commit. -/
theorem Upholds.bind {good' : Nat → TaskMap → TaskMap → β → Prop} {post' : Nat → Shared → β → Prop}
    {f : α → Script β} (h : x.Upholds good post n shared)
    (hdone : ∀ m later a, post m later a → (f a).Upholds good' post' m later)
    (hgood : ∀ m tasks tasks' a, good m tasks tasks' a →
      ∃ b, f a = .done b ∧ good' m tasks tasks' b) :
    (x.bind f).Upholds good' post' n shared := by
  -- along the script; only its ends differ from those of the longer one
  induction h with
  | done h => exact hdone _ _ _ (h _ (.refl _))
  | read hc _ ih => exact .read hc fun later answer hlater hanswer => ih later answer hlater hanswer
  | commit _ hok ih =>
    refine .commit (fun later e hlater => ih later e hlater) fun later hlater hadmits => ?_
    obtain ⟨a, hnext, ha⟩ := hok later hlater hadmits
    obtain ⟨b, hf, hb⟩ := hgood _ _ _ _ ha
    refine ⟨b, ?_, hb⟩
    rw [hnext]
    exact hf

end Script

/-- What the last of `n` tries takes from its surroundings, and the tries that could follow. -/
def lastTry (ambients : Nat → Ambient) (n : Nat) : Nat → Ambient := fun k => ambients (n - 1 + k)

/-- Run alone, with the clock and the fresh identifiers of the last of `n` tries, the script
changes the tasks in the same way and has the same result. -/
def RunsAlone {α : Type} (script : (Nat → Ambient) → Script α) (ambients : Nat → Ambient) (n : Nat)
    (tasks tasks' : TaskMap) (a : α) : Prop :=
  (script (lastTry ambients n)).run memory false tasks = (a, tasks')

namespace Operation

open ChangeSet Script

variable {policy : Policy} {op : Operation} {ambients : Nat → Ambient} {ambient : Ambient}
  {before : TaskMap} {shared : Shared} {n : Nat} {ts : List Task} {id : TaskId}

/-! ### Reading again -/

/-- On a store that still holds what was read, and nothing else if all of it was read, the operation
alone reads the same again. -/
def Rereads (policy : Policy) (op : Operation) (ambients : Nat → Ambient) (ambient : Ambient)
    (before : TaskMap) : Prop :=
  ∀ tasks committed tasks', UpToDate before tasks → (op.scope = .whole → before = tasks) →
    (op.editAndCommit policy ambient before).run memory false tasks = (.ok committed, tasks') →
      (op.tries policy ambients).run memory false tasks = (.ok committed, tasks')

theorem rereads_whole (hscope : op.scope = .whole) (before : TaskMap) :
    Rereads policy op ambients (ambients 0) before := by
  intro tasks committed tasks' _ hwhole hrun
  obtain rfl := hwhole hscope
  have htry : (op.tryWhole policy (ambients 0)).run memory false before =
      (.ok committed, tasks') := by
    unfold tryWhole
    rw [Script.run]
    show (op.editAndCommit policy (ambients 0) (.ofList before.toList)).run memory false before = _
    rw [TaskMap.ofList_toList, hrun]
  rw [run_tries_of_noRace hscope fun message hrace => ?_, htry]
  rw [htry] at hrace
  cases hrace

/-- Tasks that were read together are all found in what was read. -/
theorem get?_insertAll_of_requireAll {tasks : TaskMap} {ids : List TaskId}
    (h : tasks.requireAll ids = .ok ts) (before : TaskMap) :
    ∀ t ∈ ts, TaskMap.get? (before.insertAll ts) t.id = some t := by
  intro t ht
  rcases TaskMap.get?_insertAll before ts t.id with ⟨u, hu, hid, hget⟩ | ⟨hnone, -⟩
  · have hsame := TaskMap.get?_of_requireAll h hu
    rw [hid, TaskMap.get?_of_requireAll h ht] at hsame
    rw [hget, hsame]
  · exact absurd rfl (hnone t ht)

/-- The tasks that were read together are there as they were if what was read is up to date. -/
theorem requireAll_of_upToDate {tasks tasks' : TaskMap} {ids : List TaskId}
    (h : tasks.requireAll ids = .ok ts) (hup : UpToDate (before.insertAll ts) tasks') :
    tasks'.requireAll ids = .ok ts :=
  TaskMap.requireAll_of_requireAll h fun t ht =>
    hup t.id t (get?_insertAll_of_requireAll h before t ht)

theorem rereads_task {tasks : TaskMap} (hscope : op.scope = .task id)
    (hts : tasks.requireAll [id] = .ok ts) :
    Rereads policy op ambients (ambients 0) (.ofList ts) := by
  intro tasks' committed store' hup _ hrun
  unfold tries runTask
  rw [hscope]
  dsimp only
  rw [Script.run]
  have hagain : memory.perform false (.getMany [id]) tasks' = (.ok ts, tasks') :=
    Prod.ext (requireAll_of_upToDate hts hup) rfl
  rw [hagain]
  exact hrun

/-- The tasks that the operation reads first are still as they were when the rest is read too. -/
theorem upToDate_of_insertAll {missing : List TaskId} {us : List Task} {tasks tasks' : TaskMap}
    (hus : tasks.requireAll missing = .ok us) (hmissing : ∀ i ∈ missing, before.has i = false)
    (hup : UpToDate (before.insertAll us) tasks') : UpToDate before tasks' := by
  intro id t ht
  refine hup id t ?_
  rw [TaskMap.get?_insertAll_of_forall_ne fun u hu huid => ?_, ht]
  have hmem : some u ∈ missing.map tasks.get? := by
    rw [TaskMap.requireAll_eq_ok_iff.mp hus]
    exact List.mem_map_of_mem hu
  obtain ⟨i, hi, hget⟩ := List.mem_map.mp hmem
  have hno := hmissing i hi
  rw [← TaskMap.id_of_get? hget, huid, TaskMap.has_iff.mpr ⟨t, ht⟩] at hno
  cases hno

theorem rereads_withInflows {tasks later : TaskMap} {t : Task} {us : List Task}
    (hscope : op.scope = .withInflows id) (hts : tasks.requireAll [id] = .ok ts)
    (ht : (TaskMap.demand (.ofList ts) id >>= fun t => (refusing t.canStart).map fun _ => t) =
      .ok t)
    (hus : later.requireAll (t.inflows.ids.filter fun i => !TaskMap.has (.ofList ts) i) = .ok us) :
    Rereads policy op ambients (ambients 0) (Catalog.insertAll (.ofList ts) us) := by
  intro tasks' committed store' hup _ hrun
  have hfirst : memory.perform false (.getMany [id]) tasks' = (.ok ts, tasks') := by
    have hup' : UpToDate (.ofList ts) tasks' :=
      upToDate_of_insertAll hus (fun i hi => by simpa using (List.mem_filter.mp hi).2) hup
    exact Prod.ext (requireAll_of_upToDate hts hup') rfl
  unfold tries runWithInflows
  rw [hscope]
  dsimp only
  rw [Script.run, hfirst]
  dsimp only
  rw [ht]
  dsimp only
  generalize (t.inflows.ids.filter fun i => !TaskMap.has (.ofList ts) i) = missing at hus ⊢
  cases missing with
  | nil =>
    cases hus
    exact hrun
  | cons i rest =>
    have hsecond : memory.perform false (.getMany (i :: rest)) tasks' = (.ok us, tasks') :=
      Prod.ext (requireAll_of_upToDate hus hup) rfl
    dsimp only
    rw [Script.run, hsecond]
    exact hrun

/-! ### Commits of an operation -/

/-- The batch that an edit of what was read leads to. -/
def batch (op : Operation) (before : TaskMap) (edited : Edited) : ChangeSet :=
  .between before edited.1 (op.created edited) (op.scope = .whole)

theorem editAndCommit_of_edit {edited : Edited} (h : op.edit policy ambient before = .ok edited) :
    op.editAndCommit policy ambient before =
      if (op.batch before edited).isEmpty then .done (.ok edited)
      else .call (.commit (op.batch before edited)) fun
        | .ok written => .done (.ok (edited.1.insertAll written, edited.2))
        | .error e => .done (.error (.ofStore op.title e)) := by
  unfold editAndCommit
  rw [h]
  rfl

/-- What a commit does to the tasks, and what becomes of the operation, after a number of tries. -/
abbrev Effect := Nat → TaskMap → TaskMap → Edited → Prop

/-- A try has committed, with a certain effect. -/
def Committed (effect : Effect) (n : Nat) (tasks tasks' : TaskMap)
    (outcome : Except EngineError Edited) : Prop :=
  ∃ committed, outcome = .ok committed ∧ effect n tasks tasks' committed

/-- Whatever part of the store the operation reads, of tasks that all have a property, and whenever the
store accepts the batch that it then computes, the commit has a certain effect. -/
def Delivers (policy : Policy) (op : Operation) (ambients : Nat → Ambient) (p : Task → Prop)
    (effect : Effect) : Prop :=
  ∀ (n : Nat) (ambient : Ambient) (before : TaskMap) (edited : Edited) (shared : Shared),
    shared.Saw p before → op.Within before →
    Rereads policy op (lastTry ambients n) ambient before →
    op.edit policy ambient before = .ok edited → (op.batch before edited).isEmpty = false →
    shared.Admits (op.batch before edited) →
      effect n shared.tasks ((op.batch before edited).write shared.tasks)
        (edited.1.insertAll (op.batch before edited).written, edited.2)

variable {p : Task → Prop} {effect : Effect} {post : Nat → Shared → Except EngineError Edited → Prop}

section Walk

variable (hall : shared.Always p) (hdelivers : Delivers policy op ambients p effect)

include hdelivers

/-- **Committing an edit** of what was read. -/
theorem upholds_editAndCommit (hread : shared.Saw p before) (hwithin : op.Within before)
    (hagain : Rereads policy op (lastTry ambients n) ambient before)
    (hpost : ∀ later outcome, shared.Later later → post n later outcome) :
    (op.editAndCommit policy ambient before).Upholds (Committed effect) post n shared := by
  cases hedit : op.edit policy ambient before with
  | error e =>
    unfold editAndCommit
    rw [hedit]
    exact .done fun later hlater => hpost later _ hlater
  | ok edited =>
    rw [editAndCommit_of_edit hedit]
    split
    · exact .done fun later hlater => hpost later _ hlater
    · next hempty =>
      refine .commit (fun later e hlater => .done fun latest hlatest =>
        hpost latest _ (hlater.trans hlatest)) fun later hlater hadmits => ⟨_, rfl, _, rfl, ?_⟩
      exact hdelivers n ambient before edited later (hread.transfer hlater) hwithin hagain hedit
        (Bool.eq_false_iff.mpr hempty) hadmits

include hall

/-- **A try over the whole store.** -/
theorem upholds_tryWhole (hscope : op.scope = .whole)
    (hpost : ∀ later outcome, shared.Later later → post (n + 1) later outcome) :
    (op.tryWhole policy (ambients n)).Upholds (Committed effect) post n shared := by
  refine .read nofun fun later answer hlater hanswer => ?_
  cases answer with
  | error e => exact .done fun latest hlatest => hpost latest _ (hlater.trans hlatest)
  | ok ts =>
    have hlist : Except.ok later.tasks.toList = Except.ok ts := hanswer ts rfl
    injection hlist with hlist
    dsimp only
    rw [← hlist, TaskMap.ofList_toList]
    exact upholds_editAndCommit hdelivers (.tasks (hall.transfer hlater))
      (fun id _ => reads_of_whole hscope later.tasks id) (rereads_whole hscope later.tasks)
      fun latest outcome hlatest => hpost latest outcome (hlater.trans hlatest)

/-- **Trying again**: only a try that was not accepted is followed by another. -/
theorem upholds_retrying (hscope : op.scope = .whole) (retries : Nat) :
    (op.retrying policy ambients n retries).Upholds (Committed effect) (fun _ _ _ => True) n
      shared := by
  induction retries generalizing n shared with
  | zero => exact upholds_tryWhole hall hdelivers hscope fun _ _ _ => trivial
  | succ retries ih =>
    unfold retrying
    have htry : (op.tryWhole policy (ambients n)).Upholds (Committed effect)
        (fun m later _ => m = n + 1 ∧ later.Always p) n shared :=
      upholds_tryWhole hall hdelivers hscope fun later _ hlater => ⟨rfl, hall.transfer hlater⟩
    refine htry.bind (fun m later outcome hend => ?_) fun m tasks tasks' outcome hcommitted => ?_
    · -- this try has changed nothing; the next one has its own number and its own readings
      obtain ⟨rfl, hlater⟩ := hend
      split
      · exact ih hlater
      · exact .done fun _ _ => trivial
    · obtain ⟨committed, rfl, -⟩ := id hcommitted
      exact ⟨_, rfl, hcommitted⟩

theorem upholds_runTask (hscope : op.scope = .task id) :
    (op.runTask policy (ambients 0) id).Upholds (Committed effect) (fun _ _ _ => True) 0
      shared := by
  refine .read nofun fun later answer hlater hanswer => ?_
  cases answer with
  | error e => exact .done fun _ _ => trivial
  | ok ts =>
    have hts : later.tasks.requireAll [id] = .ok ts := hanswer ts rfl
    exact upholds_editAndCommit hdelivers (.ofList (hall.transfer hlater) hts)
      (.of_task hscope hts) (rereads_task hscope hts) fun _ _ _ => trivial

theorem upholds_runWithInflows (hscope : op.scope = .withInflows id) :
    (op.runWithInflows policy (ambients 0) id).Upholds (Committed effect) (fun _ _ _ => True) 0
      shared := by
  refine .read nofun fun later answer hlater hanswer => ?_
  have hlall := hall.transfer hlater
  cases answer with
  | error e => exact .done fun _ _ => trivial
  | ok ts =>
    have hts : later.tasks.requireAll [id] = .ok ts := hanswer ts rfl
    have hread : later.Saw p (.ofList ts) := .ofList hlall hts
    dsimp only
    split
    · exact .done fun _ _ => trivial
    · next t ht =>
      split
      · next hmissing =>
        -- there is no second read, which is like one that reads nothing
        have hnone : later.tasks.requireAll
            (t.inflows.ids.filter fun i => !TaskMap.has (.ofList ts) i) = .ok [] := by
          rw [hmissing]
          rfl
        have hagain : Rereads policy op (lastTry ambients 0) (ambients 0) (.ofList ts) :=
          rereads_withInflows hscope hts ht hnone
        have hwithin : op.Within (.ofList ts) :=
          Within.of_inflows hscope hts (get?_of_startable ht) hnone
        exact upholds_editAndCommit hdelivers hread hwithin hagain fun _ _ _ => trivial
      · -- others may have written since the first read; what was read then is still known
        refine .read nofun fun latest answer hlatest hanswer => ?_
        cases answer with
        | error e => exact .done fun _ _ => trivial
        | ok us =>
          have hus : latest.tasks.requireAll _ = .ok us := hanswer us rfl
          exact upholds_editAndCommit hdelivers
            ((hread.transfer hlatest).insertAll (hlall.transfer hlatest) hus)
            (.of_inflows hscope hts (get?_of_startable ht) hus)
            (rereads_withInflows hscope hts ht hus) fun _ _ _ => trivial

/-- **An operation among other writers** has a certain effect if all its commits have it. -/
theorem upholds_tries :
    (op.tries policy ambients).Upholds (Committed effect) (fun _ _ _ => True) 0 shared := by
  unfold tries
  cases hscope : op.scope with
  | whole => exact upholds_retrying hall hdelivers hscope policy.retries
  | task id => exact upholds_runTask hall hdelivers hscope
  | withInflows id => exact upholds_runWithInflows hall hdelivers hscope

end Walk

/-- After its tries an operation only takes its results out of what was committed. -/
theorem upholds_script_of {good : Nat → TaskMap → TaskMap → Except EngineError (List Task) → Prop}
    (hall : shared.Always p)
    (hdelivers : op.checkArguments = .ok () → Delivers policy op ambients p effect)
    (hgood : op.checkArguments = .ok () → ∀ n tasks tasks' committed,
      effect n tasks tasks' committed → good n tasks tasks' (results committed)) :
    (op.script policy ambients).Upholds good (fun _ _ _ => True) 0 shared := by
  rw [script_eq]
  cases hargs : op.checkArguments with
  | error e => exact .done fun _ _ => trivial
  | ok u =>
    refine (upholds_tries hall (hdelivers hargs)).bind (fun _ _ _ _ => .done fun _ _ => trivial) ?_
    rintro n tasks tasks' _ ⟨committed, rfl, heffect⟩
    exact ⟨_, rfl, hgood hargs n tasks tasks' committed heffect⟩

/-! ### Running alone -/

/-- An edit that adds nothing but tags leads to no write if it leaves a task the same: no other task
was read. -/
theorem isEmpty_batch_of_retags {edited : Edited} {u : Task} (hop : op.retags = true)
    (hwithin : op.Within before) (hedit : op.edit policy ambient before = .ok edited)
    (hu : edited.1.get? id = some u) (hholds : before.holds u = true) :
    (op.batch before edited).isEmpty = true := by
  obtain ⟨i, tags, rfl⟩ : ∃ i tags, op = .tag i tags := by
    cases op with
    | tag i tags => exact ⟨i, tags, rfl⟩
    | _ => cases hop
  obtain ⟨t, t', ht, hchange, heq⟩ := (edits_of_edit hedit).one_of_scope nofun
  have hid := hchange.keeps.1
  have hone : ∀ j, before.has j = true → j = t.id := fun j hj =>
    (hwithin j hj).trans (hwithin t.id (TaskMap.has_iff.mpr ⟨t, ht⟩)).symm
  obtain rfl : t' = u := by
    rw [heq, TaskMap.get?_insert] at hu
    split at hu
    · exact Option.some.inj hu
    · next hother =>
      have hthere := hone id (TaskMap.has_iff.mpr ⟨u, hu⟩)
      exact absurd (hid.trans hthere.symm) hother
  refine isEmpty_between_iff.mpr fun j => ?_
  by_cases hj : t'.id = j
  · have hget : edited.1.get? j = some t' := by rw [heq, TaskMap.get?_insert, if_pos hj]
    rw [TaskMap.has_iff.mpr ⟨t', hget⟩, TaskMap.has_iff.mpr ⟨t, hj ▸ hid ▸ ht⟩, hget]
    refine ⟨rfl, fun v hv => ?_⟩
    cases hv
    exact ⟨List.not_mem_nil, hholds⟩
  · have hget : edited.1.get? j = before.get? j := by rw [heq, TaskMap.get?_insert_of_ne hj]
    refine ⟨by rw [TaskMap.has_eq_isSome, TaskMap.has_eq_isSome, hget], fun v hv => ?_⟩
    rw [hget] at hv
    exact absurd (hid.trans (hone j (TaskMap.has_iff.mpr ⟨v, hv⟩)).symm) hj

/-- **A commit stores what it returns.** -/
theorem stored_eq_versioned {edited : Edited} {u : Task} (hargs : op.checkArguments = .ok ())
    (hwithin : op.Within before) (hedit : op.edit policy ambient before = .ok edited)
    (hempty : (op.batch before edited).isEmpty = false) (hu : edited.1.get? id = some u) :
    stored before (op.created edited) u = versioned before (op.created edited) u := by
  obtain rfl := TaskMap.id_of_get? hu
  rcases stored_cases before (op.created edited) u with ⟨hid, ⟨s, hs, hsame, hst⟩, hv⟩ | ⟨-, hst⟩
  · rw [hst, hv]
    cases hop : op.retags with
    | false => exact ((edits_of_edit hedit).origin hargs hu).eq_of_same hop hid hs hsame
    | true =>
      have hholds := TaskMap.holds_iff.mpr ⟨s, hs, hsame⟩
      rw [isEmpty_batch_of_retags hop hwithin hedit hu hholds] at hempty
      cases hempty
  · exact hst

/-- What a commit of an operation has to do with the tasks before and after it and with what was
committed: it is what the operation commits alone, and what is to be returned is stored. -/
def CommitsAlone (policy : Policy) (op : Operation) (ambients : Nat → Ambient) : Effect :=
  fun n tasks tasks' committed =>
    RunsAlone (op.tries policy) ambients n tasks tasks' (.ok committed) ∧
      ∀ id ∈ committed.2, tasks'.get? id = committed.1.get? id

/-- **A commit does what the operation does alone**, since the batch is only accepted if what was read
is up to date. -/
theorem delivers_alone (hargs : op.checkArguments = .ok ()) :
    Delivers policy op ambients (1 ≤ ·.version) (CommitsAlone policy op ambients) := by
  intro n ambient before edited shared hread hwithin hagain hedit hempty hadmits
  have hversion := version_of_edit hargs hedit
  have hup := Shared.upToDate_of_admits hversion hread hadmits
  have hwhole : op.scope = .whole → before = shared.tasks := by
    intro h
    unfold batch at hadmits
    rw [decide_eq_true h] at hadmits
    exact Shared.eq_tasks_of_admits hversion hup hadmits
  refine ⟨hagain shared.tasks _ _ hup hwhole ?_, fun id hid => ?_⟩
  · rw [editAndCommit_of_edit hedit, if_neg (Bool.eq_false_iff.mp hempty), Script.run,
      memory_commit_of_check hadmits.check]
    rfl
  · obtain ⟨u, hu⟩ := TaskMap.has_iff.mp ((edits_of_edit hedit).has_returned hargs id hid)
    have hstored : ((op.batch before edited).write shared.tasks).get? id = _ :=
      get?_write_of_upToDate hup id
    have hcommitted : TaskMap.get? (edited.1.insertAll (op.batch before edited).written) id = _ :=
      get?_insertAll_written id
    rw [hstored, hcommitted, TaskMap.has_iff.mpr ⟨u, hu⟩, Bool.or_true, if_pos rfl, hu,
      Option.map_some, Option.map_some, stored_eq_versioned hargs hwithin hedit hempty hu]

/-- What an operation does to the tasks is what it does alone, and what it returns is stored. -/
def ActsAlone (policy : Policy) (op : Operation) (ambients : Nat → Ambient) (n : Nat)
    (tasks tasks' : TaskMap) (result : Except EngineError (List Task)) : Prop :=
  RunsAlone (op.script policy) ambients n tasks tasks' result ∧
    ∀ ts, result = .ok ts → ∀ t ∈ ts, tasks'.get? t.id = some t

/-- **An operation among other writers** commits what it commits alone to the tasks as they stand
right before its commit, and it has the same result, which is stored. -/
theorem upholds_script (hv : shared.Versioned) :
    (op.script policy ambients).Upholds (ActsAlone policy op ambients) (fun _ _ _ => True) 0
      shared := by
  refine upholds_script_of hv.always delivers_alone fun hargs n tasks tasks' committed heffect => ?_
  obtain ⟨hrun, hstored⟩ := heffect
  constructor
  · unfold RunsAlone at hrun ⊢
    rw [script_eq, hargs]
    dsimp only
    rw [Script.run_bind, hrun]
    rfl
  · intro ts hts t ht
    obtain ⟨hid, hget⟩ := mem_of_results hts t ht
    rw [hstored t.id hid, hget]

end Operation

end TaskPipeline
