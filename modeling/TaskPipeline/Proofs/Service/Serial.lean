import Mathlib.Logic.Function.Basic
import TaskPipeline.Proofs.Engine.Interleaving
import TaskPipeline.Proofs.Service.Turn

/-!
# Many writers

Any number of operations run at the same time on one shared store, call by call and in any order,
and others commit batches of their own in between.  A `System` is the store with the operations
that are under way, and `System.Run` lists the writes of a run in the order of their commits.

What each operation does among the others, whatever they commit (`Script.Upholds`), holds of all of
them in every state of a run: a step moves one operation on, and does not matter to the rest
(`System.Upheld.step`).  What a commit has to do with the store is a `System.Goal`.

The store does not remember what was deleted, so nothing keeps a writer from creating a task under the
identifier of a deleted one, which would look like the task that others may have read.  That this does
not happen is a condition on the writes of a run, `NoneReturns`.

`System.run_serializable`: the store after a run in which no deleted identifier is used again is the
one that the writers leave behind when each of them runs alone, one after the other in the order of
their commits; and every operation that commits has the result that it has alone.
-/

namespace TaskPipeline

/-- An operation that is under way. -/
structure Session where
  /-- The settings of its engine. -/
  policy : Policy
  /-- The operation. -/
  op : Operation
  /-- The clock and the fresh identifiers of each try. -/
  ambients : Nat → Ambient
  /-- The number of tries over the whole store that were begun. -/
  tries : Nat
  /-- What is left to do. -/
  rest : Script (Except EngineError (List Task))

namespace Session

/-- An operation that has not made a call yet. -/
def begin (policy : Policy) (op : Operation) (ambients : Nat → Ambient) : Session :=
  ⟨policy, op, ambients, 0, op.script policy ambients⟩

/-- The result of the operation, and the tasks after it, when it has the store to itself and
starts with the clock and the fresh identifiers of its last try. -/
def alone (s : Session) (tasks : TaskMap) : Except EngineError (List Task) × TaskMap :=
  (s.op.script s.policy (lastTry s.ambients s.tries)).run memory false tasks

/-- What an operation alone can do: fail and leave the tasks as they are, or be performed and return
its results. -/
theorem alone_cases (s : Session) (tasks : TaskMap) :
    (∃ e, (s.alone tasks).1 = .error e ∧ (s.alone tasks).2 = tasks) ∨
    ∃ n before edited committed, s.op.checkArguments = .ok () ∧
      Operation.Performed s.policy s.op (lastTry s.ambients s.tries n) tasks before edited committed
        (s.alone tasks).2 ∧
      (s.alone tasks).1 = Operation.results committed :=
  Operation.run_script memory_faithful

end Session

/-- What wrote to the store. -/
inductive Write where
  /-- An operation, as it stood right before its commit. -/
  | operation (i : Nat) (s : Session)
  /-- A batch from outside. -/
  | batch (changes : ChangeSet)

namespace Write

/-- The tasks after a writer that has the store to itself. -/
def alone : Write → TaskMap → TaskMap
  | operation _ s, tasks => (s.alone tasks).2
  | batch changes, tasks => (memory.perform false (.commit changes) tasks).2

/-- The batch that was written; an operation that stands before its commit has the batch in hand. -/
def changes : Write → ChangeSet
  | operation _ s =>
    match s.rest with
    | .call (.commit changes) _ => changes
    | _ => .empty
  | batch changes => changes

theorem changes_operation {i : Nat} {s : Session} {changes : ChangeSet}
    {next : Answer → Script (Except EngineError (List Task))}
    (hrest : s.rest = .call (.commit changes) next) : (operation i s).changes = changes := by
  cases s
  cases hrest
  rfl

/-- The identifiers of the tasks that are created. -/
def createdIds (w : Write) : List TaskId := w.changes.creates.map Task.id

/-- The identifiers of the tasks that are deleted. -/
def deletedIds (w : Write) : List TaskId := w.changes.deletes.map (·.1)

end Write

/-- No identifier of a deleted task is used again: no write creates a task under an identifier that was
retired before, or that an earlier write has deleted. -/
structure NoneReturns (retired : List TaskId) (log : List Write) : Prop where
  /-- What was retired before stays away. -/
  retired : ∀ w ∈ log, ∀ id ∈ w.createdIds, id ∉ retired
  /-- So does what is deleted on the way. -/
  deleted : log.Pairwise fun w w' => ∀ id ∈ w'.createdIds, id ∉ w.deletedIds

/-- No identifier of a deleted task was used again up to some write. -/
theorem NoneReturns.of_append {retired : List TaskId} {log log' : List Write}
    (h : NoneReturns retired (log ++ log')) : NoneReturns retired log :=
  ⟨fun w hw => h.retired w (List.mem_append_left _ hw), (List.pairwise_append.mp h.deleted).1⟩

/-- A shared store, and the operations that are under way on it. -/
structure System where
  /-- The store. -/
  shared : Shared
  /-- The operations. -/
  sessions : Nat → Option Session

namespace System

variable {start sys sys' : System} {log : List Write} {w : Option Write}

/-- Changes one of the operations that are under way. -/
def put (sys : System) (i : Nat) (s : Option Session) : System :=
  { sys with sessions := Function.update sys.sessions i s }

/-- One step of one of the operations, or a batch from outside.  Any call may fail; a batch is accepted
if it passes the check. -/
inductive Step (sys : System) : Option Write → System → Prop where
  /-- An operation begins. -/
  | begin (i : Nat) (policy : Policy) (op : Operation) (ambients : Nat → Ambient)
      (hfree : sys.sessions i = none) : Step sys none (sys.put i (some (.begin policy op ambients)))
  /-- An operation reads. -/
  | read (i : Nat) (s : Session) (c : Call)
      (next : Answer → Script (Except EngineError (List Task)))
      (answer : Answer) (hs : sys.sessions i = some s) (hrest : s.rest = .call c next)
      (hc : c.kind ≠ .commit) (hanswer : c.Answers sys.shared.tasks answer) :
      Step sys none (sys.put i (some { s with tries := s.tries + c.starts, rest := next answer }))
  /-- A commit is refused, or fails. -/
  | refuse (i : Nat) (s : Session) (changes : ChangeSet)
      (next : Answer → Script (Except EngineError (List Task))) (e : StoreError)
      (hs : sys.sessions i = some s) (hrest : s.rest = .call (.commit changes) next) :
      Step sys none (sys.put i (some { s with rest := next (.error e) }))
  /-- A commit is accepted. -/
  | commit (i : Nat) (s : Session) (changes : ChangeSet)
      (next : Answer → Script (Except EngineError (List Task)))
      (hs : sys.sessions i = some s) (hrest : s.rest = .call (.commit changes) next)
      (hcheck : changes.check sys.shared.tasks = .ok ()) :
      Step sys (some (.operation i s))
        { sys.put i (some { s with rest := next (.ok changes.written) }) with
          shared := sys.shared.commit changes }
  /-- A batch from outside is accepted. -/
  | batch (changes : ChangeSet) (hcheck : changes.check sys.shared.tasks = .ok ()) :
      Step sys (some (.batch changes)) { sys with shared := sys.shared.commit changes }
  /-- An operation is over, or is given up. -/
  | leave (i : Nat) : Step sys none (sys.put i none)

/-- Any number of steps, with the writes in the order of their commits. -/
inductive Run (start : System) : List Write → System → Prop where
  /-- No step. -/
  | nil : Run start [] start
  /-- One more step. -/
  | snoc {log : List Write} {sys sys' : System} {w : Option Write} (hrun : Run start log sys)
      (hstep : sys.Step w sys') : Run start (log ++ w.toList) sys'

/-- The next call of an operation reaches the store.  There is no such step if the operation has
ended. -/
def advance (sys : System) (i : Nat) : Option (Option Write × System) :=
  match sys.sessions i with
  | none => none
  | some s =>
    match s.rest with
    | .done _ => none
    | .call (.commit changes) next =>
      match changes.check sys.shared.tasks with
      | .error e => some (none, sys.put i (some { s with rest := next (.error e) }))
      | .ok () =>
        some (some (.operation i s),
          { sys.put i (some { s with rest := next (.ok changes.written) }) with
            shared := sys.shared.commit changes })
    | .call c next =>
      some (none, sys.put i (some { s with
        tries := s.tries + c.starts
        rest := next (memory.perform false c sys.shared.tasks).1 }))

/-- Operations make their calls in a given order. -/
def schedule (sys : System) : List Nat → Option (List Write × System)
  | [] => some ([], sys)
  | i :: is =>
    match sys.advance i with
    | none => none
    | some (w, sys) => (sys.schedule is).map fun r => (w.toList ++ r.1, r.2)

theorem step_of_advance {i : Nat} (h : sys.advance i = some (w, sys')) : sys.Step w sys' := by
  unfold advance at h
  split at h
  · cases h
  · next s hs =>
    split at h
    · cases h
    · next changes next hrest =>
      split at h
      · cases h
        exact .refuse i s changes next _ hs hrest
      · next hcheck =>
        cases h
        exact .commit i s changes next hs hrest hcheck
    · next c next hc hrest =>
      cases h
      refine .read i s c next _ hs hrest (fun hkind => ?_) fun _ h => h
      cases c with
      | commit changes => exact hc changes rfl
      | _ => cases hkind

theorem run_of_schedule {is : List Nat} {log' : List Write} (hrun : Run start log sys)
    (h : sys.schedule is = some (log', sys')) : Run start (log ++ log') sys' := by
  induction is generalizing log log' sys with
  | nil =>
    cases h
    rwa [List.append_nil]
  | cons i is ih =>
    unfold schedule at h
    split at h
    · cases h
    · next w sys₁ hadvance =>
      rw [Option.map_eq_some_iff] at h
      obtain ⟨⟨log₁, sys₂⟩, hrest, heq⟩ := h
      cases heq
      rw [← List.append_assoc]
      exact ih (hrun.snoc (step_of_advance hadvance)) hrest

/-! ### Identifiers of deleted tasks -/

/-- A step creates no task under the identifier of a deleted one. -/
def IsNew (sys : System) (w : Option Write) : Prop :=
  ∀ w' ∈ w, ∀ id ∈ w'.createdIds, id ∉ sys.shared.retired

theorem IsNew.admits_of_commit {i : Nat} {s : Session} {changes : ChangeSet}
    {next : Answer → Script (Except EngineError (List Task))}
    (hnew : sys.IsNew (some (.operation i s))) (hrest : s.rest = .call (.commit changes) next)
    (hcheck : changes.check sys.shared.tasks = .ok ()) : sys.shared.Admits changes := by
  refine ⟨hcheck, fun t ht => hnew _ rfl t.id ?_⟩
  unfold Write.createdIds
  rw [Write.changes_operation hrest]
  exact List.mem_map_of_mem ht

theorem IsNew.admits_of_batch {changes : ChangeSet} (hnew : sys.IsNew (some (.batch changes)))
    (hcheck : changes.check sys.shared.tasks = .ok ()) : sys.shared.Admits changes :=
  ⟨hcheck, fun _ ht => hnew _ rfl _ (List.mem_map_of_mem ht)⟩

/-- A write retires the identifiers that it deletes. -/
theorem Step.retired_eq (hstep : sys.Step w sys') :
    sys'.shared.retired = (w.elim [] Write.deletedIds) ++ sys.shared.retired := by
  cases hstep with
  | commit i s changes next hs hrest hcheck =>
    show _ = (Write.operation i s).deletedIds ++ _
    unfold Write.deletedIds
    rw [Write.changes_operation hrest]
    rfl
  | _ => rfl

/-- **Only what was deleted is retired.** -/
theorem Run.mem_retired (hrun : Run start log sys) {id : TaskId} (hid : id ∈ sys.shared.retired) :
    id ∈ start.shared.retired ∨ ∃ w ∈ log, id ∈ w.deletedIds := by
  induction hrun with
  | nil => exact .inl hid
  | @snoc log sys sys' w _ hstep ih =>
    rw [hstep.retired_eq, List.mem_append] at hid
    rcases hid with hid | hid
    · cases w with
      | none => cases hid
      | some w => exact .inr ⟨w, List.mem_append_right _ (List.mem_singleton_self w), hid⟩
    · refine (ih hid).imp_right fun ⟨w', hw', hdeleted⟩ => ?_
      exact ⟨w', List.mem_append_left _ hw', hdeleted⟩

/-- If no identifier of a deleted task is used again, then not in the next step either. -/
theorem Run.isNew (hrun : Run start log sys)
    (hlog : NoneReturns start.shared.retired (log ++ w.toList)) : sys.IsNew w := by
  rintro w' hw' id hid hretired
  obtain rfl := Option.mem_def.mp hw'
  have hmem : w' ∈ [w'] := List.mem_singleton_self w'
  rcases hrun.mem_retired hretired with hstart | ⟨u, hu, hdeleted⟩
  · exact hlog.retired w' (List.mem_append_right _ hmem) id hid hstart
  · exact (List.pairwise_append.mp hlog.deleted).2.2 u hu w' hmem id hid hdeleted

/-! ### Operations under way -/

/-- What a commit of an operation, with these settings, clock and fresh identifiers, has to do with
the tasks before and after it and with the result, after a number of tries. -/
abbrev Goal := Policy → Operation → (Nat → Ambient) → Nat → TaskMap → TaskMap →
  Except EngineError (List Task) → Prop

/-- Whatever the operations that are under way will commit meets the goal. -/
def Upheld (goal : Goal) (sys : System) : Prop :=
  ∀ i s, sys.sessions i = some s →
    s.rest.Upholds (goal s.policy s.op s.ambients) (fun _ _ _ => True) s.tries sys.shared

section Upheld

variable {goal : Goal} (h : sys.Upheld goal)

theorem Upheld.of_idle (hidle : ∀ i, start.sessions i = none) : start.Upheld goal := by
  intro i s hs
  rw [hidle i] at hs
  cases hs

include h

/-- Changing one operation. -/
theorem Upheld.put {i : Nat} {s : Option Session}
    (hs : ∀ s', s = some s' → s'.rest.Upholds (goal s'.policy s'.op s'.ambients)
      (fun _ _ _ => True) s'.tries sys.shared) : (sys.put i s).Upheld goal := by
  intro j s' hj
  unfold System.put at hj
  dsimp only at hj
  rw [Function.update_apply] at hj
  split at hj
  · exact hs s' hj
  · exact h j s' hj

/-- Other operations do not matter to one that is under way. -/
theorem Upheld.commit {changes : ChangeSet} (hadmits : sys.shared.Admits changes) :
    Upheld goal { sys with shared := sys.shared.commit changes } :=
  fun i s hs => (h i s hs).transfer (.of_admits hadmits)

/-- **Every step leaves the goal upheld** if it is upheld for operations that begin. -/
theorem Upheld.step (hbegin : ∀ policy op ambients,
      (Operation.script policy op ambients).Upholds (goal policy op ambients) (fun _ _ _ => True) 0
        sys.shared) (hnew : sys.IsNew w) (hstep : sys.Step w sys') : sys'.Upheld goal := by
  -- one operation moves on; for the others only the store may have changed
  cases hstep with
  | begin i policy op ambients hfree =>
    refine h.put fun s' hs' => ?_
    cases hs'
    exact hbegin policy op ambients
  | read i s c next answer hs hrest hc hanswer =>
    refine h.put fun s' hs' => ?_
    cases hs'
    have hup := h i s hs
    rw [hrest] at hup
    cases hup with
    | read _ hread => exact hread _ answer (.refl _) hanswer
    | commit _ _ => exact absurd rfl hc
  | refuse i s changes next e hs hrest =>
    refine h.put fun s' hs' => ?_
    cases hs'
    have hup := h i s hs
    rw [hrest] at hup
    cases hup with
    | read hc _ => exact absurd rfl hc
    | commit herr _ => exact herr _ e (.refl _)
  | commit i s changes next hs hrest hcheck =>
    have hadmits := hnew.admits_of_commit hrest hcheck
    have hup := h i s hs
    rw [hrest] at hup
    cases hup with
    | read hc _ => exact absurd rfl hc
    | commit _ hok =>
      obtain ⟨result, hnext, -⟩ := hok _ (.refl _) hadmits
      refine (h.commit hadmits).put fun s' hs' => ?_
      cases hs'
      dsimp only
      rw [hnext]
      exact .done fun _ _ => trivial
  | batch changes hcheck => exact h.commit (hnew.admits_of_batch hcheck)
  | leave i => exact h.put fun s' hs' => by cases hs'

/-- **An operation that commits meets the goal.** -/
theorem Upheld.result {i : Nat} {s : Session} (hnew : sys.IsNew (some (.operation i s)))
    (hstep : sys.Step (some (.operation i s)) sys') :
    ∃ result, sys'.sessions i = some { s with rest := .done result } ∧
      goal s.policy s.op s.ambients s.tries sys.shared.tasks sys'.shared.tasks result := by
  cases hstep with
  | commit _ _ changes next hs hrest hcheck =>
    have hadmits := hnew.admits_of_commit hrest hcheck
    have hup := h i s hs
    rw [hrest] at hup
    cases hup with
    | read hc _ => exact absurd rfl hc
    | commit _ hok =>
      obtain ⟨result, hnext, hresult⟩ := hok _ (.refl _) hadmits
      refine ⟨result, ?_, hresult⟩
      unfold System.put
      dsimp only
      rw [Function.update_self, hnext]

end Upheld

/-! ### Serializability -/

/-- An operation does what it does alone, and what it returns is stored. -/
def aloneGoal : Goal := Operation.ActsAlone

/-- Every task was written through a commit, and whatever an operation will commit is what it
commits alone. -/
structure Inv (sys : System) : Prop where
  /-- The versions of the tasks. -/
  versioned : sys.shared.Versioned
  /-- The operations. -/
  upheld : sys.Upheld aloneGoal

theorem Inv.of_idle (hv : start.shared.Versioned) (hidle : ∀ i, start.sessions i = none) :
    start.Inv := ⟨hv, .of_idle hidle⟩

theorem Step.versioned (hnew : sys.IsNew w) (hstep : sys.Step w sys') (hv : sys.shared.Versioned) :
    sys'.shared.Versioned := by
  cases hstep with
  | commit _ _ _ _ _ hrest hcheck => exact hv.commit (hnew.admits_of_commit hrest hcheck)
  | batch _ hcheck => exact hv.commit (hnew.admits_of_batch hcheck)
  | _ => exact hv

/-- **Every step keeps the invariant.** -/
theorem Inv.step (h : sys.Inv) (hnew : sys.IsNew w) (hstep : sys.Step w sys') : sys'.Inv where
  versioned := hstep.versioned hnew h.versioned
  upheld := h.upheld.step (fun _ _ _ => Operation.upholds_script h.versioned) hnew hstep

/-- **An operation that commits does what it does alone**, and what it returns is stored. -/
theorem Inv.alone (h : sys.Inv) {i : Nat} {s : Session} (hnew : sys.IsNew (some (.operation i s)))
    (hstep : sys.Step (some (.operation i s)) sys') :
    ∃ result, sys'.sessions i = some { s with rest := .done result } ∧
      s.alone sys.shared.tasks = (result, sys'.shared.tasks) ∧
      ∀ ts, result = .ok ts → ∀ t ∈ ts, sys'.shared.tasks.get? t.id = some t :=
  h.upheld.result hnew hstep

/-- An operation that commits is performed on the tasks as they stand right before its commit, if it
changes anything. -/
theorem Inv.performed (h : sys.Inv) {i : Nat} {s : Session}
    (hnew : sys.IsNew (some (.operation i s))) (hstep : sys.Step (some (.operation i s)) sys') :
    sys'.shared.tasks = sys.shared.tasks ∨
    ∃ n before edited committed, s.op.checkArguments = .ok () ∧
      Operation.Performed s.policy s.op (lastTry s.ambients s.tries n) sys.shared.tasks before
        edited committed sys'.shared.tasks := by
  obtain ⟨result, -, halone, -⟩ := h.alone hnew hstep
  have hcases := s.alone_cases sys.shared.tasks
  rw [halone] at hcases
  rcases hcases with ⟨e, -, hsame⟩ | ⟨n, before, edited, committed, hargs, hperformed, -⟩
  · exact .inl hsame
  · exact .inr ⟨n, before, edited, committed, hargs, hperformed⟩

theorem Inv.write_alone (h : sys.Inv) {w : Write} (hnew : sys.IsNew (some w))
    (hstep : sys.Step (some w) sys') : sys'.shared.tasks = w.alone sys.shared.tasks := by
  cases w with
  | operation i s =>
    obtain ⟨result, -, halone, -⟩ := h.alone hnew hstep
    show _ = (s.alone sys.shared.tasks).2
    rw [halone]
  | batch changes =>
    cases hstep with
    | batch _ hcheck =>
      show _ = (memory.perform false (.commit changes) sys.shared.tasks).2
      rw [memory_commit_of_check hcheck]
      rfl

theorem Step.shared_eq (h : sys.Step none sys') : sys'.shared = sys.shared := by
  cases h <;> rfl

theorem Run.inv (h : Run start log sys) (hv : start.shared.Versioned)
    (hidle : ∀ i, start.sessions i = none) (hlog : NoneReturns start.shared.retired log) :
    sys.Inv := by
  induction h with
  | nil => exact .of_idle hv hidle
  | snoc hrun hstep ih => exact (ih hlog.of_append).step (hrun.isNew hlog) hstep

theorem Run.tasks_eq (h : Run start log sys) (hv : start.shared.Versioned)
    (hidle : ∀ i, start.sessions i = none) (hlog : NoneReturns start.shared.retired log) :
    sys.shared.tasks = log.foldl (fun tasks w => w.alone tasks) start.shared.tasks := by
  induction h with
  | nil => rfl
  | @snoc log sys sys' w hrun hstep ih =>
    rw [List.foldl_append, ← ih hlog.of_append]
    cases w with
    | none => rw [hstep.shared_eq]; rfl
    | some w => exact (hrun.inv hv hidle hlog.of_append).write_alone (hrun.isNew hlog) hstep

/-- **Runs are serializable.**  The store after a run in which no deleted identifier is used again is
what the writers leave behind when they run alone in the order of their commits.  Each operation that
commits finds the store in such a state, does to it what it does alone, with the same result, and the
tasks that it returns are the stored ones. -/
theorem run_serializable (hv : start.shared.Versioned) (hidle : ∀ i, start.sessions i = none)
    (hrun : Run start log sys) (hlog : NoneReturns start.shared.retired log) :
    sys.shared.tasks = log.foldl (fun tasks w => w.alone tasks) start.shared.tasks ∧
      ∀ i s sys', sys.Step (some (.operation i s)) sys' →
        NoneReturns start.shared.retired (log ++ [.operation i s]) →
        ∃ result, sys'.sessions i = some { s with rest := .done result } ∧
          s.alone sys.shared.tasks = (result, sys'.shared.tasks) ∧
          ∀ ts, result = .ok ts → ∀ t ∈ ts, sys'.shared.tasks.get? t.id = some t :=
  ⟨hrun.tasks_eq hv hidle hlog,
    fun _ _ _ hstep hnext => (hrun.inv hv hidle hlog).alone (hrun.isNew hnext) hstep⟩

end System

namespace Sample

/-- A store without tasks, and nobody to use it. -/
def idle : System := ⟨⟨.empty, []⟩, fun _ => none⟩

/-- Two operations that each create a task. -/
def racing : System :=
  (idle.put 0 (some (.begin .default (.add "first" "" user) fun _ => ambient first))).put 1
    (some (.begin .default (.add "second" "" user) fun _ => ambient second))

/-- Both read the store, the second commits, the first is refused and reads again. -/
def raced : List Write × System := (racing.schedule [0, 1, 1, 0, 0]).get rfl

theorem run_raced : idle.Run raced.1 raced.2 := by
  have hracing : idle.Run [] racing := .snoc (.snoc .nil (.begin 0 _ _ _ rfl)) (.begin 1 _ _ _ rfl)
  exact System.run_of_schedule hracing
    (Option.some_get (x := racing.schedule [0, 1, 1, 0, 0]) rfl).symm

theorem noneReturns_raced : NoneReturns [] raced.1 := ⟨by simp, by decide⟩

end Sample

/-- Of two operations that create tasks at the same time, one needs a second try; then its commit
does what it does alone. -/
theorem run_serializable_of_race :
    Sample.raced.2.shared.tasks =
        Sample.raced.1.foldl (fun tasks w => w.alone tasks) Sample.idle.shared.tasks ∧
      ∃ s sys', Sample.raced.2.Step (some (.operation 0 s)) sys' ∧ s.tries = 2 ∧
        (s.alone Sample.raced.2.shared.tasks).2 = sys'.shared.tasks ∧
        sys'.shared.tasks.ids = [Sample.first, Sample.second] := by
  have hv : Sample.idle.shared.Versioned := fun _ _ h => by cases h
  obtain ⟨hall, hnext⟩ := System.run_serializable hv (fun _ => rfl) Sample.run_raced
    Sample.noneReturns_raced
  obtain ⟨s, sys', hadvance, htries, hids, hlog⟩ : ∃ s sys',
      Sample.raced.2.advance 0 = some (some (.operation 0 s), sys') ∧ s.tries = 2 ∧
        sys'.shared.tasks.ids = [Sample.first, Sample.second] ∧
        NoneReturns [] (Sample.raced.1 ++ [.operation 0 s]) :=
    ⟨_, _, rfl, rfl, rfl, by simp, by decide⟩
  have hstep := System.step_of_advance hadvance
  obtain ⟨result, -, halone, -⟩ := hnext 0 s sys' hstep hlog
  exact ⟨hall, s, sys', hstep, htries, by rw [halone], hids⟩

end TaskPipeline
