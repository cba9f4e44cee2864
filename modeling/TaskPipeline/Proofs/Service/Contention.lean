import TaskPipeline.Proofs.Engine.Named
import TaskPipeline.Proofs.Engine.Retry
import TaskPipeline.Proofs.Graph.Integrity
import TaskPipeline.Proofs.Service.NoEffect

/-!
# Operations that lose a race

An operation on the graph that is made while others make turns is tried again when it loses a race.
It makes one commit for each try, and reports a conflict only if every try met a store that others
had changed.  Any other error is what the operation alone would answer at that moment, with one
exception: a try is `Undercut` if the first task of its batch that others have changed is gone.  The
store then says that the task is missing, which counts as final, even if the request never named the
task and would have succeeded in the next try (`misreports_iff_undercut`).

Only merges and splits are undercut by the loss of a task that the request does not name, since only
they rewire neighbours; unless the task is not the same as itself, so that every operation on the graph
writes it.
-/

namespace TaskPipeline

open Operation

/-- Others make turns before the calls of an operation; no call fails. -/
def crowd (foreign : CallKind → Nat → List Turn) : Interference TaskMap :=
  ⟨fun k n tasks => replay tasks (foreign k n), fun _ _ => none⟩

variable {policy : Policy} {op : Operation} {ambients : Nat → Ambient} {tasks : TaskMap} {n : Nat}
  {foreign : CallKind → Nat → List Turn} {i : Interference TaskMap} {e : EngineError}

theorem wellFormed_replay (h : Graph.WellFormed tasks) (turns : List Turn) :
    Graph.WellFormed (replay tasks turns) :=
  replay_induction h (fun _ turn h => turn.wellFormed h) turns

theorem wellFormed_seen (h : Graph.WellFormed tasks) (n : Nat) :
    Graph.WellFormed ((crowd foreign).seen tasks n) := by
  have hbefore : Graph.WellFormed ((crowd foreign).before tasks n) := by
    induction n with
    | zero => exact h
    | succ n ih => exact wellFormed_replay (wellFormed_replay ih _) _
  exact wellFormed_replay hbefore _

namespace Operation

/-- What the operation answers alone, with the clock and the fresh identifiers of the last of a
number of tries. -/
def answerAlone (policy : Policy) (op : Operation) (ambients : Nat → Ambient) (tries : Nat)
    (tasks : TaskMap) : Except EngineError (List Task) :=
  ((op.script policy (lastTry ambients tries)).run memory false tasks).1

/-- The arguments are accepted, all tries before have lost, and the batch of this one is refused for
good. -/
def Undercut (policy : Policy) (op : Operation) (ambients : Nat → Ambient)
    (i : Interference TaskMap) (tasks : TaskMap) (n : Nat) (e : EngineError) : Prop :=
  op.checkArguments = .ok () ∧ (∀ k < n, Loses policy op ambients i tasks k) ∧
    ∃ edited e', op.edit policy (ambients n) (i.seen tasks n) = .ok edited ∧
      (op.batch (i.seen tasks n) edited).RefusedForGood (i.found tasks n) e' ∧
      e = .ofStore op.title e'

/-- In a well-formed graph an edit returns no task twice, since no task can be stitched to itself. -/
theorem nodup_returned_of_wellFormed {ambient : Ambient} {edited : Edited}
    (hwf : Graph.WellFormed tasks) (hedit : op.edit policy ambient tasks = .ok edited) :
    edited.2.Nodup := by
  have hedits := edits_of_edit hedit
  rcases hedits.nodup_returned with hnd | ⟨sources, target, hop, hmem⟩
  · exact hnd
  · rw [hop] at hedits
    have hself := TaskMap.hasEdge_self_of_linkedAll hedits.of_stitch.2.1
      (Turn.mem_stitchPairs.mpr ⟨hmem, rfl⟩)
    exact absurd (Graph.hasEdge_iff.mp hself).1 (hwf.not_mem_outflows target)

/-- A try that has succeeded has results, if the graph is well-formed. -/
theorem TryEnds.results_ok {committed : Edited} {o : Observed TaskMap}
    (h : TryEnds policy op (ambients n) i tasks n (.ok committed) o)
    (hargs : op.checkArguments = .ok ()) (hwf : Graph.WellFormed (i.seen tasks n)) :
    ∃ ts, results committed = .ok ts := by
  cases h with
  | unchanged hedit =>
    exact results_ok_of_has (nodup_returned_of_wellFormed hwf hedit)
      ((edits_of_edit hedit).has_returned hargs)
  | @committed edited hedit hcheck =>
    have hnd := nodup_returned_of_wellFormed hwf hedit
    refine results_ok_of_has hnd fun id hid => ?_
    obtain ⟨t, ht⟩ := TaskMap.has_iff.mp ((edits_of_edit hedit).has_returned hargs id hid)
    rw [TaskMap.has_eq_isSome, show TaskMap.get? (edited.1.insertAll
      (op.batch (i.seen tasks n) edited).written) id = _ from ChangeSet.get?_insertAll_written id, ht]
    rfl

theorem TryEnds.count {outcome : Except EngineError Edited} {o : Observed TaskMap}
    (h : TryEnds policy op (ambients n) i tasks n outcome o) :
    o.count .list = n + 1 ∧ o.count .commit ≤ n + 1 := by
  cases h with
  | failed => exact ⟨rfl, Nat.le_succ n⟩
  | unchanged => exact ⟨rfl, Nat.le_succ n⟩
  | refused => exact ⟨rfl, Nat.le_refl _⟩
  | committed => exact ⟨rfl, Nat.le_refl _⟩

/-- A try that ends with another error than a conflict failed in its edit or was refused for good. -/
theorem TryEnds.error_cases {o : Observed TaskMap}
    (h : TryEnds policy op (ambients n) i tasks n (.error e) o) (he : isRace e = false) :
    (op.edit policy (ambients n) (i.seen tasks n) = .error e ∧ o.store = i.seen tasks n) ∨
    (∃ edited e', op.edit policy (ambients n) (i.seen tasks n) = .ok edited ∧
      (op.batch (i.seen tasks n) edited).RefusedForGood (i.found tasks n) e' ∧
      e = .ofStore op.title e') ∧ o.store = i.found tasks n := by
  cases h with
  | failed hedit => exact .inl ⟨hedit, rfl⟩
  | @refused edited e' hedit _ hcheck =>
    have hno : ¬ e'.IsConflict := by
      rw [← isRace_ofStore_iff, he]
      exact Bool.false_ne_true
    have hrefused := (ChangeSet.check_eq_error_iff (nodup_named_batch op _ edited) hno).mp hcheck
    exact .inr ⟨⟨edited, e', hedit, hrefused, rfl⟩, rfl⟩

/-- A try that is refused for good ends with that error. -/
theorem TryEnds.eq_error_of_refused {outcome : Except EngineError Edited} {o : Observed TaskMap}
    {edited : Edited} {e' : StoreError} (h : TryEnds policy op (ambients n) i tasks n outcome o)
    (hedit : op.edit policy (ambients n) (i.seen tasks n) = .ok edited)
    (hrefused : (op.batch (i.seen tasks n) edited).RefusedForGood (i.found tasks n) e') :
    outcome = .error (.ofStore op.title e') ∧ o.store = i.found tasks n := by
  have hcheck := (ChangeSet.check_eq_error_iff (nodup_named_batch op _ edited)
    hrefused.not_isConflict).mpr hrefused
  have hempty : (op.batch (i.seen tasks n) edited).isEmpty = false := hrefused.not_isEmpty
  cases h with
  | failed h => rw [hedit] at h; cases h
  | unchanged h h' =>
    rw [hedit] at h
    cases h
    rw [hempty] at h'
    cases h'
  | refused h _ h' =>
    rw [hedit] at h
    cases h
    cases hcheck.symm.trans h'
    exact ⟨rfl, rfl⟩
  | committed h h' =>
    rw [hedit] at h
    cases h
    cases hcheck.symm.trans h'

/-- The operation, made while others make turns. -/
def inCrowd (policy : Policy) (op : Operation) (ambients : Nat → Ambient)
    (foreign : CallKind → Nat → List Turn) (tasks : TaskMap) :
    Except EngineError (List Task) × Observed TaskMap :=
  (op.script policy ambients).run (interfered memory (crowd foreign)) false (.start tasks)

/-- **How an operation ends while others make turns**: the errors are those of its last try. -/
theorem exists_last_try (hwf : Graph.WellFormed tasks) (hscope : op.scope = .whole)
    (hargs : op.checkArguments = .ok ()) :
    ∃ n ≤ policy.retries, ∃ outcome,
      (∀ k < n, Loses policy op ambients (crowd foreign) tasks k) ∧
      TryEnds policy op (ambients n) (crowd foreign) tasks n outcome
        (op.inCrowd policy ambients foreign tasks).2 ∧
      (∀ e, (op.inCrowd policy ambients foreign tasks).1 = .error e ↔ outcome = .error e) ∧
      (Loses policy op ambients (crowd foreign) tasks n → n = policy.retries) := by
  have hfault : ∀ k n, (crowd foreign).fault k n = none := fun _ _ => rfl
  obtain ⟨n, hn, outcome, hbefore, hends, hresult, hlast⟩ :=
    @run_script_interfered policy op ambients (crowd foreign) tasks hfault hscope hargs
  refine ⟨n, hn, outcome, hbefore, hends, fun e => ?_, hlast⟩
  unfold inCrowd
  rw [hresult]
  cases outcome with
  | error e' =>
    show (Except.error e' : Except EngineError (List Task)) = .error e ↔ _
    rw [Except.error.injEq, Except.error.injEq]
  | ok committed =>
    obtain ⟨ts, hts⟩ := hends.results_ok hargs (wellFormed_seen hwf n)
    refine iff_of_false (fun he => ?_) nofun
    rw [show (Except.ok committed >>= results) = results committed from rfl, hts] at he
    cases he

/-! ### Errors that are not what the operation alone would answer -/

theorem answerAlone_of_edit_error (hscope : op.scope = .whole) (hargs : op.checkArguments = .ok ())
    (hedit : op.edit policy (ambients n) tasks = .error e) :
    answerAlone policy op ambients (n + 1) tasks = .error e := by
  unfold answerAlone
  rw [run_script_memory_error hscope hargs hedit]

theorem not_loses_of_refused {edited : Edited} {e' : StoreError}
    (hedit : op.edit policy (ambients n) (i.seen tasks n) = .ok edited)
    (hrefused : (op.batch (i.seen tasks n) edited).RefusedForGood (i.found tasks n) e') :
    ¬ Loses policy op ambients i tasks n := by
  rintro ⟨edited', e, hedit', -, hcheck, he⟩
  cases hedit.symm.trans hedit'
  have herror := (ChangeSet.check_eq_error_iff (nodup_named_batch op _ edited)
    hrefused.not_isConflict).mpr hrefused
  cases herror.symm.trans hcheck
  exact hrefused.not_isConflict he

/-- The operation reports an error that it would not report alone. -/
def Misreports (policy : Policy) (op : Operation) (ambients : Nat → Ambient)
    (foreign : CallKind → Nat → List Turn) (tasks : TaskMap) : Prop :=
  ∃ e, (op.inCrowd policy ambients foreign tasks).1 = .error e ∧ isRace e = false ∧
    answerAlone policy op ambients ((op.inCrowd policy ambients foreign tasks).2.count .list)
      (op.inCrowd policy ambients foreign tasks).2.store ≠ .error e

/-- **When an operation misreports**: a try is undercut, and the operation alone would have answered
something else to the store that the try met. -/
theorem misreports_iff (hwf : Graph.WellFormed tasks) (hscope : op.scope = .whole)
    (hargs : op.checkArguments = .ok ()) :
    Misreports policy op ambients foreign tasks ↔
      ∃ n ≤ policy.retries, ∃ e, Undercut policy op ambients (crowd foreign) tasks n e ∧
        answerAlone policy op ambients (n + 1) ((crowd foreign).found tasks n) ≠ .error e := by
  obtain ⟨n, hn, outcome, hbefore, hends, herror, hlast⟩ :=
    @exists_last_try policy op ambients tasks foreign hwf hscope hargs
  obtain ⟨hlists, -⟩ := hends.count
  unfold Misreports
  constructor
  · rintro ⟨e, he, hrace, halone⟩
    rw [(herror e).mp he] at hends
    rw [hlists] at halone
    rcases hends.error_cases hrace with ⟨hedit, hstore⟩ | ⟨hrefused, hstore⟩
    · -- the same edit fails alone
      rw [hstore] at halone
      exact absurd (answerAlone_of_edit_error hscope hargs hedit) halone
    · rw [hstore] at halone
      exact ⟨n, hn, e, ⟨hargs, hbefore, hrefused⟩, halone⟩
  · rintro ⟨m, hm, e, ⟨-, hbefore', edited, e', hedit, hrefused, rfl⟩, halone⟩
    have hno := not_loses_of_refused hedit hrefused
    have hmn : n = m := by
      rcases Nat.lt_trichotomy n m with h | h | h
      · have := hlast (hbefore' n h)
        omega
      · exact h
      · exact absurd (hbefore m h) hno
    rw [hmn] at hends hlists
    obtain ⟨houtcome, hstore⟩ := hends.eq_error_of_refused hedit hrefused
    refine ⟨_, (herror _).mpr houtcome, ?_, ?_⟩
    · rw [← Bool.not_eq_true, isRace_ofStore_iff]
      exact hrefused.not_isConflict
    · rw [hlists, hstore]
      exact halone

/-- Arguments that make no sense are refused before anything is read. -/
theorem inCrowd_of_checkArguments (hargs : op.checkArguments = .error e) :
    op.inCrowd policy ambients foreign tasks = (.error e, .start tasks) := by
  unfold inCrowd
  rw [script_eq, hargs]
  rfl

theorem validation_of_checkArguments (hargs : op.checkArguments = .error e) :
    ∃ reason, e = .validation reason := by
  unfold checkArguments at hargs
  repeat' split at hargs
  all_goals first
    | exact ⟨_, (Except.error.inj hargs).symm⟩
    | cases hargs

/-- **A task that the request does not name is reported missing** only if others removed it after a try
had read it, and only by a merge or a split, or if it was not the same as itself. -/
theorem undercut_of_not_named {id : TaskId} (hwf : Graph.WellFormed tasks)
    (hscope : op.scope = .whole) (hargs : op.checkArguments = .ok ())
    (h : (op.inCrowd policy ambients foreign tasks).1 = .error (.taskNotFound id))
    (hid : id ∉ op.named) :
    ∃ n ≤ policy.retries, ((crowd foreign).seen tasks n).has id = true ∧
      ((crowd foreign).found tasks n).has id = false ∧
      Undercut policy op ambients (crowd foreign) tasks n (.taskNotFound id) ∧
      (((∃ source target, op = .merge source target) ∨
        ∃ task names descriptions, op = .split task names descriptions) ∨
        ((crowd foreign).seen tasks n).Restless id) := by
  obtain ⟨n, hn, outcome, hbefore, hends, herror, -⟩ :=
    @exists_last_try policy op ambients tasks foreign hwf hscope hargs
  rw [(herror _).mp h] at hends
  rcases hends.error_cases rfl with ⟨hedit, -⟩ | ⟨⟨edited, e', hedit, hrefused, he⟩, -⟩
  · exact absurd (missesOnly_edit hscope id hedit) hid
  · have hundercut : Undercut policy op ambients (crowd foreign) tasks n (.taskNotFound id) :=
      ⟨hargs, hbefore, edited, e', hedit, hrefused, he⟩
    cases hrefused with
    | taken _ => cases he
    | @gone p _ hfind hgone =>
      obtain rfl : id = p.1 := taskNotFound_inj he
      have hmem := List.mem_of_find?_eq_some hfind
      exact ⟨n, hn, (of_mem_replaced hargs hedit hmem).1, TaskMap.get?_eq_none_iff.mp hgone,
        hundercut, (named_of_mem_replaced hscope hargs hedit hmem).resolve_left hid⟩

end Operation

/-- **A lost race is retried, and misreported only if a try is undercut.**  An operation on the graph
runs on a well-formed graph while others make any turns before each of its calls.
It makes no more commits than it has tries.  It reports a conflict only if every try met a store
that others had changed since the try had read it.  It reports another error than it would report
alone at that moment iff one of its tries is undercut, after tries that lost, by a loss that the
operation alone would not report.  And it reports a task as missing that the request does not name
only if others removed that task after a try had read it, and only if the operation merges or splits
or the task, as it was read, is not the same as itself. -/
theorem misreports_iff_undercut (policy : Policy) (op : Operation) (ambients : Nat → Ambient)
    (foreign : CallKind → Nat → List Turn) (tasks : TaskMap) (hwf : Graph.WellFormed tasks)
    (hscope : op.scope = .whole) :
    (op.inCrowd policy ambients foreign tasks).2.count .commit ≤ policy.retries + 1 ∧
    (∀ id, (op.inCrowd policy ambients foreign tasks).1 = .error (.conflict id) →
      ∀ n ≤ policy.retries, (crowd foreign).found tasks n ≠ (crowd foreign).seen tasks n) ∧
    (Misreports policy op ambients foreign tasks ↔
      ∃ n ≤ policy.retries, ∃ e, Undercut policy op ambients (crowd foreign) tasks n e ∧
        answerAlone policy op ambients (n + 1) ((crowd foreign).found tasks n) ≠ .error e) ∧
    ∀ id, (op.inCrowd policy ambients foreign tasks).1 = .error (.taskNotFound id) →
      id ∉ op.named →
      ∃ n ≤ policy.retries, ((crowd foreign).seen tasks n).has id = true ∧
        ((crowd foreign).found tasks n).has id = false ∧
        Undercut policy op ambients (crowd foreign) tasks n (.taskNotFound id) ∧
        (((∃ source target, op = .merge source target) ∨
          ∃ task names descriptions, op = .split task names descriptions) ∨
          ((crowd foreign).seen tasks n).Restless id) := by
  cases hargs : op.checkArguments with
  | error e =>
    have hrun : op.inCrowd policy ambients foreign tasks = (.error e, .start tasks) :=
      inCrowd_of_checkArguments hargs
    obtain ⟨reason, rfl⟩ := validation_of_checkArguments hargs
    rw [hrun]
    refine ⟨Nat.zero_le _, fun id h => (by cases h), iff_of_false ?_ ?_, fun id h => (by cases h)⟩
    · rintro ⟨e', he', -, halone⟩
      rw [hrun] at he' halone
      cases he'
      unfold answerAlone at halone
      rw [script_eq, hargs] at halone
      exact halone rfl
    · rintro ⟨n, -, e', ⟨hok, -⟩, -⟩
      rw [hargs] at hok
      cases hok
  | ok u =>
    obtain ⟨m, hm, outcome, hbefore, hends, herror, hlast⟩ :=
      @exists_last_try policy op ambients tasks foreign hwf hscope hargs
    refine ⟨?_, fun id hconflict n hn => ?_, misreports_iff hwf hscope hargs, fun id h hid =>
      undercut_of_not_named hwf hscope hargs h hid⟩
    · have := hends.count.2
      omega
    · have hloses := hends.isRace_iff.mp ⟨_, (herror _).mp hconflict, rfl⟩
      have hm := hlast hloses
      rcases Nat.lt_or_eq_of_le hn with h | h
      · exact found_ne_seen_of_loses hargs (hbefore n (by omega))
      · rw [h, ← hm]
        exact found_ne_seen_of_loses hargs hloses

namespace Sample

def fourth : TaskId := ⟨"d", by decide, by decide⟩

/-- Three tasks with an edge from the third to the first. -/
def chained : TaskMap :=
  .ofList [{ Task.create first "first" "" user (.midnight .epoch) with inflows := ⟨[third]⟩ },
    .create second "second" "" user (.midnight .epoch),
    { Task.create third "third" "" user (.midnight .epoch) with outflows := ⟨[first]⟩ }]

theorem wellFormed_chained : Graph.WellFormed chained :=
  Graph.wellFormed_of_violations (by cbv) (by decide)

/-- Somebody else splits the third task just before the first commit. -/
def splitter : CallKind → Nat → List Turn
  | .commit, 1 => [.plain (ambient fourth) (.split third ["part"] [""])]
  | _, _ => []

end Sample

/-- The first task is to be merged into the second, when the third, which the request does not name,
is split: the merge answers that the third is missing, and alone it would have succeeded. -/
theorem undercut_by_splitting :
    (inCrowd .default (.merge Sample.first Sample.second) (fun _ => Sample.ambient Sample.first)
      Sample.splitter Sample.chained).1 = .error (.taskNotFound Sample.third) ∧
    (∃ n ≤ 3, ((crowd Sample.splitter).seen Sample.chained n).has Sample.third = true ∧
      ((crowd Sample.splitter).found Sample.chained n).has Sample.third = false) ∧
    ∃ n ≤ 3, ∃ e,
      Undercut .default (.merge Sample.first Sample.second) (fun _ => Sample.ambient Sample.first)
        (crowd Sample.splitter) Sample.chained n e ∧
      answerAlone .default (.merge Sample.first Sample.second) (fun _ => Sample.ambient Sample.first)
        (n + 1) ((crowd Sample.splitter).found Sample.chained n) ≠ .error e := by
  obtain ⟨-, -, hmisreports, hmissing⟩ := misreports_iff_undercut .default
    (.merge Sample.first Sample.second) (fun _ => Sample.ambient Sample.first) Sample.splitter
    Sample.chained Sample.wellFormed_chained rfl
  have herror : (inCrowd .default (.merge Sample.first Sample.second)
      (fun _ => Sample.ambient Sample.first) Sample.splitter Sample.chained).1 =
        .error (.taskNotFound Sample.third) := by
    cbv
  have halone : ∃ ts, answerAlone .default (.merge Sample.first Sample.second)
      (fun _ => Sample.ambient Sample.first)
      ((inCrowd .default (.merge Sample.first Sample.second) (fun _ => Sample.ambient Sample.first)
        Sample.splitter Sample.chained).2.count .list)
      (inCrowd .default (.merge Sample.first Sample.second) (fun _ => Sample.ambient Sample.first)
        Sample.splitter Sample.chained).2.store = .ok ts := isOk_iff.mp (by cbv)
  obtain ⟨n, hn, hseen, hfound, -, -⟩ := hmissing Sample.third herror (by decide)
  refine ⟨herror, ⟨n, hn, hseen, hfound⟩, hmisreports.mp ⟨_, herror, rfl, ?_⟩⟩
  obtain ⟨ts, hts⟩ := halone
  rw [hts]
  intro h
  cases h

end TaskPipeline
