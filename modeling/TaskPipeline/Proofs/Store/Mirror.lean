import TaskPipeline.Proofs.Record.Task
import TaskPipeline.Proofs.Store.Journal
import TaskPipeline.Proofs.Store.Repository

/-!
# The file behind the store

A store in a file answers as the store in memory does, call after call (`journal_serve_eq_memory`).
What carries this is that the file is always read as the tasks in memory (`Mirrors`): a batch that both
accept is written to the file, which is then read as the tasks that were written, and a batch that is
refused is written nowhere.

The two agree as long as every coordinate is read back from its digits as it is, and every version
fits its 64-bit word.  A version grows by one with a batch, so it takes as many batches as there are
words to leave them.
-/

namespace TaskPipeline

variable {n m : Nat} {j : Journal Task} {tasks : TaskMap} {changes : ChangeSet} {t : Task}

/-! ### One batch -/

theorem ChangeSet.mem_of_mem_write (h : t ∈ (changes.write tasks).toList) :
    t ∈ changes.written ∨ t ∈ tasks.toList := by
  have hget := TaskMap.get?_id_of_mem h
  unfold write at hget
  rw [TaskMap.get?_removeAll] at hget
  split at hget
  · cases hget
  · rcases TaskMap.get?_insertAll tasks changes.written t.id with ⟨u, hu, -, hfound⟩ | ⟨-, hfound⟩
    · obtain rfl : u = t := Option.some.inj (hfound.symm.trans hget)
      exact .inl hu
    · exact .inr (TaskMap.mem_of_get? (hfound.symm.trans hget))

/-- The coordinates in the tasks of the batch are read back as they are. -/
def ChangeSet.Rereads (changes : ChangeSet) : Prop :=
  ∀ t ∈ changes.creates ++ changes.updates, t.tags.Rereads

/-- The file is read as the tasks, which were written in at most `n` batches. -/
structure Mirrors (n : Nat) (j : Journal Task) (tasks : TaskMap) : Prop where
  free : j.obstacles = {}
  read : j.read = .ok tasks
  rereads : ∀ t ∈ tasks.toList, t.tags.Rereads
  version_le : ∀ t ∈ tasks.toList, t.version ≤ n

namespace Mirrors

theorem mono (h : Mirrors n j tasks) (hnm : n ≤ m) : Mirrors m j tasks :=
  ⟨h.free, h.read, h.rereads, fun t ht => Nat.le_trans (h.version_le t ht) hnm⟩

theorem holds (h : Mirrors n j tasks) : j.Holds tasks := ⟨h.read, by rw [h.free]⟩

/-- Opening the lock file changes nothing. -/
theorem entered (h : Mirrors n j tasks) : Mirrors n j.entered tasks :=
  ⟨h.free, h.read, h.rereads, h.version_le⟩

/-- What an accepted batch writes can be read again. -/
theorem recordable_write (h : Mirrors n j tasks) (hcheck : changes.check tasks = .ok ())
    (hrereads : changes.Rereads) : ∀ t ∈ (changes.write tasks).toList,
      t.tags.Rereads ∧ t.version ≤ n + 1 := by
  have hfits := ChangeSet.Fits.of_check hcheck
  intro t ht
  rcases ChangeSet.mem_of_mem_write ht with hwritten | hold
  · rcases List.mem_append.mp hwritten with hnew | hrevised
    · obtain ⟨u, hu, rfl⟩ := List.mem_map.mp hnew
      exact ⟨hrereads u (List.mem_append_left _ hu), Nat.le_add_left 1 n⟩
    · -- a task is revised in the version that is stored
      obtain ⟨u, hu, rfl⟩ := List.mem_map.mp hrevised
      obtain ⟨s, hs, hversion⟩ := hfits.updates u hu
      have hle := h.version_le s (TaskMap.mem_of_get? hs)
      rw [hversion] at hle
      exact ⟨hrereads u (List.mem_append_right _ hu), Nat.succ_le_succ hle⟩
  · exact ⟨h.rereads t hold, Nat.le_succ_of_le (h.version_le t hold)⟩

/-- **A batch is answered alike**, and the file mirrors the tasks afterwards. -/
theorem commit (h : Mirrors n j tasks) (hn : n + 1 < Json.word64) (hrereads : changes.Rereads) :
    (journal.perform false (.commit changes) j).1 = (memory.perform false (.commit changes) tasks).1 ∧
      Mirrors (n + 1) (journal.perform false (.commit changes) j).2
        (memory.perform false (.commit changes) tasks).2 := by
  cases hcheck : changes.check tasks with
  | error e =>
    -- nothing is written
    have happly : changes.apply tasks = .error e := by simp [ChangeSet.apply, hcheck]
    have hmemory : memory.perform false (.commit changes) tasks = (.error e, tasks) := by
      simp [memory, unlessExpired, happly]
    rw [h.holds.commit_of_error happly, hmemory]
    exact ⟨rfl, h.entered.mono (Nat.le_succ n)⟩
  | ok u =>
    have happly : changes.apply tasks = .ok (changes.written, changes.write tasks) :=
      ChangeSet.apply_eq_ok_iff.mpr ⟨hcheck, rfl, rfl⟩
    rw [h.holds.commit_of_ok happly, memory_commit_of_check hcheck]
    have hwritten := h.recordable_write hcheck hrereads
    refine ⟨rfl, h.free, ?_, fun t ht => (hwritten t ht).1, fun t ht => (hwritten t ht).2⟩
    refine Journal.read_render h.free rfl fun t ht => ?_
    obtain ⟨htags, hversion⟩ := hwritten t ht
    exact Task.denotes_encode ⟨Nat.lt_of_le_of_lt hversion hn, htags⟩

theorem get (h : Mirrors n j tasks) (id : TaskId) :
    (journal.perform false (.get id) j).1 = (memory.perform false (.get id) tasks).1 ∧
      Mirrors n (journal.perform false (.get id) j).2 (memory.perform false (.get id) tasks).2 := by
  rw [h.holds.get]
  exact ⟨rfl, h.entered⟩

theorem list (h : Mirrors n j tasks) :
    (journal.perform false .list j).1 = (memory.perform false .list tasks).1 ∧
      Mirrors n (journal.perform false .list j).2 (memory.perform false .list tasks).2 := by
  rw [h.holds.list]
  exact ⟨rfl, h.entered⟩

end Mirrors

/-! ### Scripts -/

/-- The script reads single tasks or all of them, and commits at most so many batches, whose
coordinates are read back as they are. -/
inductive Script.Plain {α : Type} : Nat → Script α → Prop
  /-- It ends. -/
  | done {n : Nat} (a : α) : Plain n (.done a)
  /-- It reads a task. -/
  | get {n : Nat} {id : TaskId} {next : Answer → Script α} (h : ∀ answer, Plain n (next answer)) :
    Plain n (.call (.get id) next)
  /-- It reads all tasks. -/
  | list {n : Nat} {next : Answer → Script α} (h : ∀ answer, Plain n (next answer)) :
    Plain n (.call .list next)
  /-- It commits a batch. -/
  | commit {n : Nat} {changes : ChangeSet} {next : Answer → Script α} (hrereads : changes.Rereads)
    (h : ∀ answer, Plain n (next answer)) : Plain (n + 1) (.call (.commit changes) next)

namespace Script

variable {α β : Type}

theorem Plain.mono {s : Script α} (hs : s.Plain n) (hnm : n ≤ m) : s.Plain m := by
  induction hs generalizing m with
  | done a => exact .done a
  | get _ ih => exact .get fun answer => ih answer hnm
  | list _ ih => exact .list fun answer => ih answer hnm
  | @commit k _ _ hrereads _ ih =>
    obtain ⟨m, rfl⟩ : ∃ l, m = l + 1 := ⟨m - 1, by omega⟩
    exact .commit hrereads fun answer => ih answer (by omega)

theorem Plain.bind {s : Script α} {f : α → Script β} (hs : s.Plain n) (hf : ∀ a, (f a).Plain m) :
    (s >>= f).Plain (m + n) := by
  induction hs with
  | done a => exact (hf a).mono (Nat.le_add_right m _)
  | get _ ih => exact .get ih
  | list _ ih => exact .list ih
  | commit hrereads _ ih => exact .commit hrereads ih

theorem plain_getTask (n : Nat) (id : TaskId) : (getTask id).Plain n := by
  refine .get fun answer => ?_
  rcases answer with e | (_ | ⟨t, ts⟩) <;> exact .done _

theorem plain_listWhere (n : Nat) (p : Task → Bool) : (listWhere p).Plain n := by
  refine .list fun answer => ?_
  cases answer <;> exact .done _

theorem plain_commitOne (id : TaskId) (h : changes.Rereads) : (commitOne id changes).Plain 1 := by
  refine .commit h fun answer => ?_
  cases answer with
  | error e => exact .done _
  | ok ts =>
    rw [Script.bind]
    dsimp only
    split <;> exact .done _

theorem plain_deleteTask (id : TaskId) : (deleteTask id).Plain 1 := by
  refine (plain_getTask 0 id).bind fun answer => ?_
  cases answer with
  | error e => exact .done _
  | ok t =>
    have hnone : ChangeSet.Rereads { ChangeSet.empty with deletes := [(id, t.version)] } := by
      simp [ChangeSet.Rereads, ChangeSet.empty]
    refine .commit hnone fun answer => ?_
    cases answer <;> exact .done _

end Script

/-- **A script runs alike** over a file that mirrors the tasks in memory. -/
theorem Mirrors.run {α : Type} {s : Script α} (hs : s.Plain m) (h : Mirrors n j tasks)
    (hn : n + m < Json.word64) :
    (s.run journal false j).1 = (s.run memory false tasks).1 ∧
      Mirrors (n + m) (s.run journal false j).2 (s.run memory false tasks).2 := by
  -- call by call: both stores give the same answer, so the script goes on alike
  induction hs generalizing n j tasks with
  | done a => exact ⟨rfl, h.mono (Nat.le_add_right n _)⟩
  | get _ ih =>
    obtain ⟨hanswer, hafter⟩ := h.get _
    rw [Script.run_call, Script.run_call, hanswer]
    exact ih _ hafter hn
  | list _ ih =>
    obtain ⟨hanswer, hafter⟩ := h.list
    rw [Script.run_call, Script.run_call, hanswer]
    exact ih _ hafter hn
  | @commit k changes next hrereads _ ih =>
    obtain ⟨hanswer, hafter⟩ := h.commit (by omega) hrereads
    have hsum : n + (k + 1) = n + 1 + k := by omega
    rw [Script.run_call, Script.run_call, hanswer, hsum]
    exact ih _ hafter (hsum ▸ hn)

/-! ### Refusals -/

/-- A script that fails has changed nothing in the file. -/
def Script.KeepsOnError {α : Type} (s : Script (Except StoreError α)) : Prop := ∀ (j : Journal Task) e,
  (s.run journal false j).1 = .error e → (s.run journal false j).2.contents = j.contents

/-- A batch is refused and changes nothing in the file, or it is written. -/
theorem journal_commit (changes : ChangeSet) (j : Journal Task) :
    (∃ e, (journal.perform false (.commit changes) j).1 = .error e ∧
      (journal.perform false (.commit changes) j).2.contents = j.contents) ∨
      (journal.perform false (.commit changes) j).1 = .ok changes.written := by
  simp only [journal]
  split
  · next e _ => exact .inl ⟨e, rfl, rfl⟩
  · next written after happlied =>
    have hwritten : written = changes.written := by
      cases hread : (j.entered.readUnlessExpired false : Except StoreError TaskMap) with
      | error e => simp [hread, bind, Except.bind] at happlied
      | ok tasks =>
        simp only [Bool.false_eq_true, if_false, hread, bind, Except.bind] at happlied
        exact (ChangeSet.apply_eq_ok_iff.mp happlied).2.1
    split
    · exact .inr (congrArg _ hwritten)
    · next e _ => exact .inl ⟨e, rfl, rfl⟩

namespace Script

/-- A script without batches changes nothing in the file. -/
theorem Plain.contents {α : Type} {s : Script α} (hs : s.Plain 0) :
    (s.run journal false j).2.contents = j.contents := by
  generalize hzero : 0 = k at hs
  induction hs generalizing j with
  | done a => rfl
  | get _ ih => exact ih _ hzero
  | list _ ih => exact ih _ hzero
  | commit => cases hzero

theorem keepsOnError_commit (changes : ChangeSet) : (ask (.commit changes)).KeepsOnError := by
  intro j e he
  rcases journal_commit changes j with ⟨-, -, hcontents⟩ | hok
  · exact hcontents
  · cases hok.symm.trans he

/-- A batch that writes a task gives one. -/
theorem keepsOnError_commitOne (id : TaskId) (hne : changes.written ≠ []) :
    (commitOne id changes).KeepsOnError := by
  intro j e he
  unfold commitOne at he ⊢
  rw [run_bind', ask, run_call, run] at he ⊢
  rcases journal_commit changes j with ⟨e', he', hcontents⟩ | hok
  · rw [he']
    exact hcontents
  · obtain ⟨t, ht⟩ := Option.isSome_iff_exists.mp (List.getLast?_isSome.mpr hne)
    rw [hok] at he
    dsimp only at he
    rw [ht] at he
    cases he

theorem keepsOnError_deleteTask (id : TaskId) : (deleteTask id).KeepsOnError := by
  intro j e he
  have hget := @Plain.contents j _ _ (plain_getTask 0 id)
  unfold deleteTask at he ⊢
  rw [run_bind'] at he ⊢
  generalize (getTask id).run journal false j = read at he hget ⊢
  obtain ⟨answer, j'⟩ := read
  cases answer with
  | error e => exact hget
  | ok t =>
    dsimp only at he hget ⊢
    rw [run_bind', ask, run_call, run] at he ⊢
    rcases journal_commit { ChangeSet.empty with deletes := [(id, t.version)] } j' with
      ⟨e', he', hcontents⟩ | hok
    · rw [he']
      exact hcontents.trans hget
    · rw [hok] at he
      cases he

end Script

/-! ### Requests -/

/-- A request to a store of tasks. -/
inductive StoreRequest where
  /-- Reads one task. -/
  | get (id : TaskId)
  /-- Reads all tasks. -/
  | list
  /-- Reads the tasks in a stage. -/
  | ofStage (stage : Stage)
  /-- Reads the tasks of a user. -/
  | ofUser (user : UserId)
  /-- Counts the tasks in a stage. -/
  | countStage (stage : Stage)
  /-- Writes a batch. -/
  | commit (changes : ChangeSet)
  /-- Creates a task. -/
  | create (t : Task)
  /-- Writes a task anew. -/
  | update (t : Task)
  /-- Deletes a task, in whichever version it is. -/
  | delete (id : TaskId)

/-- What a store replies. -/
inductive StoreReply where
  /-- The task that was read or written. -/
  | task (answer : Except StoreError Task)
  /-- The tasks that were read or written. -/
  | tasks (answer : Except StoreError (List Task))
  /-- The number of tasks. -/
  | count (answer : Except StoreError Nat)
  /-- Nothing but whether it was done. -/
  | done (answer : Except StoreError Unit)
deriving DecidableEq

/-- Whether the request was refused. -/
def StoreReply.isRefusal : StoreReply → Bool
  | .task answer => !answer.isOk
  | .tasks answer => !answer.isOk
  | .count answer => !answer.isOk
  | .done answer => !answer.isOk

namespace StoreRequest

/-- The calls that answer the request. -/
def script : StoreRequest → Script StoreReply
  | get id => do return .task (← Script.getTask id)
  | list => do return .tasks (← Script.ask .list)
  | ofStage stage => do return .tasks (← Script.listWhere (·.stage = stage))
  | ofUser user => do return .tasks (← Script.listWhere (·.owner = user))
  | countStage stage => do
    return .count ((← Script.listWhere (·.stage = stage)).map List.length)
  | commit changes => do return .tasks (← Script.ask (.commit changes))
  | create t => do return .task (← Script.createTask t)
  | update t => do return .task (← Script.updateTask t)
  | delete id => do return .done (← Script.deleteTask id)

/-- The tasks that the request brings. -/
def given : StoreRequest → List Task
  | commit changes => changes.creates ++ changes.updates
  | create t => [t]
  | update t => [t]
  | _ => []

theorem plain_script (r : StoreRequest) (h : ∀ t ∈ r.given, t.tags.Rereads) : r.script.Plain 1 := by
  cases r with
  | get id => exact (Script.plain_getTask 1 id).bind fun answer => .done _
  | list => exact .list fun answer => .done _
  | ofStage stage => exact (Script.plain_listWhere 1 _).bind fun answer => .done _
  | ofUser user => exact (Script.plain_listWhere 1 _).bind fun answer => .done _
  | countStage stage => exact (Script.plain_listWhere 1 _).bind fun answer => .done _
  | commit changes => exact .commit h fun answer => .done _
  | create t =>
    have hnew : ChangeSet.Rereads { ChangeSet.empty with creates := [t] } := by
      simpa [ChangeSet.Rereads, ChangeSet.empty, given] using h
    exact (Script.plain_commitOne t.id hnew).bind fun answer => .done _
  | update t =>
    have hrevised : ChangeSet.Rereads { ChangeSet.empty with updates := [t] } := by
      simpa [ChangeSet.Rereads, ChangeSet.empty, given] using h
    exact (Script.plain_commitOne t.id hrevised).bind fun answer => .done _
  | delete id => exact (Script.plain_deleteTask id).bind fun answer => .done _

/-- What a script fails with is the reply, and nothing has changed in the file. -/
theorem contents_of_reply {α : Type} {s : Script (Except StoreError α)} (hs : s.KeepsOnError)
    {reply : Except StoreError α → StoreReply} (hreply : ∀ x, (reply x).isRefusal = !x.isOk)
    (h : ((do return reply (← s) : Script StoreReply).run journal false j).1.isRefusal = true) :
    ((do return reply (← s) : Script StoreReply).run journal false j).2.contents = j.contents := by
  rw [Script.run_bind'] at h ⊢
  have hfails := (hreply (s.run journal false j).1).symm.trans h
  cases hanswer : (s.run journal false j).1 with
  | error e => exact hs j e hanswer
  | ok a =>
    rw [hanswer] at hfails
    cases hfails

/-- A request that is refused changes nothing in the file. -/
theorem contents_of_refusal (r : StoreRequest) (j : Journal Task)
    (h : (r.script.run journal false j).1.isRefusal = true) :
    (r.script.run journal false j).2.contents = j.contents := by
  cases r with
  | get id => exact ((Script.plain_getTask 0 id).bind fun answer => .done _).contents
  | list => exact Script.Plain.contents (.list fun answer => .done _)
  | ofStage stage => exact ((Script.plain_listWhere 0 _).bind fun answer => .done _).contents
  | ofUser user => exact ((Script.plain_listWhere 0 _).bind fun answer => .done _).contents
  | countStage stage => exact ((Script.plain_listWhere 0 _).bind fun answer => .done _).contents
  | commit changes =>
    have hkeeps := Script.keepsOnError_commit changes
    exact contents_of_reply hkeeps (fun _ => rfl) h
  | create t =>
    have hne : ChangeSet.written { ChangeSet.empty with creates := [t] } ≠ [] := List.cons_ne_nil _ _
    have hkeeps := Script.keepsOnError_commitOne t.id hne
    exact contents_of_reply hkeeps (fun _ => rfl) h
  | update t =>
    have hne : ChangeSet.written { ChangeSet.empty with updates := [t] } ≠ [] := List.cons_ne_nil _ _
    have hkeeps := Script.keepsOnError_commitOne t.id hne
    exact contents_of_reply hkeeps (fun _ => rfl) h
  | delete id =>
    have hkeeps := Script.keepsOnError_deleteTask id
    exact contents_of_reply hkeeps (fun _ => rfl) h

end StoreRequest

/-- What a store replies to requests, one after the other, and its state afterwards. -/
def Repository.serve {σ : Type} (repo : Repository σ) : List StoreRequest → σ → List StoreReply × σ
  | [], s => ([], s)
  | r :: rs, s =>
    let (reply, s) := r.script.run repo false s
    let (replies, s) := serve repo rs s
    (reply :: replies, s)

theorem Mirrors.serve {requests : List StoreRequest}
    (hrereads : ∀ r ∈ requests, ∀ t ∈ r.given, t.tags.Rereads) (h : Mirrors n j tasks)
    (hn : n + requests.length < Json.word64) :
    (journal.serve requests j).1 = (memory.serve requests tasks).1 ∧
      Mirrors (n + requests.length) (journal.serve requests j).2 (memory.serve requests tasks).2 := by
  induction requests generalizing n j tasks with
  | nil => exact ⟨rfl, h⟩
  | cons r requests ih =>
    rw [List.length_cons] at hn
    have hsum : n + (requests.length + 1) = n + 1 + requests.length := by omega
    have hplain := r.plain_script (hrereads r List.mem_cons_self)
    obtain ⟨hreply, hafter⟩ := h.run hplain (by omega)
    obtain ⟨hreplies, hend⟩ :=
      ih (fun r hr => hrereads r (List.mem_cons_of_mem _ hr)) hafter (hsum ▸ hn)
    rw [List.length_cons, hsum]
    refine ⟨?_, hend⟩
    show (_ :: _) = (_ :: _)
    rw [hreply, hreplies]

/-- **The store in a file answers as the store in memory**, and its file is read as the tasks in memory
afterwards.  A request that is refused leaves the file as it is, whatever is in it.

A request raises a version by one, so no version outgrows its 64-bit word before there were as many
requests. -/
theorem journal_serve_eq_memory (path : String) (requests : List StoreRequest)
    (hrereads : ∀ r ∈ requests, ∀ t ∈ r.given, t.tags.Rereads)
    (hversions : requests.length < Json.word64) :
    (journal.serve requests { path := path, contents := none }).1 =
        (memory.serve requests .empty).1 ∧
      (journal.serve requests { path := path, contents := none }).2.read =
        .ok (memory.serve requests .empty).2 ∧
      ∀ (r : StoreRequest) (j : Journal Task),
        (r.script.run journal false j).1.isRefusal = true →
          (r.script.run journal false j).2.contents = j.contents := by
  have hstart : Mirrors 0 { path := path, contents := none } .empty :=
    ⟨rfl, rfl, fun t ht => absurd ht List.not_mem_nil, fun t ht => absurd ht List.not_mem_nil⟩
  obtain ⟨hreplies, hend⟩ := hstart.serve hrereads (by omega)
  exact ⟨hreplies, hend.read, StoreRequest.contents_of_refusal⟩

namespace Sample

/-- A task over two lines that carries a place. -/
def placed : Task :=
  { Task.create ⟨"note", by decide, by decide⟩ "one\n\"two\"" "" ⟨"author", by decide, by decide⟩
      (.midnight .epoch) with
    tags := .ofList [⟨"at",
      .location ⟨.finite ⟨false, Nat.pow 2 52, -53, by decide⟩, .finite (.zero true), "\t"⟩⟩] }

/-- The task is created, created once more, updated in a version that is not stored, read and
deleted. -/
def requests : List StoreRequest :=
  [.create placed, .create placed, .update placed, .get placed.id, .delete placed.id, .list]

end Sample

/-- A task with a line feed in its name and a place survives the file, and the refused requests are
refused there for the same reasons. -/
theorem journal_serve_requests :
    (∀ r ∈ Sample.requests, ∀ t ∈ r.given, t.tags.Rereads) ∧
      (journal.serve Sample.requests ⟨"tasks.jsonl", none, {}, false⟩).1 =
        [.task (.ok { Sample.placed with version := 1 }),
          .task (.error (.alreadyExists Sample.placed.id)),
          .task (.error (.conflict Sample.placed.id 0 1)),
          .task (.ok { Sample.placed with version := 1 }),
          .done (.ok ()),
          .tasks (.ok [])] := by
  have hrereads : ∀ r ∈ Sample.requests, ∀ t ∈ r.given, t.tags.Rereads := by
    have honly : ∀ r ∈ Sample.requests, ∀ t ∈ r.given, t = Sample.placed := by
      simp [Sample.requests, StoreRequest.given]
    intro r hr t ht tag htag
    rw [honly r hr t ht] at htag
    obtain rfl := List.mem_singleton.mp htag
    exact ⟨by decide +kernel, by decide +kernel⟩
  obtain ⟨hreplies, -, -⟩ := journal_serve_eq_memory "tasks.jsonl" Sample.requests hrereads (by decide)
  exact ⟨hrereads, hreplies.trans rfl⟩

end TaskPipeline
