import TaskPipeline.Proofs.Store.Batch
import TaskPipeline.Store.Interference
import TaskPipeline.Store.Journal

/-!
# Stores with one caller

A repository is `Faithful` to the tasks that it shows if every call answers as the store in memory
would, or fails and leaves the tasks alone.  The store in memory is, whatever the caller's time
(`memory_faithful`), and so is a store whose calls may fail while nobody else writes to it
(`interfered_faithful`).
-/

namespace TaskPipeline

namespace Script

variable {σ α β : Type} {repo : Repository σ} {expired : Bool}

theorem run_call (c : Call) (next : Answer → Script α) (x : σ) :
    (Script.call c next).run repo expired x =
      (next (repo.perform expired c x).1).run repo expired (repo.perform expired c x).2 := rfl

theorem run_bind (s : Script α) (f : α → Script β) (x : σ) :
    (s.bind f).run repo expired x =
      (f (s.run repo expired x).1).run repo expired (s.run repo expired x).2 := by
  induction s generalizing x with
  | done a => rfl
  | call c next ih => exact ih _ _

theorem run_bind' (s : Script α) (f : α → Script β) (x : σ) :
    (s >>= f).run repo expired x =
      (f (s.run repo expired x).1).run repo expired (s.run repo expired x).2 := run_bind s f x

end Script

/-- Every call answers as the store in memory would on the tasks that are shown, or fails and leaves
them alone. -/
def Repository.Faithful {σ : Type} (repo : Repository σ) (view : σ → TaskMap) : Prop :=
  ∀ expired c s,
    (∃ e, (repo.perform expired c s).1 = .error e ∧ view (repo.perform expired c s).2 = view s) ∨
      ∃ ts, (repo.perform expired c s).1 = .ok ts ∧
        memory.perform false c (view s) = (.ok ts, view (repo.perform expired c s).2)

theorem unlessExpired_eq_ok_iff {α : Type} {expired : Bool} {x : Except StoreError α} {a : α} :
    unlessExpired expired x = .ok a ↔ expired = false ∧ x = .ok a := by
  unfold unlessExpired
  cases expired <;> simp

theorem memory_commit_of_check {changes : ChangeSet} {tasks : TaskMap}
    (h : changes.check tasks = .ok ()) :
    memory.perform false (.commit changes) tasks = (.ok changes.written, changes.write tasks) := by
  simp only [memory, unlessExpired, Bool.false_eq_true, if_false,
    ChangeSet.apply_eq_ok_iff.mpr ⟨h, rfl, rfl⟩]

/-- A call whose answer is an error does nothing to a store in memory. -/
theorem memory_error {expired : Bool} {c : Call} {tasks : TaskMap} {e : StoreError}
    (h : (memory.perform expired c tasks).1 = .error e) :
    (memory.perform expired c tasks).2 = tasks := by
  cases c with
  | get id => rfl
  | list => rfl
  | getMany ids => rfl
  | commit changes =>
    simp only [memory] at h ⊢
    split at h
    · cases h
    · rfl

/-- An answer of a store in memory is the answer in time. -/
theorem memory_ok {expired : Bool} {c : Call} {tasks : TaskMap} {ts : List Task}
    (h : (memory.perform expired c tasks).1 = .ok ts) :
    memory.perform false c tasks = (.ok ts, (memory.perform expired c tasks).2) := by
  cases c with
  | get id => exact Prod.ext (unlessExpired_eq_ok_iff.mp h).2 rfl
  | list => exact Prod.ext (unlessExpired_eq_ok_iff.mp h).2 rfl
  | getMany ids => exact Prod.ext (unlessExpired_eq_ok_iff.mp h).2 rfl
  | commit changes =>
    cases expired with
    | true => cases h
    | false => exact Prod.ext h rfl

/-- **The store in memory is faithful**, whether the caller's time is up or not. -/
theorem memory_faithful : memory.Faithful id := by
  intro expired c tasks
  cases h : (memory.perform expired c tasks).1 with
  | error e => exact .inl ⟨e, rfl, memory_error h⟩
  | ok ts => exact .inr ⟨ts, rfl, memory_ok h⟩

/-- **Failing calls do no harm**: a store is faithful if it is so when its calls reach it, and
nobody else writes to it. -/
theorem interfered_faithful {σ : Type} {repo : Repository σ} {view : σ → TaskMap}
    (h : repo.Faithful view) {i : Interference σ} (hi : ∀ k n s, i.intrude k n s = s) :
    (interfered repo i).Faithful fun o => view o.store := by
  intro expired c o
  simp only [interfered, hi]
  cases i.fault c.kind (o.count c.kind + 1) with
  | some e => exact .inl ⟨e, rfl, rfl⟩
  | none => exact h expired c o.store

/-! ### Stores that do not fail -/

/-- Every call in time answers as the store in memory would on the tasks that are shown. -/
def Repository.Reliable {σ : Type} (repo : Repository σ) (view : σ → TaskMap) : Prop :=
  ∀ c s, ((repo.perform false c s).1, view (repo.perform false c s).2) =
    memory.perform false c (view s)

/-- A script runs on a reliable store as it does on the store in memory. -/
theorem Script.run_reliable {σ α : Type} {repo : Repository σ} {view : σ → TaskMap}
    (h : repo.Reliable view) (sc : Script α) (s : σ) :
    ((sc.run repo false s).1, view (sc.run repo false s).2) = sc.run memory false (view s) := by
  induction sc generalizing s with
  | done a => rfl
  | call c next ih =>
    rw [Script.run, Script.run, ← h c s]
    exact ih _ _

theorem interfered_reliable {i : Interference TaskMap} (hi : ∀ k n s, i.intrude k n s = s)
    (hf : ∀ k n, i.fault k n = none) : (interfered memory i).Reliable Observed.store := by
  intro c o
  simp only [interfered, hi, hf]

/-! ### Calls to a faithful store -/

namespace Repository.Faithful

variable {σ : Type} {repo : Repository σ} {view : σ → TaskMap}

theorem list (h : repo.Faithful view) (expired : Bool) (s : σ) :
    (∃ e, (repo.perform expired .list s).1 = .error e ∧
      view (repo.perform expired .list s).2 = view s) ∨
    (repo.perform expired .list s).1 = .ok (view s).toList ∧
      view (repo.perform expired .list s).2 = view s := by
  rcases h expired .list s with herr | ⟨ts, hts, hperform⟩
  · exact .inl herr
  · injection hperform with hok hview
    exact .inr ⟨hts.trans hok.symm, hview.symm⟩

theorem getMany (h : repo.Faithful view) (expired : Bool) (ids : List TaskId) (s : σ) :
    (∃ e, (repo.perform expired (.getMany ids) s).1 = .error e ∧
      view (repo.perform expired (.getMany ids) s).2 = view s) ∨
    ∃ ts, (repo.perform expired (.getMany ids) s).1 = .ok ts ∧ (view s).requireAll ids = .ok ts ∧
      view (repo.perform expired (.getMany ids) s).2 = view s := by
  rcases h expired (.getMany ids) s with herr | ⟨ts, hts, hperform⟩
  · exact .inl herr
  · injection hperform with hok hview
    exact .inr ⟨ts, hts, hok, hview.symm⟩

theorem commit (h : repo.Faithful view) (expired : Bool) (changes : ChangeSet) (s : σ) :
    (∃ e, (repo.perform expired (.commit changes) s).1 = .error e ∧
      view (repo.perform expired (.commit changes) s).2 = view s) ∨
    (repo.perform expired (.commit changes) s).1 = .ok changes.written ∧
      changes.check (view s) = .ok () ∧
      view (repo.perform expired (.commit changes) s).2 = changes.write (view s) := by
  rcases h expired (.commit changes) s with herr | ⟨ts, hts, hperform⟩
  · exact .inl herr
  · simp only [memory] at hperform
    cases happly : changes.apply (view s) with
    | error e => rw [happly] at hperform; cases hperform
    | ok result =>
      rw [happly] at hperform
      obtain ⟨hcheck, hwritten, htasks⟩ := ChangeSet.apply_eq_ok_iff.mp happly
      injection hperform with hok hview
      exact .inr ⟨hts.trans (hok.symm.trans (congrArg _ hwritten)), hcheck, hview.symm.trans htasks⟩

end Repository.Faithful

/-! ### Reading several tasks -/

namespace TaskMap

variable {tasks : TaskMap} {id : TaskId}

theorem require_eq_ok_iff {t : Task} : tasks.require id = .ok t ↔ tasks.get? id = some t := by
  unfold require
  cases tasks.get? id <;> simp

/-- Reading several tasks gives each of them, in the order of their identifiers in the list. -/
theorem requireAll_eq_ok_iff {ids : List TaskId} {ts : List Task} :
    tasks.requireAll ids = .ok ts ↔ ids.map tasks.get? = ts.map some := by
  induction ids generalizing ts with
  | nil =>
    cases ts with
    | nil => simp [requireAll]
    | cons t ts => simp [requireAll]
  | cons id ids ih =>
    unfold requireAll
    cases hreq : tasks.require id with
    | error e =>
      have hnone : ∀ t, tasks.get? id ≠ some t := fun t ht => by
        rw [require_eq_ok_iff.mpr ht] at hreq
        cases hreq
      cases ts with
      | nil => simp
      | cons t ts => simp [hnone]
    | ok t =>
      rw [require_eq_ok_iff] at hreq
      cases hrest : tasks.requireAll ids with
      | error e =>
        cases ts with
        | nil => simp
        | cons u us =>
          have hne : ids.map tasks.get? ≠ us.map some := fun h => by
            rw [ih.mpr h] at hrest
            cases hrest
          simp [hne]
      | ok us =>
        have hus := ih.mp hrest
        cases ts with
        | nil => simp
        | cons v vs =>
          rw [List.map_cons, List.map_cons, hreq, hus]
          simp [List.map_inj_right]

/-- Tasks that were found together stand in the order of the identifiers. -/
theorem map_id_of_map_get? {ids : List TaskId} {ts : List Task}
    (h : ids.map tasks.get? = ts.map some) : ts.map Task.id = ids := by
  induction ids generalizing ts with
  | nil =>
    obtain rfl : ts = [] := List.map_eq_nil_iff.mp h.symm
    rfl
  | cons id ids ih =>
    cases ts with
    | nil => cases h
    | cons t ts =>
      injection h with hid hids
      rw [List.map_cons, id_of_get? hid, ih hids]

theorem get?_of_requireAll {ids : List TaskId} {ts : List Task} (h : tasks.requireAll ids = .ok ts)
    {t : Task} (ht : t ∈ ts) : tasks.get? t.id = some t := by
  have hmem : some t ∈ ids.map tasks.get? := by
    rw [requireAll_eq_ok_iff.mp h]
    exact List.mem_map_of_mem ht
  obtain ⟨id, -, hget⟩ := List.mem_map.mp hmem
  rw [id_of_get? hget, hget]

/-- What is there after reading more was there before, or has been asked for. -/
theorem has_insertAll_of_requireAll {before : TaskMap} {ids : List TaskId} {ts : List Task}
    (h : tasks.requireAll ids = .ok ts) (hid : has (before.insertAll ts) id = true) :
    before.has id = true ∨ id ∈ ids := by
  obtain ⟨t, ht⟩ := has_iff.mp hid
  rcases get?_insertAll before ts id with ⟨u, hu, rfl, -⟩ | ⟨-, hget⟩
  · rw [← map_id_of_map_get? (requireAll_eq_ok_iff.mp h)]
    exact .inr (List.mem_map_of_mem hu)
  · exact .inl (has_iff.mpr ⟨t, hget ▸ ht⟩)

/-- Reading several tasks gives the same as before if they are there as they were. -/
theorem requireAll_of_requireAll {tasks' : TaskMap} {ids : List TaskId} {ts : List Task}
    (h : tasks.requireAll ids = .ok ts) (hsame : ∀ t ∈ ts, tasks'.get? t.id = some t) :
    tasks'.requireAll ids = .ok ts := by
  rw [requireAll_eq_ok_iff] at h ⊢
  induction ids generalizing ts with
  | nil => exact h
  | cons id ids ih =>
    cases ts with
    | nil => cases h
    | cons t ts =>
      injection h with hid hids
      rw [List.map_cons, List.map_cons, ih hids fun u hu => hsame u (List.mem_cons_of_mem _ hu),
        ← id_of_get? hid, hsame t List.mem_cons_self]

/-- **Taking tasks out of a set** gives each of them if no identifier is repeated: a task that was
taken is not there a second time. -/
theorem takeAll_eq_ok_iff {ids : List TaskId} {ts : List Task} :
    Journal.takeAll tasks ids = .ok ts ↔ ids.Nodup ∧ ids.map tasks.get? = ts.map some := by
  -- along the list; the set shrinks as tasks are taken out of it
  induction ids generalizing tasks ts with
  | nil =>
    cases ts with
    | nil => simp [Journal.takeAll]
    | cons t ts => simp [Journal.takeAll]
  | cons id ids ih =>
    unfold Journal.takeAll
    cases hreq : tasks.require id with
    | error e =>
      have hnone : ∀ t, tasks.get? id ≠ some t := fun t ht => by
        rw [require_eq_ok_iff.mpr ht] at hreq
        cases hreq
      cases ts with
      | nil => simp
      | cons t ts => simp [hnone]
    | ok t =>
      rw [require_eq_ok_iff] at hreq
      have hrest : ∀ us : List Task, ids.map (tasks.remove id).get? = us.map some ↔
          id ∉ ids ∧ ids.map tasks.get? = us.map some := by
        intro us
        by_cases hmem : id ∈ ids
        · -- the task is gone when it is asked for again
          refine iff_of_false (fun heq => ?_) fun h => h.1 hmem
          have hget : (tasks.remove id).get? id ∈ us.map some := heq ▸ List.mem_map_of_mem hmem
          rw [get?_remove, if_pos rfl] at hget
          simp at hget
        · have hmap : ids.map (tasks.remove id).get? = ids.map tasks.get? := by
            refine List.map_congr_left fun j hj => ?_
            rw [get?_remove, if_neg fun h : id = j => hmem (h ▸ hj)]
          rw [hmap]
          exact ⟨fun h => ⟨hmem, h⟩, And.right⟩
      cases ts with
      | nil =>
        constructor
        · intro h
          dsimp only at h
          split at h <;> cases h
        · simp
      | cons v vs =>
        rw [List.nodup_cons, List.map_cons, List.map_cons, List.cons.injEq, hreq, Option.some.injEq]
        dsimp only
        cases htake : Journal.takeAll (tasks.remove id) ids with
        | error e =>
          have hno : ¬ (ids.Nodup ∧ ids.map (tasks.remove id).get? = vs.map some) := fun h => by
            rw [ih.mpr h] at htake
            cases htake
          rw [hrest vs] at hno
          refine iff_of_false nofun fun h => hno ⟨h.1.2, h.1.1, h.2.2⟩
        | ok us =>
          obtain ⟨hnd, hus⟩ := ih.mp htake
          obtain ⟨hmem, hus⟩ := (hrest us).mp hus
          rw [hus]
          simp [hmem, hnd, List.map_inj_right]

end TaskMap

end TaskPipeline
