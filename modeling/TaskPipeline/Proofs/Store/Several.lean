import TaskPipeline.Proofs.Store.Repository

/-!
# Reading several tasks from a file

The store in memory looks every task of a list up by itself (`TaskMap.requireAll`).  The store in a file
takes them out of the records that it has read (`Journal.takeAll`), so a task that is asked for a second
time is not there any more.  Both stop at the first identifier under which nothing is stored; the two
agree if no identifier is repeated up to there (`takeAll_eq_requireAll`), and otherwise the file
reports a task missing that it holds (`takeAll_of_repeats`).
-/

namespace TaskPipeline

namespace TaskMap

variable {tasks : TaskMap} {id q : TaskId} {ids : List TaskId}

/-- A task of the set is listed twice before anything that is missing. -/
def Repeats (tasks : TaskMap) (ids : List TaskId) : Prop := ¬ (ids.takeWhile tasks.has).Nodup

instance (tasks : TaskMap) (ids : List TaskId) : Decidable (tasks.Repeats ids) :=
  inferInstanceAs (Decidable (¬ _))

theorem require_of_has (h : tasks.has id = true) : ∃ t, tasks.require id = .ok t := by
  obtain ⟨t, ht⟩ := has_iff.mp h
  exact ⟨t, require_eq_ok_iff.mpr ht⟩

theorem require_of_missing (h : tasks.has id = false) :
    tasks.require id = .error (.taskNotFound id) := by
  unfold require
  rw [get?_eq_none_iff.mpr h]

theorem requireAll_of_missing (h : tasks.has id = false) (ids : List TaskId) :
    tasks.requireAll (id :: ids) = .error (.taskNotFound id) := by
  rw [requireAll, require_of_missing h]

theorem takeAll_of_missing (h : tasks.has id = false) (ids : List TaskId) :
    Journal.takeAll tasks (id :: ids) = .error (.taskNotFound id) := by
  rw [Journal.takeAll, require_of_missing h]

/-- A task of the set is given by both, and they go on with the rest of the list. -/
theorem cons_of_has (h : tasks.has id = true) (ids : List TaskId) : ∃ t,
    Journal.takeAll tasks (id :: ids) = (Journal.takeAll (tasks.remove id) ids).map (t :: ·) ∧
      tasks.requireAll (id :: ids) = (tasks.requireAll ids).map (t :: ·) := by
  obtain ⟨t, ht⟩ := require_of_has h
  refine ⟨t, ?_, ?_⟩
  · rw [Journal.takeAll, ht]
    cases Journal.takeAll (tasks.remove id) ids <;> rfl
  · rw [requireAll, ht]
    cases tasks.requireAll ids <;> rfl

theorem takeWhile_of_missing (h : tasks.has id = false) (ids : List TaskId) :
    (id :: ids).takeWhile tasks.has = [] :=
  List.takeWhile_cons_of_neg (by simp [h])

/-- Looking tasks up fails with the first one that is missing. -/
theorem missing_of_requireAll {e : StoreError} (h : tasks.requireAll ids = .error e) :
    ∃ q ∈ ids, tasks.has q = false ∧ e = .taskNotFound q := by
  induction ids with
  | nil => cases h
  | cons id ids ih =>
    cases hid : tasks.has id with
    | false =>
      rw [requireAll_of_missing hid] at h
      exact ⟨id, List.mem_cons_self, hid, (Except.error.inj h).symm⟩
    | true =>
      obtain ⟨t, -, hcons⟩ := cons_of_has hid ids
      rw [hcons] at h
      cases hrest : tasks.requireAll ids with
      | ok ts =>
        rw [hrest] at h
        cases h
      | error e' =>
        rw [hrest] at h
        obtain rfl : e' = e := Except.error.inj h
        obtain ⟨q, hq, hmissing, heq⟩ := ih hrest
        exact ⟨q, List.mem_cons_of_mem _ hq, hmissing, heq⟩

/-! ### A task that was taken out -/

theorem require_remove_of_ne (h : q ≠ id) : (tasks.remove id).require q = tasks.require q := by
  unfold require
  rw [get?_remove, if_neg (Ne.symm h)]

/-- A task that is not listed before anything that is missing may be taken out beforehand. -/
theorem remove_of_not_mem (h : id ∉ ids.takeWhile tasks.has) :
    ids.takeWhile (tasks.remove id).has = ids.takeWhile tasks.has ∧
      (tasks.remove id).requireAll ids = tasks.requireAll ids := by
  induction ids with
  | nil => exact ⟨rfl, rfl⟩
  | cons j ids ih =>
    cases hj : tasks.has j with
    | false =>
      have hj' : (tasks.remove id).has j = false := by
        rw [Bool.eq_false_iff]
        intro hhas
        rw [(has_remove_iff.mp hhas).1] at hj
        cases hj
      rw [takeWhile_of_missing hj, takeWhile_of_missing hj', requireAll_of_missing hj,
        requireAll_of_missing hj']
      exact ⟨rfl, rfl⟩
    | true =>
      rw [List.takeWhile_cons_of_pos hj, List.mem_cons, not_or] at h
      have hne : j ≠ id := Ne.symm h.1
      obtain ⟨htake, hrequire⟩ := ih h.2
      refine ⟨?_, ?_⟩
      · rw [List.takeWhile_cons_of_pos hj,
          List.takeWhile_cons_of_pos ((has_remove_of_ne hne).trans hj), htake]
      · rw [requireAll, requireAll, require_remove_of_ne hne, hrequire]

/-- A task that is listed before anything that is missing is missed if it was taken out. -/
theorem requireAll_remove_of_mem (h : id ∈ ids.takeWhile tasks.has) :
    (tasks.remove id).requireAll ids = .error (.taskNotFound id) := by
  induction ids with
  | nil => cases h
  | cons j ids ih =>
    by_cases hne : j = id
    · rw [hne]
      exact requireAll_of_missing (has_remove_self tasks id) ids
    · cases hj : tasks.has j with
      | false =>
        rw [takeWhile_of_missing hj] at h
        cases h
      | true =>
        rw [List.takeWhile_cons_of_pos hj] at h
        have hrest := ih ((List.mem_cons.mp h).resolve_left (Ne.symm hne))
        obtain ⟨t, ht⟩ := require_of_has hj
        rw [requireAll, require_remove_of_ne hne, ht, hrest]

/-! ### Taking tasks out one after the other -/

/-- **Without a repetition** taking tasks out is looking them up. -/
theorem takeAll_eq_requireAll (h : ¬ tasks.Repeats ids) :
    Journal.takeAll tasks ids = tasks.requireAll ids := by
  -- along the list; the set shrinks by tasks that are not listed any more
  induction ids generalizing tasks with
  | nil => rfl
  | cons id ids ih =>
    cases hid : tasks.has id with
    | false => rw [takeAll_of_missing hid, requireAll_of_missing hid]
    | true =>
      have hnd := not_not.mp h
      rw [List.takeWhile_cons_of_pos hid, List.nodup_cons] at hnd
      obtain ⟨htake, hrequire⟩ := remove_of_not_mem hnd.1
      have hrest : ¬ (tasks.remove id).Repeats ids := not_not.mpr (by rw [htake]; exact hnd.2)
      obtain ⟨t, hleft, hright⟩ := cons_of_has hid ids
      rw [hleft, hright, ih hrest, hrequire]

/-- **With a repetition** a task of the set is missed. -/
theorem takeAll_of_repeats (h : tasks.Repeats ids) :
    ∃ q ∈ ids, tasks.has q = true ∧ Journal.takeAll tasks ids = .error (.taskNotFound q) := by
  induction ids generalizing tasks with
  | nil => exact absurd List.nodup_nil h
  | cons id ids ih =>
    cases hid : tasks.has id with
    | false =>
      unfold Repeats at h
      rw [takeWhile_of_missing hid] at h
      exact absurd List.nodup_nil h
    | true =>
      obtain ⟨t, htake, -⟩ := cons_of_has hid ids
      rw [htake]
      by_cases hrest : (tasks.remove id).Repeats ids
      · obtain ⟨q, hq, hhas, herror⟩ := ih hrest
        rw [herror]
        exact ⟨q, List.mem_cons_of_mem _ hq, (has_remove_iff.mp hhas).1, rfl⟩
      · -- the repetition is one of the task at the front
        have hmem : id ∈ ids.takeWhile tasks.has := by
          by_contra hmem
          unfold Repeats at h hrest
          rw [(remove_of_not_mem hmem).1] at hrest
          rw [List.takeWhile_cons_of_pos hid, List.nodup_cons] at h
          exact h ⟨hmem, not_not.mp hrest⟩
        rw [takeAll_eq_requireAll hrest, requireAll_remove_of_mem hmem]
        exact ⟨id, List.mem_cons_self, hid, rfl⟩

end TaskMap

end TaskPipeline
