import Mathlib.Data.List.Nodup
import TaskPipeline.Task.Basic

/-!
# Looking up tasks

`TaskMap.get?` says everything about a set of tasks: `get?_insert`, `get?_remove`,
`get?_insertAll` and `get?_removeAll` say what the operations on a set do to it, and two sets that
answer alike are equal (`TaskMap.ext_get?`).  That a task is found under no identifier but its own
is part of the type.
-/

namespace TaskPipeline

namespace Ident

variable {kind : IdentKind}

theorem text_inj {a b : Ident kind} : a.text = b.text ↔ a = b :=
  ⟨Ident.ext, fun h => h ▸ rfl⟩

theorem text_beq (a b : Ident kind) : (a.text == b.text) = decide (a = b) := by
  simp only [beq_eq_decide, text_inj]

end Ident

namespace TaskMap

variable {tasks : TaskMap} {id : TaskId} {t : Task}

theorem get?_eq_some_iff : tasks.get? id = some t ↔ t ∈ tasks.toList ∧ t.id = id := by
  unfold get?
  rw [Catalog.find?_eq_some_iff]
  exact and_congr_right fun _ => Ident.text_inj

theorem id_of_get? (h : tasks.get? id = some t) : t.id = id := (get?_eq_some_iff.mp h).2

theorem mem_of_get? (h : tasks.get? id = some t) : t ∈ tasks.toList := (get?_eq_some_iff.mp h).1

theorem get?_id_of_mem (h : t ∈ tasks.toList) : tasks.get? t.id = some t :=
  get?_eq_some_iff.mpr ⟨h, rfl⟩

theorem has_eq_isSome (tasks : TaskMap) (id : TaskId) : tasks.has id = (tasks.get? id).isSome := rfl

theorem has_iff : tasks.has id = true ↔ ∃ t, tasks.get? id = some t := by
  rw [has_eq_isSome, Option.isSome_iff_exists]

theorem has_of_mem (h : t ∈ tasks.toList) : tasks.has t.id = true :=
  has_iff.mpr ⟨t, get?_id_of_mem h⟩

theorem get?_eq_none_iff : tasks.get? id = none ↔ tasks.has id = false := by
  rw [has_eq_isSome, Option.isSome_eq_false_iff, Option.isNone_iff_eq_none]

theorem ne_of_get? {id' : TaskId} (h : tasks.get? id = none) (h' : tasks.get? id' = some t) :
    id ≠ id' := by
  rintro rfl
  rw [h] at h'
  cases h'

theorem ne_of_has {id' : TaskId} (h : tasks.has id = true) (h' : tasks.has id' = false) :
    id ≠ id' := by
  rintro rfl
  rw [h] at h'
  cases h'

theorem mem_ids_iff : id ∈ tasks.ids ↔ tasks.has id = true := by
  unfold ids
  rw [List.mem_map, has_iff]
  constructor
  · rintro ⟨t, ht, rfl⟩
    exact ⟨t, get?_id_of_mem ht⟩
  · rintro ⟨t, ht⟩
    exact ⟨t, mem_of_get? ht, id_of_get? ht⟩

/-- The identifiers of the tasks of a set are all different. -/
theorem nodup_ids (tasks : TaskMap) : (tasks.toList.map Task.id).Nodup := by
  rw [List.Nodup, List.pairwise_map]
  refine tasks.sorted.imp fun {a b} hab heq => ?_
  have hkey : Keyed.key a = Keyed.key b := congrArg Ident.text heq
  rw [hkey] at hab
  exact String.lt_irrefl _ hab

/-- The tasks found under the identifiers determine the set. -/
theorem ext_get? {a b : TaskMap} (h : ∀ id, a.get? id = b.get? id) : a = b := by
  apply Catalog.ext_find?
  intro k
  ext t
  constructor
  · intro ht
    have hk : t.id.text = k := Catalog.key_of_find? ht
    rw [← hk] at ht ⊢
    exact (h t.id).symm.trans ht
  · intro ht
    have hk : t.id.text = k := Catalog.key_of_find? ht
    rw [← hk] at ht ⊢
    exact (h t.id).trans ht

/-! ### Operations on sets -/

@[simp] theorem get?_empty (id : TaskId) : get? .empty id = none := rfl

theorem get?_insert (tasks : TaskMap) (t : Task) (id : TaskId) :
    get? (tasks.insert t) id = if t.id = id then some t else tasks.get? id := by
  unfold get?
  rw [Catalog.find?_insert]
  simp only [Keyed.key, Ident.text_inj]

theorem get?_insert_self (tasks : TaskMap) (t : Task) : get? (tasks.insert t) t.id = some t := by
  rw [get?_insert, if_pos rfl]

theorem get?_insert_of_ne (h : t.id ≠ id) : get? (tasks.insert t) id = tasks.get? id := by
  rw [get?_insert, if_neg h]

theorem has_insert_of_has (h : tasks.has id = true) : has (tasks.insert t) id = true := by
  rw [has_eq_isSome, get?_insert]
  split
  · rfl
  · exact h

theorem get?_remove (tasks : TaskMap) (j id : TaskId) :
    (tasks.remove j).get? id = if j = id then none else tasks.get? id := by
  unfold get? remove
  rw [Catalog.find?_erase]
  simp only [Ident.text_inj]

theorem has_remove_of_ne {j : TaskId} (h : id ≠ j) : (tasks.remove j).has id = tasks.has id := by
  rw [has_eq_isSome, has_eq_isSome, get?_remove, if_neg (Ne.symm h)]

theorem has_remove_self (tasks : TaskMap) (id : TaskId) : (tasks.remove id).has id = false := by
  rw [has_eq_isSome, get?_remove, if_pos rfl]
  rfl

theorem has_remove_iff {j : TaskId} :
    (tasks.remove j).has id = true ↔ tasks.has id = true ∧ id ≠ j := by
  by_cases h : id = j
  · rw [h, has_remove_self]
    exact iff_of_false Bool.false_ne_true fun hne => hne.2 rfl
  · rw [has_remove_of_ne h]
    exact (and_iff_left h).symm

theorem get?_map (tasks : TaskMap) (f : Task → Task) (h : ∀ t, Keyed.key (f t) = Keyed.key t)
    (id : TaskId) : get? (tasks.map f h) id = (tasks.get? id).map f :=
  Catalog.find?_map tasks f h id.text

theorem insertAll_cons (tasks : TaskMap) (t : Task) (ts : List Task) :
    tasks.insertAll (t :: ts) = (tasks.insert t).insertAll ts := rfl

/-- What is found after tasks are put into a set is one of them or was found before. -/
theorem get?_insertAll (tasks : TaskMap) (ts : List Task) (id : TaskId) :
    (∃ t ∈ ts, t.id = id ∧ get? (tasks.insertAll ts) id = some t) ∨
      (∀ t ∈ ts, t.id ≠ id) ∧ get? (tasks.insertAll ts) id = tasks.get? id := by
  induction ts generalizing tasks with
  | nil => exact .inr ⟨by simp, rfl⟩
  | cons u us ih =>
    rw [insertAll_cons]
    rcases ih (tasks.insert u) with ⟨t, ht, hid, hget⟩ | ⟨hne, hget⟩
    · exact .inl ⟨t, List.mem_cons_of_mem _ ht, hid, hget⟩
    · rw [get?_insert] at hget
      by_cases hu : u.id = id
      · rw [if_pos hu] at hget
        exact .inl ⟨u, List.mem_cons_self, hu, hget⟩
      · rw [if_neg hu] at hget
        refine .inr ⟨fun t ht => ?_, hget⟩
        rcases List.mem_cons.mp ht with rfl | ht
        · exact hu
        · exact hne t ht

theorem get?_insertAll_of_forall_ne {ts : List Task} (h : ∀ t ∈ ts, t.id ≠ id) :
    get? (tasks.insertAll ts) id = tasks.get? id := by
  rcases get?_insertAll tasks ts id with ⟨t, ht, hid, -⟩ | ⟨-, hget⟩
  · exact absurd hid (h t ht)
  · exact hget

theorem has_insertAll_iff {ts : List Task} : has (tasks.insertAll ts) id = true ↔
    tasks.has id = true ∨ id ∈ ts.map Task.id := by
  rcases get?_insertAll tasks ts id with ⟨t, ht, hid, hget⟩ | ⟨hne, hget⟩
  · exact iff_of_true (has_iff.mpr ⟨t, hget⟩) (.inr (List.mem_map.mpr ⟨t, ht, hid⟩))
  · rw [has_eq_isSome, hget, ← has_eq_isSome]
    refine ⟨.inl, fun h => h.resolve_right fun hmem => ?_⟩
    obtain ⟨t, ht, hid⟩ := List.mem_map.mp hmem
    exact hne t ht hid

/-- What is found in a set of given tasks is one of them. -/
theorem mem_of_get?_ofList {ts : List Task} (h : get? (.ofList ts) id = some t) : t ∈ ts := by
  rcases get?_insertAll .empty ts id with ⟨u, hu, -, hget⟩ | ⟨-, hget⟩
  · obtain rfl : u = t := Option.some.inj (hget.symm.trans h)
    exact hu
  · cases hget.symm.trans h

/-- A set is the set of its own tasks. -/
theorem ofList_toList (tasks : TaskMap) : (.ofList tasks.toList : TaskMap) = tasks :=
  Catalog.ofList_toList tasks

theorem get?_removeAll (tasks : TaskMap) (js : List TaskId) (id : TaskId) :
    get? (js.foldl remove tasks) id = if id ∈ js then none else tasks.get? id := by
  induction js generalizing tasks with
  | nil => simp
  | cons j js ih =>
    rw [List.foldl_cons, ih, get?_remove]
    by_cases hmem : id ∈ js
    · simp [hmem]
    · by_cases hj : j = id
      · simp [hj]
      · simp [hmem, hj, Ne.symm hj]

end TaskMap

end TaskPipeline
