import TaskPipeline.Proofs.Task.Same
import TaskPipeline.Store.ChangeSet

/-!
# What a batch does

A batch that passes the check fits the store: what it creates is new, and what it updates, deletes
or has read stands there in the version that it expects (`ChangeSet.Fits.of_check`).  For the
batch that leads from one set of tasks to another, `ChangeSet.get?_write_between` says what is
stored afterwards under every identifier, and `ChangeSet.get?_insertAll_written` does so for the
copy of the writer.

If the store still holds what was read, it holds the wanted tasks afterwards as `ChangeSet.stored` says
(`ChangeSet.get?_write_of_upToDate`), and the batch passes the check
(`ChangeSet.check_between_eq_ok`).  A task that is the same as it was read is not written, so the store
keeps the one that was read; the two may differ in the signs of zero coordinates.
-/

namespace TaskPipeline

/-- Every task can be written so many times more, its version being a 64-bit word.  Writing counts on
without this bound, so what is written is what the program writes as long as there is room. -/
def TaskMap.HasRoom (tasks : TaskMap) (n : Nat) : Prop :=
  ∀ t ∈ tasks.toList, t.version + n < UInt64.size

instance (tasks : TaskMap) (n : Nat) : Decidable (tasks.HasRoom n) :=
  inferInstanceAs (Decidable (∀ _ ∈ _, _))

namespace ChangeSet

variable {c : ChangeSet} {store tasks before after : TaskMap} {created : List TaskId} {whole : Bool}
  {id : TaskId}

/-! ### Passing the check -/

/-- What a store fulfils that accepts a batch. -/
structure Fits (c : ChangeSet) (store : TaskMap) : Prop where
  /-- What is created does not exist. -/
  creates : ∀ t ∈ c.creates, store.get? t.id = none
  /-- What is updated exists in the expected version. -/
  updates : ∀ t ∈ c.updates, ∃ s, store.get? t.id = some s ∧ s.version = t.version
  /-- What is deleted exists in the expected version. -/
  deletes : ∀ p ∈ c.deletes, ∃ s, store.get? p.1 = some s ∧ s.version = p.2
  /-- What was read has the expected version. -/
  reads : ∀ p ∈ c.reads, versionOf store p.1 = p.2
  /-- A batch over the whole store knows every task. -/
  whole : c.wholeStore = true → ∀ id, store.has id = true → id ∈ c.reads.map (·.1) ∨
    id ∈ c.creates.map Task.id ∨ id ∈ c.updates.map Task.id ∨ id ∈ c.deletes.map (·.1)

theorem checkCreates_ok {seen seen' : List TaskId} {ts : List Task}
    (h : checkCreates tasks seen ts = .ok seen') :
    (∀ t ∈ ts, tasks.get? t.id = none) ∧ ∀ id ∈ seen', id ∈ seen ∨ id ∈ ts.map Task.id := by
  induction ts generalizing seen with
  | nil =>
    cases h
    exact ⟨by simp, fun id hid => .inl hid⟩
  | cons t rest ih =>
    unfold checkCreates at h
    split at h
    · cases h
    · next hnew =>
      split at h
      · cases h
      · obtain ⟨hnone, hseen⟩ := ih h
        constructor
        · intro u hu
          rcases List.mem_cons.mp hu with rfl | hu
          · exact TaskMap.get?_eq_none_iff.mpr (Bool.eq_false_iff.mpr hnew)
          · exact hnone u hu
        · intro id hid
          rw [List.map_cons, List.mem_cons]
          rcases hseen id hid with hid | hid
          · exact (List.mem_cons.mp hid).elim (fun h => .inr (.inl h)) .inl
          · exact .inr (.inr hid)

theorem checkWrites_ok {seen seen' : List TaskId} {ps : List (TaskId × Nat)}
    (h : checkWrites tasks seen ps = .ok seen') :
    (∀ p ∈ ps, ∃ s, tasks.get? p.1 = some s ∧ s.version = p.2) ∧
      ∀ id ∈ seen', id ∈ seen ∨ id ∈ ps.map (·.1) := by
  induction ps generalizing seen with
  | nil =>
    cases h
    exact ⟨by simp, fun id hid => .inl hid⟩
  | cons p rest ih =>
    unfold checkWrites at h
    split at h
    · cases h
    · split at h
      · cases h
      · next s hs =>
        split at h
        · next hv =>
          obtain ⟨hexists, hseen⟩ := ih h
          constructor
          · intro q hq
            rcases List.mem_cons.mp hq with rfl | hq
            · exact ⟨s, hs, hv⟩
            · exact hexists q hq
          · intro id hid
            rw [List.map_cons, List.mem_cons]
            rcases hseen id hid with hid | hid
            · exact (List.mem_cons.mp hid).elim (fun h => .inr (.inl h)) .inl
            · exact .inr (.inr hid)
        · cases h

theorem checkReads_ok {ps : List (TaskId × Nat)} (h : checkReads tasks ps = .ok ()) :
    ∀ p ∈ ps, versionOf tasks p.1 = p.2 := by
  induction ps with
  | nil => simp
  | cons p rest ih =>
    unfold checkReads at h
    split at h
    · next hv =>
      intro q hq
      rcases List.mem_cons.mp hq with rfl | hq
      · exact hv
      · exact ih h q hq
    · cases h

theorem checkWhole_ok {seen : List TaskId} (h : checkWhole tasks seen = .ok ()) :
    ∀ id, tasks.has id = true → id ∈ seen := by
  unfold checkWhole at h
  split at h
  · cases h
  · next hnone =>
    intro id hid
    obtain ⟨t, ht⟩ := TaskMap.has_iff.mp hid
    have hseen := List.find?_eq_none.mp hnone t (TaskMap.mem_of_get? ht)
    rw [TaskMap.id_of_get? ht] at hseen
    simpa using hseen

/-- **A batch that passes the check fits the store.** -/
theorem Fits.of_check (h : c.check store = .ok ()) : c.Fits store := by
  unfold check at h
  cases hcreates : checkCreates store [] c.creates with
  | error e => rw [hcreates] at h; cases h
  | ok seen =>
    rw [hcreates] at h
    simp only [bind, Except.bind] at h
    cases hwrites : checkWrites store seen
        (c.updates.map (fun t => (t.id, t.version)) ++ c.deletes) with
    | error e => rw [hwrites] at h; cases h
    | ok seen' =>
      rw [hwrites] at h
      cases hreads : checkReads store c.reads with
      | error e => simp [hreads] at h
      | ok u =>
        simp only [hreads] at h
        obtain ⟨hnew, hseen⟩ := checkCreates_ok hcreates
        obtain ⟨hexists, hseen'⟩ := checkWrites_ok hwrites
        refine ⟨hnew, fun t ht => ?_, fun p hp => ?_, checkReads_ok hreads, fun hwhole id hid => ?_⟩
        · exact hexists (t.id, t.version)
            (List.mem_append_left _ (List.mem_map_of_mem (f := fun t => (t.id, t.version)) ht))
        · exact hexists p (List.mem_append_right _ hp)
        · rw [if_pos hwhole] at h
          rcases List.mem_append.mp (checkWhole_ok h id hid) with hid | hid
          · exact .inl hid
          · rcases hseen' id hid with hid | hid
            · exact .inr (.inl ((hseen id hid).resolve_left List.not_mem_nil))
            · rw [List.map_append, List.map_map, List.mem_append] at hid
              exact .inr (.inr hid)

theorem apply_eq_ok_iff {written : List Task} {store' : TaskMap} :
    c.apply store = .ok (written, store') ↔
      c.check store = .ok () ∧ written = c.written ∧ store' = c.write store := by
  unfold apply
  cases c.check store with
  | error e => simp
  | ok u => simp [eq_comm]

/-! ### Batches between two sets of tasks -/

theorem contains_iff_mem {ids : List TaskId} : ids.contains id = true ↔ id ∈ ids :=
  List.contains_iff_mem

theorem mem_creates_between {t : Task} : t ∈ (between before after created whole).creates ↔
    after.get? t.id = some t ∧ t.id ∈ created := by
  simp only [between, List.mem_filter, contains_iff_mem, TaskMap.get?_eq_some_iff, and_true]

theorem mem_updates_between {t : Task} : t ∈ (between before after created whole).updates ↔
    after.get? t.id = some t ∧ t.id ∉ created ∧ before.holds t = false := by
  simp [between, TaskMap.get?_eq_some_iff]

theorem mem_deletes_between {p : TaskId × Nat} : p ∈ (between before after created whole).deletes ↔
    ∃ t, before.get? t.id = some t ∧ after.has t.id = false ∧ p = (t.id, t.version) := by
  unfold between
  rw [List.mem_map]
  constructor
  · rintro ⟨t, ht, rfl⟩
    obtain ⟨hmem, hafter⟩ := List.mem_filter.mp ht
    exact ⟨t, TaskMap.get?_id_of_mem hmem, by simpa using hafter, rfl⟩
  · rintro ⟨t, ht, hafter, rfl⟩
    exact ⟨t, List.mem_filter.mpr ⟨TaskMap.mem_of_get? ht, by simpa using hafter⟩, rfl⟩

theorem mem_reads_between {p : TaskId × Nat} : p ∈ (between before after created whole).reads ↔
    ∃ t, before.get? t.id = some t ∧ after.holds t = true ∧ p = (t.id, t.version) := by
  unfold between
  rw [List.mem_map]
  constructor
  · rintro ⟨t, ht, rfl⟩
    obtain ⟨hmem, hafter⟩ := List.mem_filter.mp ht
    exact ⟨t, TaskMap.get?_id_of_mem hmem, hafter, rfl⟩
  · rintro ⟨t, ht, hafter, rfl⟩
    exact ⟨t, List.mem_filter.mpr ⟨TaskMap.mem_of_get? ht, hafter⟩, rfl⟩

theorem mem_map_deletes_between : id ∈ (between before after created whole).deletes.map (·.1) ↔
    before.has id = true ∧ after.has id = false := by
  rw [List.mem_map, TaskMap.has_iff]
  constructor
  · rintro ⟨p, hp, rfl⟩
    obtain ⟨t, ht, hafter, rfl⟩ := mem_deletes_between.mp hp
    exact ⟨⟨t, ht⟩, hafter⟩
  · rintro ⟨⟨t, ht⟩, hafter⟩
    have hid := TaskMap.id_of_get? ht
    exact ⟨(t.id, t.version),
      mem_deletes_between.mpr ⟨t, by rw [hid, ht], by rw [hid, hafter], rfl⟩,
      hid⟩

/-- A task of the wanted set with the version that it gets: a new one has version 1, one that is not
the same as it was read the next version. -/
def versioned (before : TaskMap) (created : List TaskId) (t : Task) : Task :=
  if t.id ∈ created then { t with version := 1 }
  else if before.holds t then t
  else { t with version := t.version + 1 }

/-- What the store has of a task of the wanted set: what was read if the task is the same, and
otherwise the task with its version. -/
def stored (before : TaskMap) (created : List TaskId) (t : Task) : Task :=
  if t.id ∉ created ∧ before.holds t then (before.get? t.id).getD t else versioned before created t

/-- A task that is the same as it was read keeps its version, and the store keeps what was read. -/
theorem versioned_of_holds {t : Task} (hcreated : t.id ∉ created) (h : before.holds t = true) :
    versioned before created t = t := (if_neg hcreated).trans (if_pos h)

theorem stored_of_holds {t : Task} (hcreated : t.id ∉ created) (h : before.holds t = true) :
    before.get? t.id = some (stored before created t) := by
  obtain ⟨s, hs, -⟩ := TaskMap.holds_iff.mp h
  unfold stored
  rw [if_pos ⟨hcreated, h⟩, hs, Option.getD_some]

/-- A task that is not the same as it was read gets the next version, and the store has just that. -/
theorem versioned_of_changed {t : Task} (hcreated : t.id ∉ created) (h : before.holds t = false) :
    versioned before created t = { t with version := t.version + 1 } :=
  (if_neg hcreated).trans (if_neg (Bool.eq_false_iff.mp h))

theorem stored_of_changed {t : Task} (h : before.holds t = false) :
    stored before created t = versioned before created t :=
  if_neg fun hkept => Bool.eq_false_iff.mp h hkept.2

/-- **What is stored of a task**: the task that was read, which is the same, or the task with its
version. -/
theorem stored_cases (before : TaskMap) (created : List TaskId) (t : Task) :
    (t.id ∉ created ∧ (∃ s, before.get? t.id = some s ∧ s.same t = true ∧
      stored before created t = s) ∧ versioned before created t = t) ∨
    (t.id ∈ created ∨ before.holds t = false) ∧
      stored before created t = versioned before created t := by
  by_cases h : t.id ∉ created ∧ before.holds t = true
  · obtain ⟨s, hs, hsame⟩ := TaskMap.holds_iff.mp h.2
    have hstored : stored before created t = s := (if_pos h).trans (by rw [hs, Option.getD_some])
    exact .inl ⟨h.1, ⟨s, hs, hsame, hstored⟩, versioned_of_holds h.1 h.2⟩
  · refine .inr ⟨?_, if_neg h⟩
    rwa [not_and_or, not_not, Bool.not_eq_true] at h

theorem id_versioned (before : TaskMap) (created : List TaskId) (t : Task) :
    (versioned before created t).id = t.id := by
  unfold versioned
  split
  · rfl
  · split <;> rfl

/-- What is written: every task that was created or is not the same as the one that was read. -/
theorem mem_written_between {t : Task} : t ∈ (between before after created whole).written ↔
    ∃ u, after.get? u.id = some u ∧ (u.id ∈ created ∨ before.holds u = false) ∧
      t = versioned before created u := by
  unfold written
  rw [List.mem_append, List.mem_map, List.mem_map]
  constructor
  · rintro (⟨u, hu, rfl⟩ | ⟨u, hu, rfl⟩)
    · obtain ⟨hafter, hcreated⟩ := mem_creates_between.mp hu
      exact ⟨u, hafter, .inl hcreated, (if_pos hcreated).symm⟩
    · obtain ⟨hafter, hcreated, hbefore⟩ := mem_updates_between.mp hu
      exact ⟨u, hafter, .inr hbefore, (versioned_of_changed hcreated hbefore).symm⟩
  · rintro ⟨u, hafter, hu, rfl⟩
    by_cases hcreated : u.id ∈ created
    · exact .inl ⟨u, mem_creates_between.mpr ⟨hafter, hcreated⟩, (if_pos hcreated).symm⟩
    · have hbefore := hu.resolve_left hcreated
      exact .inr ⟨u, mem_updates_between.mpr ⟨hafter, hcreated, hbefore⟩,
        (versioned_of_changed hcreated hbefore).symm⟩

/-- Putting what is written into a set of tasks. -/
theorem get?_insertAll_written_of (tasks : TaskMap) :
    TaskMap.get? (tasks.insertAll (between before after created whole).written) id =
      match after.get? id with
      | some t =>
        if id ∉ created ∧ before.holds t = true then tasks.get? id
        else some (versioned before created t)
      | none => tasks.get? id := by
  rcases TaskMap.get?_insertAll tasks (between before after created whole).written id with
    ⟨t, ht, hid, hget⟩ | ⟨hne, hget⟩
  · -- a written task was created or has changed
    obtain ⟨u, hafter, hu, rfl⟩ := mem_written_between.mp ht
    rw [id_versioned] at hid
    subst hid
    rw [hget, hafter]
    have hnot : ¬ (u.id ∉ created ∧ before.holds u = true) := fun h =>
      hu.elim h.1 fun hbefore => Bool.false_ne_true (hbefore.symm.trans h.2)
    exact (if_neg hnot).symm
  · rw [hget]
    cases hafter : after.get? id with
    | none => rfl
    | some t =>
      -- not written, so it is the same as it was read
      obtain rfl := TaskMap.id_of_get? hafter
      refine (if_pos ?_).symm
      by_contra hnot
      rw [not_and_or, not_not, Bool.not_eq_true] at hnot
      exact hne (versioned before created t) (mem_written_between.mpr ⟨t, hafter, hnot, rfl⟩)
        (id_versioned before created t)

/-- **The copy of the writer afterwards**: the wanted tasks with the versions that they got. -/
theorem get?_insertAll_written (id : TaskId) :
    TaskMap.get? (after.insertAll (between before after created whole).written) id =
      (after.get? id).map (versioned before created) := by
  rw [get?_insertAll_written_of]
  cases hafter : after.get? id with
  | none => rfl
  | some t =>
    obtain rfl := TaskMap.id_of_get? hafter
    show (if t.id ∉ created ∧ before.holds t = true then some t else _) = some _
    split
    · next h =>
      unfold versioned
      rw [if_neg h.1, if_pos h.2]
    · rfl

/-- **The store afterwards.** -/
theorem get?_write_between (store : TaskMap) (id : TaskId) :
    ((between before after created whole).write store).get? id =
      match after.get? id with
      | some t =>
        if id ∉ created ∧ before.holds t = true then store.get? id
        else some (versioned before created t)
      | none => if before.has id then none else store.get? id := by
  unfold write
  rw [TaskMap.get?_removeAll, get?_insertAll_written_of]
  simp only [mem_map_deletes_between]
  cases hafter : after.get? id with
  | none => simp [TaskMap.get?_eq_none_iff.mp hafter]
  | some t => simp [TaskMap.has_iff.mpr ⟨t, hafter⟩]

/-- The store holds the tasks that were read as they were. -/
def UpToDate (before store : TaskMap) : Prop :=
  ∀ id t, before.get? id = some t → store.get? id = some t

theorem upToDate_empty : UpToDate .empty store := fun _ _ h => nomatch h

/-- What was read stays up to date when more is read. -/
theorem upToDate_insertAll {ts : List Task} (h : UpToDate before store)
    (hts : ∀ t ∈ ts, store.get? t.id = some t) : UpToDate (before.insertAll ts) store := by
  intro id t ht
  rcases TaskMap.get?_insertAll before ts id with ⟨u, hu, hid, hget⟩ | ⟨-, hget⟩
  · rw [hget] at ht
    cases ht
    rw [← hid]
    exact hts t hu
  · exact h id t (hget ▸ ht)

/-- If what was read is up to date, the store afterwards holds what `stored` says of the wanted tasks,
no task that was read and is not wanted, and otherwise what it held before. -/
theorem get?_write_of_upToDate (h : UpToDate before store) (id : TaskId) :
    ((between before after created whole).write store).get? id =
      if before.has id || after.has id then (after.get? id).map (stored before created)
      else store.get? id := by
  rw [get?_write_between]
  cases hafter : after.get? id with
  | none => simp [TaskMap.get?_eq_none_iff.mp hafter]
  | some t =>
    obtain rfl := TaskMap.id_of_get? hafter
    rw [TaskMap.has_iff.mpr ⟨t, hafter⟩, Bool.or_true]
    show (if t.id ∉ created ∧ before.holds t = true then store.get? t.id else _) = some _
    unfold stored
    split
    · next hkept =>
      obtain ⟨s, hs, -⟩ := TaskMap.holds_iff.mp hkept.2
      rw [hs, h t.id s hs, Option.getD_some]
    · rfl

/-- **A batch without writes** leads from a set of tasks to tasks that are the same, of which none was
created. -/
theorem same_of_isEmpty (h : (between before after created whole).isEmpty = true) (id : TaskId) :
    before.has id = after.has id ∧
      ∀ t, after.get? id = some t → id ∉ created ∧ before.holds t = true := by
  unfold isEmpty at h
  simp only [Bool.and_eq_true, List.isEmpty_iff] at h
  obtain ⟨⟨hcreates, hupdates⟩, hdeletes⟩ := h
  -- a wanted task that is new or not the same as it was read would have been written
  have hnot : ∀ t, after.get? id = some t → id ∉ created ∧ before.holds t = true := by
    intro t ht
    obtain rfl := TaskMap.id_of_get? ht
    have hcreated : t.id ∉ created := fun hcreated =>
      List.ne_nil_of_mem (mem_creates_between.mpr ⟨ht, hcreated⟩) hcreates
    refine ⟨hcreated, by_contra fun hbefore => ?_⟩
    exact List.ne_nil_of_mem
      (mem_updates_between.mpr ⟨ht, hcreated, Bool.eq_false_iff.mpr hbefore⟩) hupdates
  refine ⟨?_, hnot⟩
  cases hafter : after.get? id with
  | some t =>
    obtain rfl := TaskMap.id_of_get? hafter
    obtain ⟨s, hs, -⟩ := TaskMap.holds_iff.mp (hnot t hafter).2
    rw [TaskMap.has_iff.mpr ⟨s, hs⟩, TaskMap.has_iff.mpr ⟨t, hafter⟩]
  | none =>
    have hgone := TaskMap.get?_eq_none_iff.mp hafter
    rw [hgone]
    by_contra hbefore
    have hmem : id ∈ (between before after created whole).deletes.map (·.1) :=
      mem_map_deletes_between.mpr ⟨Bool.not_eq_false _ ▸ hbefore, hgone⟩
    rw [hdeletes] at hmem
    cases hmem

/-- **Nothing is to be written** just if nothing was created, no task has gone, and every task is the
same as it was read. -/
theorem isEmpty_between_iff : (between before after created whole).isEmpty = true ↔
    ∀ id, before.has id = after.has id ∧
      ∀ t, after.get? id = some t → id ∉ created ∧ before.holds t = true := by
  refine ⟨same_of_isEmpty, fun h => ?_⟩
  have hcreates : (between before after created whole).creates = [] :=
    List.eq_nil_iff_forall_not_mem.mpr fun t ht => by
      obtain ⟨hafter, hcreated⟩ := mem_creates_between.mp ht
      exact ((h t.id).2 t hafter).1 hcreated
  have hupdates : (between before after created whole).updates = [] :=
    List.eq_nil_iff_forall_not_mem.mpr fun t ht => by
      obtain ⟨hafter, -, hother⟩ := mem_updates_between.mp ht
      rw [((h t.id).2 t hafter).2] at hother
      cases hother
  have hdeletes : (between before after created whole).deletes = [] :=
    List.eq_nil_iff_forall_not_mem.mpr fun p hp => by
      obtain ⟨t, ht, hgone, -⟩ := mem_deletes_between.mp hp
      rw [← (h t.id).1, TaskMap.has_iff.mpr ⟨t, ht⟩] at hgone
      cases hgone
  unfold isEmpty
  rw [hcreates, hupdates, hdeletes]
  rfl

/-! ### Batches that pass the check -/

/-- What is named once and was not named before is still not named when the first of it was. -/
theorem not_mem_cons_seen {α : Type} {f : α → TaskId} {seen : List TaskId} {a : α} {rest : List α}
    (ha : f a ∉ rest.map f) (h : ∀ b ∈ a :: rest, f b ∉ seen) : ∀ b ∈ rest, f b ∉ f a :: seen := by
  intro b hb hmem
  rcases List.mem_cons.mp hmem with heq | hmem
  · exact ha (heq ▸ List.mem_map_of_mem hb)
  · exact h b (List.mem_cons_of_mem _ hb) hmem

theorem checkCreates_eq_ok {seen : List TaskId} {ts : List Task} (hnd : (ts.map Task.id).Nodup)
    (h : ∀ t ∈ ts, store.get? t.id = none ∧ t.id ∉ seen) :
    checkCreates store seen ts = .ok ((ts.map Task.id).reverse ++ seen) := by
  induction ts generalizing seen with
  | nil => rfl
  | cons t rest ih =>
    rw [List.map_cons, List.nodup_cons] at hnd
    obtain ⟨hnone, hseen⟩ := h t List.mem_cons_self
    unfold checkCreates
    rw [TaskMap.get?_eq_none_iff.mp hnone, if_neg Bool.false_ne_true,
      if_neg (mt contains_iff_mem.mp hseen), ih hnd.2 fun u hu => ?_]
    · simp
    · exact ⟨(h u (List.mem_cons_of_mem _ hu)).1,
        not_mem_cons_seen hnd.1 (fun v hv => (h v hv).2) u hu⟩

theorem checkWrites_eq_ok {seen : List TaskId} {ps : List (TaskId × Nat)}
    (hnd : (ps.map (·.1)).Nodup)
    (h : ∀ p ∈ ps, (∃ t, store.get? p.1 = some t ∧ t.version = p.2) ∧ p.1 ∉ seen) :
    checkWrites store seen ps = .ok ((ps.map (·.1)).reverse ++ seen) := by
  induction ps generalizing seen with
  | nil => rfl
  | cons p rest ih =>
    rw [List.map_cons, List.nodup_cons] at hnd
    obtain ⟨⟨t, ht, hv⟩, hseen⟩ := h p List.mem_cons_self
    unfold checkWrites
    rw [if_neg (mt contains_iff_mem.mp hseen), ht]
    dsimp only
    rw [if_pos hv, ih hnd.2 fun q hq => ?_]
    · simp
    · exact ⟨(h q (List.mem_cons_of_mem _ hq)).1,
        not_mem_cons_seen hnd.1 (fun r hr => (h r hr).2) q hq⟩

theorem checkReads_eq_ok {ps : List (TaskId × Nat)} (h : ∀ p ∈ ps, versionOf store p.1 = p.2) :
    checkReads store ps = .ok () := by
  induction ps with
  | nil => rfl
  | cons p rest ih =>
    unfold checkReads
    rw [if_pos (h p List.mem_cons_self)]
    exact ih fun q hq => h q (List.mem_cons_of_mem _ hq)

theorem checkWhole_eq_ok {seen : List TaskId} (h : ∀ id, store.has id = true → id ∈ seen) :
    checkWhole store seen = .ok () := by
  unfold checkWhole
  have hnone : (store.toList.find? fun t => !seen.contains t.id) = none := by
    rw [List.find?_eq_none]
    intro t ht
    simpa using h t.id (TaskMap.has_of_mem ht)
  rw [hnone]

/-- The tasks that a batch names to write them. -/
def named (c : ChangeSet) : List TaskId :=
  c.creates.map Task.id ++ (c.updates.map Task.id ++ c.deletes.map (·.1))

/-- **A batch that fits the store passes the check** if it names no task twice. -/
theorem Fits.check_eq_ok (h : c.Fits store) (hnd : c.named.Nodup) : c.check store = .ok () := by
  unfold named at hnd
  obtain ⟨hcreated, hwritten, hdisjoint⟩ := List.nodup_append'.mp hnd
  have hwrites : (c.updates.map (fun t => (t.id, t.version)) ++ c.deletes).map (·.1) =
      c.updates.map Task.id ++ c.deletes.map (·.1) := by
    rw [List.map_append, List.map_map]
    rfl
  unfold check
  rw [checkCreates_eq_ok hcreated fun t ht => ⟨h.creates t ht, List.not_mem_nil⟩]
  simp only [bind, Except.bind, List.append_nil]
  rw [checkWrites_eq_ok (hwrites ▸ hwritten) fun p hp => ⟨?_, fun hseen => ?_⟩]
  · dsimp only
    rw [checkReads_eq_ok h.reads]
    dsimp only
    split
    · next hwhole =>
      refine checkWhole_eq_ok fun id hid => ?_
      rw [hwrites, List.mem_append, List.mem_append, List.mem_reverse, List.mem_reverse,
        List.mem_append]
      have hcases := h.whole hwhole id hid
      tauto
    · rfl
  · rcases List.mem_append.mp hp with hp | hp
    · obtain ⟨t, ht, rfl⟩ := List.mem_map.mp hp
      exact h.updates t ht
    · exact h.deletes p hp
  · refine hdisjoint (List.mem_reverse.mp hseen) ?_
    rw [← hwrites]
    exact List.mem_map_of_mem hp

theorem nodup_filter_ids (tasks : TaskMap) (p : Task → Bool) :
    ((tasks.toList.filter p).map Task.id).Nodup :=
  (tasks.nodup_ids).sublist (List.filter_sublist.map _)

theorem nodup_named_between : (between before after created whole).named.Nodup := by
  have hdeletes : (between before after created whole).deletes.map (·.1) =
      (before.toList.filter fun t => !after.has t.id).map Task.id := List.map_map
  have hgone : ∀ id ∈ (between before after created whole).deletes.map (·.1),
      after.has id = false :=
    fun id hid => (mem_map_deletes_between.mp hid).2
  refine (nodup_filter_ids after _).append ((nodup_filter_ids after _).append ?_ ?_) ?_
  · rw [hdeletes]
    exact nodup_filter_ids before _
  · intro id hu hd
    obtain ⟨t, ht, rfl⟩ := List.mem_map.mp hu
    have hthere := TaskMap.has_of_mem (List.mem_filter.mp ht).1
    rw [hgone _ hd] at hthere
    cases hthere
  · intro id hc hw
    obtain ⟨t, ht, rfl⟩ := List.mem_map.mp hc
    have hcreated : after.get? t.id = some t ∧ t.id ∈ created :=
      ⟨TaskMap.get?_id_of_mem (List.mem_filter.mp ht).1,
        contains_iff_mem.mp (List.mem_filter.mp ht).2⟩
    rcases List.mem_append.mp hw with hu | hd
    · obtain ⟨u, hu, hid⟩ := List.mem_map.mp hu
      exact (mem_updates_between.mp hu).2.1 (hid ▸ hcreated.2)
    · have hthere := TaskMap.has_iff.mpr ⟨t, hcreated.1⟩
      rw [hgone _ hd] at hthere
      cases hthere

theorem versionOf_of_get? {t : Task} (h : store.get? id = some t) :
    versionOf store id = t.version := by
  unfold versionOf
  rw [h]

/-- A batch names every task that was read: what becomes of the task says where. -/
theorem mem_named_of_has (h : before.has id = true) :
    id ∈ (between before after created whole).reads.map (·.1) ∨
      id ∈ (between before after created whole).creates.map Task.id ∨
      id ∈ (between before after created whole).updates.map Task.id ∨
      id ∈ (between before after created whole).deletes.map (·.1) := by
  obtain ⟨t, ht⟩ := TaskMap.has_iff.mp h
  obtain rfl := TaskMap.id_of_get? ht
  cases hafter : after.get? t.id with
  | none =>
    exact .inr (.inr (.inr (mem_map_deletes_between.mpr ⟨h, TaskMap.get?_eq_none_iff.mp hafter⟩)))
  | some u =>
    have huid := TaskMap.id_of_get? hafter
    rw [← huid] at ht hafter ⊢
    have hcomm := TaskMap.holds_comm ht hafter
    cases hholds : before.holds u with
    | true =>
      refine .inl (List.mem_map.mpr ⟨(t.id, t.version), mem_reads_between.mpr ?_, huid.symm⟩)
      exact ⟨t, huid ▸ ht, hcomm.trans hholds, rfl⟩
    | false =>
      by_cases hcreated : u.id ∈ created
      · exact .inr (.inl (List.mem_map_of_mem (mem_creates_between.mpr ⟨hafter, hcreated⟩)))
      · exact .inr (.inr (.inl
          (List.mem_map_of_mem (mem_updates_between.mpr ⟨hafter, hcreated, hholds⟩))))

/-- **A batch passes the check of a store in which nothing has changed** since it was read, if it
creates only new tasks and leaves versions alone. -/
theorem check_between_eq_ok (hup : UpToDate before store) (hwhole : whole = true → before = store)
    (hnew : ∀ id ∈ created, after.has id = true → store.get? id = none)
    (hversion : ∀ id t', after.get? id = some t' → id ∉ created →
      ∃ t, before.get? id = some t ∧ t'.version = t.version) :
    (between before after created whole).check store = .ok () := by
  refine Fits.check_eq_ok ⟨fun t ht => ?_, fun t ht => ?_, fun p hp => ?_, fun p hp => ?_,
    fun hw id hid => ?_⟩ nodup_named_between
  · obtain ⟨hafter, hcreated⟩ := mem_creates_between.mp ht
    exact hnew t.id hcreated (TaskMap.has_iff.mpr ⟨t, hafter⟩)
  · obtain ⟨hafter, hcreated, -⟩ := mem_updates_between.mp ht
    obtain ⟨u, hu, hv⟩ := hversion t.id t hafter hcreated
    exact ⟨u, hup t.id u hu, hv.symm⟩
  · obtain ⟨t, ht, -, rfl⟩ := mem_deletes_between.mp hp
    exact ⟨t, hup t.id t ht, rfl⟩
  · obtain ⟨t, ht, -, rfl⟩ := mem_reads_between.mp hp
    exact versionOf_of_get? (hup t.id t ht)
  · -- every task of the store was read
    rw [← hwhole hw] at hid
    exact mem_named_of_has hid

end ChangeSet

end TaskPipeline
