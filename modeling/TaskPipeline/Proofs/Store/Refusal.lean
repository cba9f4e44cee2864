import TaskPipeline.Proofs.Store.Batch

/-!
# Why a batch is refused

A batch that names no task twice is refused in one of two ways.  Either another writer was faster,
which is a conflict, or it is refused for good (`ChangeSet.RefusedForGood`): a task that it creates
is there already, or the first task, in the order of the batch, that is not as it was read is gone.
`ChangeSet.check_eq_error_iff` says that there are no other reasons, and that these two are never
taken for a conflict.
-/

namespace TaskPipeline

/-- Another writer was faster. -/
def StoreError.IsConflict (e : StoreError) : Prop :=
  ∃ id expected actual, e = .conflict id expected actual

namespace ChangeSet

variable {c : ChangeSet} {store : TaskMap} {seen : List TaskId} {e : StoreError}

/-- The tasks that are written anew or deleted, each with the version that was read, in the order in
which they are checked. -/
def replaced (c : ChangeSet) : List (TaskId × Nat) :=
  c.updates.map (fun t => (t.id, t.version)) ++ c.deletes

/-- The store does not hold the task in the version that was read. -/
def isStale (store : TaskMap) (p : TaskId × Nat) : Bool :=
  (store.get? p.1).map Task.version != some p.2

/-- Reasons to refuse a batch that trying again would not do away with. -/
inductive RefusedForGood (c : ChangeSet) (store : TaskMap) : StoreError → Prop where
  /-- A task to create is there already; this is the first one. -/
  | taken {t : Task} (h : c.creates.find? (fun t => store.has t.id) = some t) :
      RefusedForGood c store (.alreadyExists t.id)
  /-- A task to replace is gone, and those before it are as they were read. -/
  | gone {p : TaskId × Nat} (hnew : c.creates.find? (fun t => store.has t.id) = none)
      (h : c.replaced.find? (isStale store) = some p) (hgone : store.get? p.1 = none) :
      RefusedForGood c store (.taskNotFound p.1)

theorem RefusedForGood.not_isConflict (h : c.RefusedForGood store e) : ¬ e.IsConflict := by
  rintro ⟨id, expected, actual, rfl⟩
  cases h

theorem refusedForGood_iff_of_taken {t : Task}
    (hnew : c.creates.find? (fun t => store.has t.id) = some t) :
    c.RefusedForGood store e ↔ e = .alreadyExists t.id := by
  constructor
  · intro h
    cases h with
    | taken h =>
      rw [hnew] at h
      cases h
      rfl
    | gone hnone => rw [hnew] at hnone; cases hnone
  · rintro rfl
    exact .taken hnew

theorem refusedForGood_iff_of_stale {p : TaskId × Nat}
    (hnew : c.creates.find? (fun t => store.has t.id) = none)
    (hstale : c.replaced.find? (isStale store) = some p) :
    c.RefusedForGood store e ↔ store.get? p.1 = none ∧ e = .taskNotFound p.1 := by
  constructor
  · intro h
    cases h with
    | taken h => rw [hnew] at h; cases h
    | gone _ h hgone =>
      rw [hstale] at h
      cases h
      exact ⟨hgone, rfl⟩
  · rintro ⟨hgone, rfl⟩
    exact .gone hnew hstale hgone

theorem not_refusedForGood (hnew : c.creates.find? (fun t => store.has t.id) = none)
    (hstale : c.replaced.find? (isStale store) = none) : ¬ c.RefusedForGood store e := by
  intro h
  cases h with
  | taken h => rw [hnew] at h; cases h
  | gone _ h _ => rw [hstale] at h; cases h

theorem isStale_eq_false_iff {p : TaskId × Nat} :
    isStale store p = false ↔ ∃ t, store.get? p.1 = some t ∧ t.version = p.2 := by
  unfold isStale
  cases store.get? p.1 <;> simp

/-! ### The parts of the check -/

theorem checkCreates_of_find? {ts : List Task} {t : Task} (hnd : (ts.map Task.id).Nodup)
    (hseen : ∀ u ∈ ts, u.id ∉ seen) (h : ts.find? (fun u => store.has u.id) = some t) :
    checkCreates store seen ts = .error (.alreadyExists t.id) := by
  induction ts generalizing seen with
  | nil => cases h
  | cons u rest ih =>
    rw [List.map_cons, List.nodup_cons] at hnd
    rw [List.find?_cons] at h
    unfold checkCreates
    cases hu : store.has u.id with
    | true =>
      rw [hu] at h
      cases h
      rfl
    | false =>
      rw [hu] at h
      have hfresh : ¬ seen.contains u.id = true := mt contains_iff_mem.mp (hseen u List.mem_cons_self)
      rw [if_neg Bool.false_ne_true, if_neg hfresh]
      exact ih hnd.2 (not_mem_cons_seen hnd.1 hseen) h

theorem checkWrites_of_find? {ps : List (TaskId × Nat)} {p : TaskId × Nat}
    (hnd : (ps.map (·.1)).Nodup) (hseen : ∀ q ∈ ps, q.1 ∉ seen)
    (h : ps.find? (isStale store) = some p) :
    checkWrites store seen ps = .error (match store.get? p.1 with
      | none => .taskNotFound p.1
      | some t => .conflict p.1 p.2 t.version) := by
  induction ps generalizing seen with
  | nil => cases h
  | cons q rest ih =>
    rw [List.map_cons, List.nodup_cons] at hnd
    rw [List.find?_cons] at h
    have hfresh : ¬ seen.contains q.1 = true := mt contains_iff_mem.mp (hseen q List.mem_cons_self)
    unfold checkWrites
    rw [if_neg hfresh]
    cases hq : isStale store q with
    | true =>
      rw [hq] at h
      cases h
      cases hget : store.get? p.1 with
      | none => rfl
      | some t =>
        have hne : t.version ≠ p.2 := by
          intro hv
          rw [isStale_eq_false_iff.mpr ⟨t, hget, hv⟩] at hq
          cases hq
        exact if_neg hne
    | false =>
      rw [hq] at h
      obtain ⟨t, ht, hv⟩ := isStale_eq_false_iff.mp hq
      rw [ht]
      dsimp only
      rw [if_pos hv]
      exact ih hnd.2 (not_mem_cons_seen hnd.1 hseen) h

theorem isConflict_of_checkReads {ps : List (TaskId × Nat)} (h : checkReads store ps = .error e) :
    e.IsConflict := by
  induction ps with
  | nil => cases h
  | cons p rest ih =>
    unfold checkReads at h
    split at h
    · exact ih h
    · cases h
      exact ⟨_, _, _, rfl⟩

theorem isConflict_of_checkWhole (h : checkWhole store seen = .error e) : e.IsConflict := by
  unfold checkWhole at h
  split at h
  · cases h
    exact ⟨_, _, _, rfl⟩
  · cases h

/-! ### The whole check -/

theorem map_replaced (c : ChangeSet) :
    c.replaced.map (·.1) = c.updates.map Task.id ++ c.deletes.map (·.1) := by
  unfold replaced
  rw [List.map_append, List.map_map]
  rfl

/-- What the check comes to if no task to create is there already. -/
theorem check_of_new (hnd : c.named.Nodup)
    (hnew : c.creates.find? (fun t => store.has t.id) = none) :
    c.check store = (checkWrites store (c.creates.map Task.id).reverse c.replaced >>= fun seen =>
      checkReads store c.reads >>= fun _ =>
        if c.wholeStore then checkWhole store (c.reads.map (·.1) ++ seen) else .ok ()) := by
  have hcreates : ∀ t ∈ c.creates, store.get? t.id = none ∧ t.id ∉ ([] : List TaskId) := by
    intro t ht
    have hhas := List.find?_eq_none.mp hnew t ht
    exact ⟨TaskMap.get?_eq_none_iff.mpr (Bool.eq_false_iff.mpr hhas), List.not_mem_nil⟩
  have hok := checkCreates_eq_ok (List.nodup_append'.mp hnd).1 hcreates
  unfold check
  rw [hok, List.append_nil]
  rfl

/-- What is checked after the writes is refused as a conflict only. -/
theorem isConflict_of_checkRest
    (h : (checkReads store c.reads >>= fun _ =>
      if c.wholeStore then checkWhole store (c.reads.map (·.1) ++ seen) else .ok ()) = .error e) :
    e.IsConflict := by
  simp only [bind, Except.bind] at h
  cases hreads : checkReads store c.reads with
  | error e' =>
    rw [hreads] at h
    cases h
    exact isConflict_of_checkReads hreads
  | ok u =>
    rw [hreads] at h
    dsimp only at h
    split at h
    · exact isConflict_of_checkWhole h
    · cases h

/-- **Why a batch is refused** if it names no task twice: another writer was faster, or it is refused
for good. -/
theorem check_eq_error_iff (hnd : c.named.Nodup) (he : ¬ e.IsConflict) :
    c.check store = .error e ↔ c.RefusedForGood store e := by
  obtain ⟨hcreates, hwrites, hapart⟩ := List.nodup_append'.mp hnd
  rw [← map_replaced] at hwrites hapart
  have hfresh : ∀ p ∈ c.replaced, p.1 ∉ (c.creates.map Task.id).reverse := fun p hp hmem =>
    hapart (List.mem_reverse.mp hmem) (List.mem_map_of_mem hp)
  cases hnew : c.creates.find? (fun t => store.has t.id) with
  | some t =>
    have hcheck : c.check store = .error (.alreadyExists t.id) := by
      unfold check
      rw [checkCreates_of_find? hcreates (fun _ _ => List.not_mem_nil) hnew]
      rfl
    rw [hcheck, refusedForGood_iff_of_taken hnew, Except.error.injEq, eq_comm]
  | none =>
    rw [check_of_new hnd hnew]
    cases hstale : c.replaced.find? (isStale store) with
    | some p =>
      rw [refusedForGood_iff_of_stale hnew hstale, checkWrites_of_find? hwrites hfresh hstale]
      cases hgone : store.get? p.1 with
      | some t =>
        -- it was changed, not deleted
        refine iff_of_false (fun h => ?_) fun h => ?_
        · cases h
          exact he ⟨_, _, _, rfl⟩
        · cases h.1
      | none =>
        show Except.error _ = Except.error e ↔ _
        rw [Except.error.injEq, eq_comm]
        exact (and_iff_right rfl).symm
    | none =>
      have hup : ∀ p ∈ c.replaced, (∃ t, store.get? p.1 = some t ∧ t.version = p.2) ∧
          p.1 ∉ (c.creates.map Task.id).reverse := fun p hp =>
        ⟨isStale_eq_false_iff.mp (Bool.eq_false_iff.mpr (List.find?_eq_none.mp hstale p hp)),
          hfresh p hp⟩
      rw [checkWrites_eq_ok hwrites hup]
      exact iff_of_false (fun h => he (isConflict_of_checkRest h)) (not_refusedForGood hnew hstale)

/-- A batch that is refused for good writes something. -/
theorem RefusedForGood.not_isEmpty (h : c.RefusedForGood store e) : c.isEmpty = false := by
  rw [Bool.eq_false_iff]
  intro hempty
  unfold isEmpty at hempty
  simp only [Bool.and_eq_true, List.isEmpty_iff] at hempty
  obtain ⟨⟨hcreates, hupdates⟩, hdeletes⟩ := hempty
  cases h with
  | taken h =>
    rw [hcreates] at h
    cases h
  | gone _ h _ =>
    unfold replaced at h
    rw [hupdates, hdeletes] at h
    cases h

end ChangeSet

end TaskPipeline
