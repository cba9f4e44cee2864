import TaskPipeline.Proofs.Engine.Transaction
import TaskPipeline.Proofs.Store.Refusal

/-!
# Stale transactions

A transaction decides on the tasks that it has read, and its batch lists those that it does not write,
so that the store can refuse the batch if one of them has changed.  The store compares versions, and a
task that is gone counts as version 0.  A task that was read in version 0, as it may stand in a file,
can therefore go away without being missed.  `Transaction.stale_refused_iff` says that this is the only
staleness that is overlooked.
-/

namespace TaskPipeline

open ChangeSet

/-- What the batch creates is new, and what it replaces is as it was read. -/
structure ChangeSet.FitsWrites (c : ChangeSet) (store : TaskMap) : Prop where
  /-- What is created does not exist. -/
  creates : ∀ t ∈ c.creates, store.has t.id = false
  /-- What is updated or deleted exists in the version that was read. -/
  replaced : ∀ p ∈ c.replaced, isStale store p = false

/-- A store accepts a batch that fits it, if the batch names no task twice, and no other. -/
theorem memory_commit_refused_iff {c : ChangeSet} {store : TaskMap} (hnd : c.named.Nodup) :
    (∃ e, memory.perform false (.commit c) store = (.error e, store)) ↔ ¬ c.Fits store := by
  cases hcheck : c.check store with
  | ok u =>
    rw [memory_commit_of_check hcheck]
    exact iff_of_false nofun (not_not.mpr (Fits.of_check hcheck))
  | error e =>
    have hrefused : memory.perform false (.commit c) store = (.error e, store) := by
      simp [memory, unlessExpired, apply, hcheck]
    refine iff_of_true ⟨e, hrefused⟩ fun hfits => ?_
    rw [hfits.check_eq_ok hnd] at hcheck
    cases hcheck

namespace Transaction

variable {tx : Transaction} {earlier store : TaskMap} {s t : Task} {id : TaskId} {title : String}
  {start : Start} {actions : List Action}

/-- A task that was read and is not written, and that the store does not hold in that version any
more. -/
structure StaleRead (tx : Transaction) (store : TaskMap) (s : Task) : Prop where
  /-- It was read. -/
  read : tx.original.get? s.id = some s
  /-- The working copy has the same task. -/
  unwritten : tx.tasks.holds s = true
  /-- It is gone or has another version. -/
  stale : ∀ t, store.get? s.id = some t → t.version ≠ s.version

/-- A task of the store that a transaction over the whole store has not read and does not create. -/
structure Unseen (tx : Transaction) (store : TaskMap) (t : Task) : Prop where
  /-- The transaction claims to know every task. -/
  whole : tx.wholeStore = true
  /-- The store has the task. -/
  stored : store.get? t.id = some t
  /-- It was not read. -/
  unread : tx.original.has t.id = false
  /-- The batch does not create it. -/
  uncreated : t.id ∉ tx.changeSet.creates.map Task.id

/-- A task that is gone counts as version 0. -/
theorem staleRead_iff (hread : tx.original.get? s.id = some s)
    (hunwritten : tx.tasks.holds s = true) :
    tx.StaleRead store s ∧ (s.version ≠ 0 ∨ store.has s.id = true) ↔
      versionOf store s.id ≠ s.version := by
  cases hget : store.get? s.id with
  | some t =>
    rw [versionOf_of_get? hget]
    refine ⟨fun h => h.1.stale t hget, fun hne => ⟨⟨hread, hunwritten, fun u hu => ?_⟩, .inr ?_⟩⟩
    · cases hget.symm.trans hu
      exact hne
    · exact TaskMap.has_iff.mpr ⟨t, hget⟩
  | none =>
    have hgone : versionOf store s.id = 0 := by
      unfold versionOf
      rw [hget]
    rw [hgone, TaskMap.get?_eq_none_iff.mp hget]
    constructor
    · rintro ⟨-, hne | hhas⟩
      · exact hne.symm
      · cases hhas
    · intro hne
      refine ⟨⟨hread, hunwritten, fun u hu => ?_⟩, .inl hne.symm⟩
      cases hget.symm.trans hu

/-- The tasks that a batch names are those that were read and those that it creates. -/
theorem Keeps.mem_named_iff (h : tx.Keeps) :
    id ∈ tx.changeSet.reads.map (·.1) ∨ id ∈ tx.changeSet.creates.map Task.id ∨
        id ∈ tx.changeSet.updates.map Task.id ∨ id ∈ tx.changeSet.deletes.map (·.1) ↔
      tx.original.has id = true ∨ id ∈ tx.changeSet.creates.map Task.id := by
  constructor
  · rintro (hid | hid | hid | hid)
    · obtain ⟨p, hp, rfl⟩ := List.mem_map.mp hid
      obtain ⟨t, ht, -, rfl⟩ := mem_reads_between.mp hp
      exact .inl (TaskMap.has_iff.mpr ⟨t, ht⟩)
    · exact .inr hid
    · -- an updated task is not new, so it was read
      obtain ⟨t, ht, rfl⟩ := List.mem_map.mp hid
      obtain ⟨hthere, hnew, -⟩ := mem_updates_between.mp ht
      obtain ⟨s, hs, -⟩ := h t.id t hthere hnew
      exact .inl (TaskMap.has_iff.mpr ⟨s, hs⟩)
    · exact .inl (mem_map_deletes_between.mp hid).1
  · rintro (hid | hid)
    · exact mem_named_of_has hid
    · exact .inr (.inl hid)

/-- **What a store fulfils that accepts the batch of a transaction**: the writes fit, no task is
unseen, and every stale read is of a task that had version 0 and is gone. -/
theorem Keeps.fits_iff (h : tx.Keeps) : tx.changeSet.Fits store ↔
    tx.changeSet.FitsWrites store ∧
      (¬ ∃ s, tx.StaleRead store s ∧ (s.version ≠ 0 ∨ store.has s.id = true)) ∧
      ¬ ∃ t, tx.Unseen store t := by
  constructor
  · -- each condition is a clause of the fit, read on the tasks of the transaction
    intro hfits
    refine ⟨⟨fun t ht => TaskMap.get?_eq_none_iff.mp (hfits.creates t ht), fun p hp => ?_⟩, ?_, ?_⟩
    · refine isStale_eq_false_iff.mpr ?_
      rcases List.mem_append.mp hp with hp | hp
      · obtain ⟨t, ht, rfl⟩ := List.mem_map.mp hp
        exact hfits.updates t ht
      · exact hfits.deletes p hp
    · rintro ⟨s, hs, hseen⟩
      have hread : (s.id, s.version) ∈ tx.changeSet.reads :=
        mem_reads_between.mpr ⟨s, hs.read, hs.unwritten, rfl⟩
      exact (staleRead_iff hs.read hs.unwritten).mp ⟨hs, hseen⟩ (hfits.reads _ hread)
    · rintro ⟨t, ht⟩
      have hnamed := hfits.whole ht.whole t.id (TaskMap.has_iff.mpr ⟨t, ht.stored⟩)
      rcases h.mem_named_iff.mp hnamed with hread | hcreated
      · rw [ht.unread] at hread
        cases hread
      · exact ht.uncreated hcreated
  · rintro ⟨hwrites, hreads, hseen⟩
    refine ⟨fun t ht => TaskMap.get?_eq_none_iff.mpr (hwrites.creates t ht), fun t ht => ?_,
      fun p hp => ?_, fun p hp => ?_, fun hwhole id hid => h.mem_named_iff.mpr ?_⟩
    · exact isStale_eq_false_iff.mp (hwrites.replaced (t.id, t.version)
        (List.mem_append_left _ (List.mem_map_of_mem (f := fun t => (t.id, t.version)) ht)))
    · exact isStale_eq_false_iff.mp (hwrites.replaced p (List.mem_append_right _ hp))
    · -- a read task with another version is a stale read that is not overlooked
      obtain ⟨s, hread, hunwritten, rfl⟩ := mem_reads_between.mp hp
      by_contra hne
      exact hreads ⟨s, (staleRead_iff hread hunwritten).mpr hne⟩
    · obtain ⟨t, ht⟩ := TaskMap.has_iff.mp hid
      obtain rfl := TaskMap.id_of_get? ht
      by_contra hnone
      rw [not_or, Bool.not_eq_true] at hnone
      exact hseen ⟨t, hwhole, ht, hnone.1, hnone.2⟩

theorem keeps_prepare (h : ((prepare title start actions).run memory false earlier).1 = .ok tx) :
    tx.Keeps :=
  (run_prepare (fun _ h => h.keeps) fun _ _ _ _ hkeeps hstep => hstep.keeps hkeeps).2 tx h

/-- **When the batch of a stale transaction is refused.**  Tasks of one store are read and changed in a
transaction, whose batch is then offered to any store.  It is refused, and the store left alone, iff
the writes do not fit; or a task that was read and is not written is gone or has another version,
unless it is gone and had version 0; or the transaction is over the whole store, which holds a task
that was neither read nor is created. -/
theorem stale_refused_iff (h : ((prepare title start actions).run memory false earlier).1 = .ok tx)
    (store : TaskMap) :
    (∃ e, memory.perform false (.commit tx.changeSet) store = (.error e, store)) ↔
      ¬ tx.changeSet.FitsWrites store ∨
      (∃ s, tx.StaleRead store s ∧ (s.version ≠ 0 ∨ store.has s.id = true)) ∨
      ∃ t, tx.Unseen store t := by
  have hnd : tx.changeSet.named.Nodup := nodup_named_between
  rw [memory_commit_refused_iff hnd, (keeps_prepare h).fits_iff, not_and_or, not_and_or, not_not,
    not_not]

namespace Sample

/-- A task that was never written by the store. -/
def unwritten : Task := { plain dig with version := 0 }

/-- One task is read, and another is named. -/
def reading : List Action := [.modify pour naming]

/-- The second task alone. -/
def left : TaskMap := .ofList [plain pour]

end Sample

/-- A task is read in version 0 and then goes away: the batch is accepted all the same.  In another
version the task would have been missed. -/
theorem accepted_without_read :
    (∃ tx, ((prepare "" (.named [Sample.dig, Sample.pour]) Sample.reading).run memory false
          (.ofList [Sample.unwritten, Sample.plain Sample.pour])).1 = .ok tx ∧
        tx.StaleRead Sample.left Sample.unwritten ∧
        ¬ ∃ e, memory.perform false (.commit tx.changeSet) Sample.left = (.error e, Sample.left)) ∧
      ∃ tx, ((prepare "" (.named [Sample.dig, Sample.pour]) Sample.reading).run memory false
          (.ofList [Sample.plain Sample.dig, Sample.plain Sample.pour])).1 = .ok tx ∧
        ∃ e, memory.perform false (.commit tx.changeSet) Sample.left = (.error e, Sample.left) := by
  have hgone : Sample.left.get? Sample.dig = none := by decide
  have hstale : ∀ s : Task, s.id = Sample.dig → ∀ t, Sample.left.get? s.id = some t →
      t.version ≠ s.version := by
    intro s hs t ht
    rw [hs, hgone] at ht
    cases ht
  constructor
  · obtain ⟨tx, htx, hread, hunwritten, hlist, hnamed, hcreates, hreplaced, hpart⟩ : ∃ tx,
        ((prepare "" (.named [Sample.dig, Sample.pour]) Sample.reading).run memory false
          (.ofList [Sample.unwritten, Sample.plain Sample.pour])).1 = .ok tx ∧
        tx.original.get? Sample.dig = some Sample.unwritten ∧
        tx.tasks.holds Sample.unwritten = true ∧
        tx.original.toList = [Sample.unwritten, Sample.plain Sample.pour] ∧
        tx.tasks.holds (Sample.plain Sample.pour) = false ∧
        tx.changeSet.creates = [] ∧ tx.changeSet.replaced = [(Sample.pour, 3)] ∧
        tx.wholeStore = false := ⟨_, rfl, rfl, rfl, rfl, rfl, rfl, rfl, rfl⟩
    refine ⟨tx, htx, ⟨hread, hunwritten, hstale _ rfl⟩, ?_⟩
    rw [stale_refused_iff htx]
    rintro (hwrites | ⟨s, hs, hseen⟩ | ⟨t, ht⟩)
    · refine hwrites ⟨?_, ?_⟩
      · rw [hcreates]
        exact fun t ht => absurd ht List.not_mem_nil
      · rw [hreplaced]
        decide
    · have hmem := TaskMap.mem_of_get? hs.read
      rw [hlist, List.mem_pair] at hmem
      rcases hmem with rfl | rfl
      · revert hseen
        decide
      · cases hs.unwritten.symm.trans hnamed
    · have hwhole := ht.whole
      rw [hpart] at hwhole
      cases hwhole
  · obtain ⟨tx, htx, hread, hunwritten⟩ : ∃ tx,
        ((prepare "" (.named [Sample.dig, Sample.pour]) Sample.reading).run memory false
          (.ofList [Sample.plain Sample.dig, Sample.plain Sample.pour])).1 = .ok tx ∧
        tx.original.get? Sample.dig = some (Sample.plain Sample.dig) ∧
        tx.tasks.holds (Sample.plain Sample.dig) = true := ⟨_, rfl, rfl, rfl⟩
    refine ⟨tx, htx, ?_⟩
    rw [stale_refused_iff htx]
    exact .inr (.inl ⟨Sample.plain Sample.dig, ⟨hread, hunwritten, hstale _ rfl⟩, .inl (by decide)⟩)

end Transaction

end TaskPipeline
