import Mathlib.Logic.Relation
import TaskPipeline.Proofs.Store.Repository

/-!
# Shared stores

A store that several writers share: its tasks, and the identifiers of the tasks that were deleted,
which are not used again.  `Shared.Later` relates the store to what it is after any commits by
anyone.

If every task was written through a commit, so that its version is at least 1, then an identifier
and a version determine a task: one that was stored once is still there, or there in a later
version, or deleted for good (`Shared.Knows`).  So a batch that is accepted was computed from
tasks that are up to date, however long ago they were read (`Shared.upToDate_of_admits`).
-/

namespace TaskPipeline

open Relation

/-- A store that several writers share. -/
structure Shared where
  /-- The tasks. -/
  tasks : TaskMap
  /-- The identifiers of deleted tasks. -/
  retired : List TaskId

namespace Shared

variable {shared later : Shared} {changes : ChangeSet} {t : Task} {id : TaskId}

/-- The store accepts a batch, and the batch uses no identifier of a deleted task again. -/
structure Admits (shared : Shared) (changes : ChangeSet) : Prop where
  /-- The batch passes the check. -/
  check : changes.check shared.tasks = .ok ()
  /-- What is created has a new identifier. -/
  isNew : ∀ t ∈ changes.creates, t.id ∉ shared.retired

/-- The store after a batch. -/
def commit (shared : Shared) (changes : ChangeSet) : Shared :=
  ⟨changes.write shared.tasks, changes.deletes.map (·.1) ++ shared.retired⟩

/-- Someone commits a batch. -/
def Commits (before after : Shared) : Prop :=
  ∃ changes, before.Admits changes ∧ after = before.commit changes

/-- The store after any number of commits. -/
def Later : Shared → Shared → Prop := ReflTransGen Commits

/-- Every task was written through a commit. -/
def Versioned (shared : Shared) : Prop :=
  ∀ id t, shared.tasks.get? id = some t → 1 ≤ t.version

/-- The task is stored or was stored once. -/
inductive Knows (shared : Shared) (t : Task) : Prop where
  /-- The task is stored. -/
  | current (h : shared.tasks.get? t.id = some t)
  /-- It has been written since. -/
  | revised {u : Task} (h : shared.tasks.get? t.id = some u) (hv : t.version < u.version)
  /-- It has been deleted since. -/
  | deleted (h : shared.tasks.get? t.id = none) (hr : t.id ∈ shared.retired)

/-! ### Commits -/

/-- What stands under an identifier after a commit: nothing if it was deleted, a task that was
created or updated, or what stood there before. -/
theorem get?_commit (h : shared.Admits changes) (id : TaskId) :
    ((shared.commit changes).tasks.get? id = none ∧ id ∈ (shared.commit changes).retired) ∨
    (∃ u : Task, (shared.commit changes).tasks.get? id = some { u with version := 1 } ∧ u.id = id ∧
      shared.tasks.get? id = none ∧ id ∉ shared.retired) ∨
    (∃ u s : Task,
      (shared.commit changes).tasks.get? id = some { u with version := s.version + 1 } ∧
      u.id = id ∧ shared.tasks.get? id = some s) ∨
    (shared.commit changes).tasks.get? id = shared.tasks.get? id := by
  have hfits := ChangeSet.Fits.of_check h.check
  unfold commit
  dsimp only
  unfold ChangeSet.write
  rw [TaskMap.get?_removeAll]
  split
  · next hdeleted => exact .inl ⟨rfl, List.mem_append_left _ hdeleted⟩
  · rcases TaskMap.get?_insertAll shared.tasks changes.written id with
      ⟨w, hw, hid, hget⟩ | ⟨-, hget⟩
    · rw [hget]
      unfold ChangeSet.written at hw
      rcases List.mem_append.mp hw with hw | hw
      · obtain ⟨u, hu, rfl⟩ := List.mem_map.mp hw
        obtain rfl : u.id = id := hid
        exact .inr (.inl ⟨u, rfl, rfl, hfits.creates u hu, h.isNew u hu⟩)
      · obtain ⟨u, hu, rfl⟩ := List.mem_map.mp hw
        obtain rfl : u.id = id := hid
        obtain ⟨s, hs, hv⟩ := hfits.updates u hu
        exact .inr (.inr (.inl ⟨u, s, by rw [hv], rfl, hs⟩))
    · exact .inr (.inr (.inr hget))

theorem mem_retired_commit (h : id ∈ shared.retired) : id ∈ (shared.commit changes).retired :=
  List.mem_append_right _ h

theorem Versioned.commit (h : shared.Versioned) (hadmits : shared.Admits changes) :
    (shared.commit changes).Versioned := by
  intro id t ht
  rcases get?_commit hadmits id with ⟨hnone, -⟩ | ⟨u, hu, -⟩ | ⟨u, s, hu, -⟩ | hsame
  · rw [hnone] at ht
    cases ht
  · rw [hu] at ht
    cases ht
    exact Nat.le_refl 1
  · rw [hu] at ht
    cases ht
    exact Nat.le_add_left 1 _
  · exact h id t (hsame ▸ ht)

/-- **What was stored once stays known.** -/
theorem Knows.commit (h : shared.Knows t) (hadmits : shared.Admits changes) :
    (shared.commit changes).Knows t := by
  rcases get?_commit hadmits t.id with ⟨hnone, hretired⟩ | ⟨u, hu, -, hnone, hnew⟩ |
    ⟨u, s, hu, -, hs⟩ | hsame
  · exact .deleted hnone hretired
  · cases h with
    | current h => rw [h] at hnone; cases hnone
    | revised h _ => rw [h] at hnone; cases hnone
    | deleted _ hr => exact absurd hr hnew
  · cases h with
    | current h =>
      rw [h] at hs
      cases hs
      exact .revised hu (Nat.lt_succ_self _)
    | revised h hv =>
      rw [h] at hs
      cases hs
      exact .revised hu (Nat.lt_succ_of_lt hv)
    | deleted h _ => rw [h] at hs; cases hs
  · cases h with
    | current h => exact .current (hsame.trans h)
    | revised h hv => exact .revised (hsame.trans h) hv
    | deleted h hr => exact .deleted (hsame.trans h) (mem_retired_commit hr)

theorem Later.refl (shared : Shared) : shared.Later shared := ReflTransGen.refl

theorem Later.trans {latest : Shared} (h : shared.Later later) (h' : later.Later latest) :
    shared.Later latest := ReflTransGen.trans h h'

theorem Later.of_admits (h : shared.Admits changes) : shared.Later (shared.commit changes) :=
  ReflTransGen.single ⟨changes, h, rfl⟩

theorem Later.versioned (h : shared.Later later) (hv : shared.Versioned) : later.Versioned := by
  induction h with
  | refl => exact hv
  | tail _ hcommit ih =>
    obtain ⟨changes, hadmits, rfl⟩ := hcommit
    exact ih.commit hadmits

theorem Later.knows (h : shared.Later later) (ht : shared.Knows t) : later.Knows t := by
  induction h with
  | refl => exact ht
  | tail _ hcommit ih =>
    obtain ⟨changes, hadmits, rfl⟩ := hcommit
    exact ih.commit hadmits

/-- **Identifier and version determine a task** that was stored once.  Only if it has no version can
it be gone, since what is gone counts as version 0. -/
theorem Knows.get?_of_version (h : shared.Knows t)
    (hversion : ChangeSet.versionOf shared.tasks t.id = t.version) :
    shared.tasks.get? t.id = some t ∨ shared.tasks.get? t.id = none ∧ t.version = 0 := by
  cases h with
  | current h => exact .inl h
  | revised h hlt =>
    rw [ChangeSet.versionOf_of_get? h] at hversion
    omega
  | deleted h _ =>
    refine .inr ⟨h, ?_⟩
    unfold ChangeSet.versionOf at hversion
    rw [h] at hversion
    exact hversion.symm

/-! ### What an accepted batch was computed from -/

/-- Every task that is stored, now or later, has the property. -/
def Always (p : Task → Prop) (shared : Shared) : Prop :=
  ∀ later, shared.Later later → ∀ id t, later.tasks.get? id = some t → p t

/-- Every task that was read was stored at some time, and has the property. -/
def Saw (p : Task → Prop) (shared : Shared) (before : TaskMap) : Prop :=
  ∀ id t, before.get? id = some t → shared.Knows t ∧ p t

/-- Every task that was read was stored at some time, written through a commit. -/
def Read (shared : Shared) (before : TaskMap) : Prop :=
  ∀ id t, before.get? id = some t → shared.Knows t ∧ 1 ≤ t.version

variable {p : Task → Prop} {before after : TaskMap} {ids : List TaskId} {ts : List Task}

theorem Versioned.always (h : shared.Versioned) : shared.Always (1 ≤ ·.version) :=
  fun _ hlater => hlater.versioned h

theorem Always.transfer (h : shared.Always p) (hlater : shared.Later later) : later.Always p :=
  fun latest hlatest => h latest (hlater.trans hlatest)

theorem Saw.transfer (h : shared.Saw p before) (hlater : shared.Later later) :
    later.Saw p before := fun id t ht => ⟨hlater.knows (h id t ht).1, (h id t ht).2⟩

/-- What the store holds can be read. -/
theorem Saw.tasks (hall : shared.Always p) : shared.Saw p shared.tasks := by
  intro id t ht
  exact ⟨.current (TaskMap.id_of_get? ht ▸ ht), hall _ (.refl _) id t ht⟩

/-- Reading more tasks. -/
theorem Saw.insertAll (h : shared.Saw p before) (hall : shared.Always p)
    (hts : shared.tasks.requireAll ids = .ok ts) : shared.Saw p (before.insertAll ts) := by
  intro id t ht
  rcases TaskMap.get?_insertAll before ts id with ⟨u, hu, -, hget⟩ | ⟨-, hget⟩
  · rw [hget] at ht
    obtain rfl := Option.some.inj ht
    have hs := TaskMap.get?_of_requireAll hts hu
    exact ⟨.current hs, hall _ (.refl _) _ _ hs⟩
  · exact h id t (hget ▸ ht)

theorem Saw.ofList (hall : shared.Always p) (hts : shared.tasks.requireAll ids = .ok ts) :
    shared.Saw p (.ofList ts) :=
  Saw.insertAll (fun _ _ h => nomatch h) hall hts

variable {created : List TaskId} {whole : Bool}

/-- What is created was never stored. -/
theorem Admits.not_knows (h : shared.Admits changes) {u : Task} (hu : u ∈ changes.creates)
    (hid : t.id = u.id) : ¬ shared.Knows t := by
  have hnone := (ChangeSet.Fits.of_check h.check).creates u hu
  have hnew := h.isNew u hu
  rw [← hid] at hnone hnew
  intro hknows
  cases hknows with
  | current hs => rw [hs] at hnone; cases hnone
  | revised hs _ => rw [hs] at hnone; cases hnone
  | deleted _ hr => exact hnew hr

section

-- a wanted task that is not new has the version that was read
variable (hversion : ∀ id t', after.get? id = some t' → id ∉ created →
  ∃ t, before.get? id = some t ∧ t'.version = t.version)

include hversion

/-- **What an accepted batch was computed from is still there**: the batch names every task that was
read, with the version that it had.  Only a task without a version can be gone, since it looks like
one that never was. -/
theorem get?_or_gone_of_admits (hread : shared.Saw p before)
    (h : shared.Admits (ChangeSet.between before after created whole))
    (ht : before.get? id = some t) :
    shared.tasks.get? id = some t ∨ shared.tasks.get? id = none ∧ t.version = 0 := by
  have hfits := ChangeSet.Fits.of_check h.check
  obtain rfl := TaskMap.id_of_get? ht
  have hknows := (hread t.id t ht).1
  refine hknows.get?_of_version ?_
  -- what the batch does with the task says where its version is checked
  cases hafter : after.get? t.id with
  | none =>
    obtain ⟨s, hs, hsv⟩ := hfits.deletes (t.id, t.version)
      (ChangeSet.mem_deletes_between.mpr ⟨t, ht, TaskMap.get?_eq_none_iff.mp hafter, rfl⟩)
    exact (ChangeSet.versionOf_of_get? hs).trans hsv
  | some u =>
    have huid := TaskMap.id_of_get? hafter
    by_cases hcreated : t.id ∈ created
    · have hmem : u ∈ (ChangeSet.between before after created whole).creates :=
        ChangeSet.mem_creates_between.mpr (huid ▸ ⟨hafter, hcreated⟩)
      exact absurd hknows (h.not_knows hmem huid.symm)
    · rw [← huid] at hafter hcreated
      have hcomm := TaskMap.holds_comm (huid ▸ ht) hafter
      cases hholds : before.holds u with
      | true =>
        exact hfits.reads _ (ChangeSet.mem_reads_between.mpr ⟨t, ht, hcomm.trans hholds, rfl⟩)
      | false =>
        have hmem : u ∈ (ChangeSet.between before after created whole).updates :=
          ChangeSet.mem_updates_between.mpr ⟨hafter, hcreated, hholds⟩
        obtain ⟨s, hs, hsv⟩ := hfits.updates u hmem
        obtain ⟨t₀, ht₀, huv⟩ := hversion u.id u hafter hcreated
        rw [huid, ht] at ht₀
        cases ht₀
        rw [huid] at hs
        exact (ChangeSet.versionOf_of_get? hs).trans (hsv.trans huv)

/-- **What an accepted batch was computed from is up to date** if every task has a version. -/
theorem upToDate_of_admits (hread : shared.Read before)
    (h : shared.Admits (ChangeSet.between before after created whole)) :
    ChangeSet.UpToDate before shared.tasks := by
  intro id t ht
  rcases get?_or_gone_of_admits hversion hread h ht with hs | ⟨-, hv⟩
  · exact hs
  · have hle := (hread id t ht).2
    omega

/-- A batch over the whole store names every stored task, so all of them had been read. -/
theorem has_of_admits_whole (h : shared.Admits (ChangeSet.between before after created true))
    (hid : shared.tasks.has id = true) : before.has id = true := by
  have hfits := ChangeSet.Fits.of_check h.check
  rcases hfits.whole rfl id hid with hr | hc | hu | hd
  · obtain ⟨p, hp, rfl⟩ := List.mem_map.mp hr
    obtain ⟨t, ht, -, rfl⟩ := ChangeSet.mem_reads_between.mp hp
    exact TaskMap.has_iff.mpr ⟨t, ht⟩
  · obtain ⟨u, hmem, rfl⟩ := List.mem_map.mp hc
    rw [TaskMap.get?_eq_none_iff.mp (hfits.creates u hmem)] at hid
    cases hid
  · obtain ⟨u, hmem, rfl⟩ := List.mem_map.mp hu
    obtain ⟨hafter, hcreated, -⟩ := ChangeSet.mem_updates_between.mp hmem
    obtain ⟨t, ht, -⟩ := hversion u.id u hafter hcreated
    exact TaskMap.has_iff.mpr ⟨t, ht⟩
  · exact (ChangeSet.mem_map_deletes_between.mp hd).1

/-- **An accepted batch over the whole store was computed from all of it.** -/
theorem get?_of_admits_whole (hread : shared.Saw p before)
    (h : shared.Admits (ChangeSet.between before after created true))
    (ht : shared.tasks.get? id = some t) : before.get? id = some t := by
  obtain ⟨u, hu⟩ := TaskMap.has_iff.mp
    (has_of_admits_whole hversion h (TaskMap.has_iff.mpr ⟨t, ht⟩))
  rcases get?_or_gone_of_admits hversion hread h hu with hs | ⟨hs, -⟩
  · rw [ht] at hs
    rw [hu, hs]
  · rw [ht] at hs
    cases hs

/-- An accepted batch over the whole store was computed from it if every task has a version. -/
theorem eq_tasks_of_admits (hup : ChangeSet.UpToDate before shared.tasks)
    (h : shared.Admits (ChangeSet.between before after created true)) : before = shared.tasks := by
  refine TaskMap.ext_get? fun id => ?_
  cases hb : before.get? id with
  | some t => exact (hup id t hb).symm
  | none =>
    refine (TaskMap.get?_eq_none_iff.mpr (Bool.eq_false_iff.mpr fun hhas => ?_)).symm
    have hread := has_of_admits_whole hversion h hhas
    rw [TaskMap.get?_eq_none_iff.mp hb] at hread
    cases hread

/-- **Where the tasks come from after an accepted batch**: a task was stored before, and what is wanted
under its identifier is the same as was read, or it is a wanted task with its new version; then what
was read under its identifier is what was stored. -/
theorem get?_write_of_admits (hread : shared.Saw p before)
    (h : shared.Admits (ChangeSet.between before after created whole))
    (ht : ((ChangeSet.between before after created whole).write shared.tasks).get? id = some t) :
    (shared.tasks.get? id = some t ∧
        ∀ s, before.get? id = some s → ∃ u, after.get? id = some u ∧ s.same u = true) ∨
      ∃ u, after.get? id = some u ∧ t = ChangeSet.versioned before created u ∧
        ∀ b, before.get? id = some b → shared.tasks.get? id = some b := by
  have hfits := ChangeSet.Fits.of_check h.check
  rw [ChangeSet.get?_write_between] at ht
  cases hafter : after.get? id with
  | none =>
    rw [hafter] at ht
    dsimp only at ht
    split at ht
    · cases ht
    · next hno =>
      exact .inl ⟨ht, fun s hs => absurd (TaskMap.has_iff.mpr ⟨s, hs⟩) hno⟩
  | some u =>
    rw [hafter] at ht
    dsimp only at ht
    obtain rfl := TaskMap.id_of_get? hafter
    split at ht
    · next hkept =>
      refine .inl ⟨ht, fun s hs => ⟨u, rfl, ?_⟩⟩
      rw [← TaskMap.holds_eq hs, hkept.2]
    · next hchanged =>
      refine .inr ⟨u, rfl, (Option.some.inj ht).symm, fun b hb => ?_⟩
      by_cases hcreated : u.id ∈ created
      · -- nothing can have been read under a new identifier
        exact absurd (hread _ b hb).1
          (h.not_knows (ChangeSet.mem_creates_between.mpr ⟨hafter, hcreated⟩)
            (TaskMap.id_of_get? hb))
      · have hmem : u ∈ (ChangeSet.between before after created whole).updates :=
          ChangeSet.mem_updates_between.mpr
            ⟨hafter, hcreated, Bool.eq_false_iff.mpr fun hholds => hchanged ⟨hcreated, hholds⟩⟩
        obtain ⟨s, hs, -⟩ := hfits.updates u hmem
        rcases get?_or_gone_of_admits hversion hread h hb with hsame | ⟨hnone, -⟩
        · exact hsame
        · rw [hs] at hnone
          cases hnone

end

end Shared

end TaskPipeline
