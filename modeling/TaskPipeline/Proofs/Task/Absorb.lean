import TaskPipeline.Engine.Structure
import TaskPipeline.Proofs.Catalog
import TaskPipeline.Proofs.Task.Points

/-!
# What is left of two tasks

A task that absorbs another keeps the work of both.  `Task.Unites` says what that means: points,
intervals, history, tags and due time of the task that remains are made up of those of the two, and
nothing is lost but the losing side of tags with one name.
-/

namespace TaskPipeline

/-- The same stretch of work, ended now if it went on. -/
structure WorkInterval.Ended (now : Instant) (i i' : WorkInterval) : Prop where
  start : i'.start = i.start
  completed : i'.completed = i.completed
  stop : i'.stop = some (i.stop.getD now)

theorem WorkInterval.ended_closeIfOpen (now : Instant) (i : WorkInterval) :
    i.Ended now (i.closeIfOpen now) := by
  obtain ⟨start, stop, completed⟩ := i
  cases stop <;> exact ⟨rfl, rfl, rfl⟩

theorem WorkInterval.isOpen_closeIfOpen (i : WorkInterval) (now : Instant) :
    (i.closeIfOpen now).isOpen = false := by
  unfold isOpen
  rw [(ended_closeIfOpen now i).stop]
  rfl

/-- A tag that is put in unless there is one of its name. -/
theorem Tags.find?_keep (tags : Tags) (tag : Tag) (key : String) :
    Catalog.find? (if !tags.contains tag.key then tags.insert tag else tags) key =
      (tags.find? key).or (if tag.key = key then some tag else none) := by
  have hknown : tags.contains tag.key = (tags.find? tag.key).isSome := rfl
  have hinsert : (tags.insert tag).find? key = if tag.key = key then some tag else tags.find? key :=
    Catalog.find?_insert tags tag key
  by_cases hkey : tag.key = key
  · subst hkey
    cases hfound : tags.find? tag.key <;> simp [hknown, hfound, hinsert]
  · rw [if_neg hkey, Option.or_none]
    split
    · rw [hinsert, if_neg hkey]
    · rfl

/-- **The tags of a merge**: those of both sides, and where both have a name, the tag of the side
that wins. -/
theorem Tags.find?_merge (tags added : Tags) (overwrite : Bool) (key : String) :
    (tags.merge added overwrite).find? key =
      if overwrite then (added.find? key).or (tags.find? key)
      else (tags.find? key).or (added.find? key) := by
  cases overwrite with
  | true =>
    -- all of them are put in, one after the other
    have hall : tags.merge added true = tags.insertAll added.toList := rfl
    have hfound := Catalog.find?_ofList added.toList key
    rw [Catalog.ofList_toList] at hfound
    rw [hall, Catalog.find?_insertAll, ← hfound, if_pos rfl]
  | false =>
    rw [if_neg Bool.false_ne_true]
    unfold merge
    show _ = (tags.find? key).or (added.toList.find? fun tag => Keyed.key tag == key)
    -- tag by tag: the tags gathered so far are general
    generalize added.toList = more
    induction more generalizing tags with
    | nil => simp
    | cons tag more ih =>
      rw [List.foldl_cons, ih, Bool.false_or, find?_keep, Option.or_assoc]
      congr 1
      by_cases hkey : tag.key = key <;> simp [Keyed.key, hkey]

namespace Task

/-- What a merge makes of the work of two tasks: `t'` is left of `t`, which has absorbed `s`. -/
structure Unites (t s : Task) (now : Instant) (collision : TagCollision) (t' : Task) : Prop where
  /-- What either of them declared is declared. -/
  totalPoints : t'.totalPoints = t.totalPoints + s.totalPoints
  /-- What was completed in either of them is completed. -/
  completedPoints : t'.completedPoints = t.completedPoints + s.completedPoints
  /-- The work on the one is as it was, and the work on the other follows; none of it goes on. -/
  intervals : ∃ ended, t'.schedule.intervals = t.schedule.intervals ++ ended ∧
    List.Forall₂ (WorkInterval.Ended now) s.schedule.intervals ended
  /-- The histories follow each other, and the merge is noted. -/
  history : t'.history = t.history ++ s.history ++ [⟨now, "Merged with task " ++ s.id.text⟩]
  /-- The tags of both are there, and the policy says which of two tags with one name. -/
  tags : ∀ key, t'.tags.find? key =
    match collision with
    | .keepDestination => (t.tags.find? key).or (s.tags.find? key)
    | .takeSource => (s.tags.find? key).or (t.tags.find? key)
  /-- The due time of the other stands in for one that is missing. -/
  due : t'.schedule.due = t.schedule.due.or s.schedule.due

theorem unites_absorb (t s : Task) (now : Instant) (collision : TagCollision) :
    t.Unites s now collision (t.absorb s now collision) where
  totalPoints := pointSum_append t.points s.points
  completedPoints := by
    have hcompleted : (t.absorb s now collision).schedule.completed =
        t.schedule.completed ++ s.schedule.completed := by
      show (t.schedule.intervals ++ s.schedule.intervals.map (·.closeIfOpen now)).flatMap _ = _
      rw [List.flatMap_append, List.flatMap_map]
      simp only [(WorkInterval.ended_closeIfOpen now _).completed]
      rfl
    rw [completedPoints_eq, completedPoints_eq, completedPoints_eq, hcompleted, pointSum_append]
  intervals := ⟨s.schedule.intervals.map (·.closeIfOpen now), rfl,
    List.forall₂_map_right_iff.mpr (List.forall₂_same.mpr fun i _ => i.ended_closeIfOpen now)⟩
  history := rfl
  tags key := by
    show (Tags.merge t.tags s.tags (collision = .takeSource)).find? key = _
    rw [Tags.find?_merge]
    cases collision <;> rfl
  due := by
    show (if t.schedule.due.isSome then t.schedule.due else s.schedule.due) = _
    cases t.schedule.due <;> rfl

end Task

end TaskPipeline
