import Mathlib.Algebra.BigOperators.Group.Finset.Piecewise
import Mathlib.Algebra.Order.BigOperators.Group.Finset
import TaskPipeline.Task.Points

/-!
# Accounting for points

The points of a list add up to the sums under its titles (`pointSum_eq_sum`), so a list that has
at least as much as another under each title has at least as much in all
(`pointSum_le_of_titleSum_le`).

What `uncovered` leaves of a title is what was declared under it minus the credit
(`titleSum_uncovered`).
-/

namespace TaskPipeline

variable {points more : List Point} {title : String}

/-! ### Sums -/

theorem pointSum_cons (p : Point) (points : List Point) :
    pointSum (p :: points) = p.value.toNat + pointSum points := rfl

theorem pointSum_append (points more : List Point) :
    pointSum (points ++ more) = pointSum points + pointSum more := by
  induction points with
  | nil => exact (Nat.zero_add _).symm
  | cons p points ih => rw [List.cons_append, pointSum_cons, pointSum_cons, ih, Nat.add_assoc]

theorem titleSum_cons (p : Point) (points : List Point) (title : String) :
    titleSum (p :: points) title =
      (if p.title = title then p.value.toNat else 0) + titleSum points title := by
  unfold titleSum
  by_cases h : p.title = title
  · rw [List.filter_cons_of_pos (by simpa using h), pointSum_cons, if_pos h]
  · rw [List.filter_cons_of_neg (by simpa using h), if_neg h, Nat.zero_add]

theorem titleSum_append (points more : List Point) (title : String) :
    titleSum (points ++ more) title = titleSum points title + titleSum more title := by
  unfold titleSum
  rw [List.filter_append, pointSum_append]

/-- **Points add up title by title.** -/
theorem pointSum_eq_sum {titles : Finset String} (h : ∀ p ∈ points, p.title ∈ titles) :
    pointSum points = ∑ title ∈ titles, titleSum points title := by
  induction points with
  | nil => exact (Finset.sum_eq_zero fun _ _ => rfl).symm
  | cons p points ih =>
    have hp : p.title ∈ titles := h p List.mem_cons_self
    have hrest := ih fun q hq => h q (List.mem_cons_of_mem _ hq)
    simp only [titleSum_cons, Finset.sum_add_distrib, Finset.sum_ite_eq, if_pos hp]
    rw [pointSum_cons, hrest]

/-- The titles of two lists and one more, by which both add up. -/
theorem exists_titles (points more : List Point) (title : String) : ∃ titles : Finset String,
    title ∈ titles ∧ pointSum points = ∑ title ∈ titles, titleSum points title ∧
      pointSum more = ∑ title ∈ titles, titleSum more title := by
  refine ⟨insert title ((points ++ more).map Point.title).toFinset, Finset.mem_insert_self _ _,
    pointSum_eq_sum fun p hp => ?_, pointSum_eq_sum fun p hp => ?_⟩
  · exact Finset.mem_insert_of_mem
      (List.mem_toFinset.mpr (List.mem_map_of_mem (List.mem_append_left _ hp)))
  · exact Finset.mem_insert_of_mem
      (List.mem_toFinset.mpr (List.mem_map_of_mem (List.mem_append_right _ hp)))

theorem pointSum_le_of_titleSum_le (h : ∀ title, titleSum points title ≤ titleSum more title) :
    pointSum points ≤ pointSum more := by
  obtain ⟨titles, -, hpoints, hmore⟩ := exists_titles points more ""
  rw [hpoints, hmore]
  exact Finset.sum_le_sum fun title _ => h title

/-- Where no title has less, the sums are the same only if they are so title by title. -/
theorem pointSum_eq_iff_of_titleSum_le (h : ∀ title, titleSum points title ≤ titleSum more title) :
    pointSum points = pointSum more ↔ ∀ title, titleSum points title = titleSum more title := by
  constructor
  · intro hsum title
    obtain ⟨titles, htitle, hpoints, hmore⟩ := exists_titles points more title
    rw [hpoints, hmore] at hsum
    exact (Finset.sum_eq_sum_iff_of_le fun title _ => h title).mp hsum title htitle
  · intro hsame
    exact Nat.le_antisymm (pointSum_le_of_titleSum_le h)
      (pointSum_le_of_titleSum_le fun title => (hsame title).ge)

/-! ### Credit -/

theorem Point.toNat_left (p : Point) (used : Nat) :
    (UInt32.ofNat (p.value.toNat - used)).toNat = p.value.toNat - used :=
  UInt32.toNat_ofNat_of_lt' (Nat.lt_of_le_of_lt (Nat.sub_le _ _) p.value.toNat_lt)

/-- **What is left of a title** is what was declared under it minus the credit. -/
theorem titleSum_uncovered (credit : String → Nat) (points : List Point) (title : String) :
    titleSum (uncovered credit points) title = titleSum points title - credit title := by
  -- along the declared points; each uses up some of the credit of its title
  induction points generalizing credit with
  | nil => exact (Nat.zero_sub _).symm
  | cons p points ih =>
    unfold uncovered
    dsimp only
    split
    · rw [titleSum_cons, ih, titleSum_cons, p.toNat_left]
      by_cases htitle : p.title = title
      · subst htitle
        rw [if_pos rfl, if_pos rfl, if_pos rfl]
        omega
      · rw [if_neg htitle, if_neg htitle, if_neg (Ne.symm htitle)]
        omega
    · next hcovered =>
      rw [ih, titleSum_cons]
      by_cases htitle : p.title = title
      · subst htitle
        rw [if_pos rfl, if_pos rfl]
        omega
      · rw [if_neg htitle, if_neg (Ne.symm htitle), Nat.zero_add]

/-- The interval that is closed is the last one, and only it changes. -/
theorem Schedule.closeInterval?_eq_some_iff {s s' : Schedule} {now : Instant} :
    s.closeInterval? now points = some s' ↔ ∃ work last, s.intervals = work ++ [last] ∧
      last.isOpen = true ∧ s' = { s with intervals := work ++ [last.close now points] } := by
  unfold closeInterval?
  rcases List.eq_nil_or_concat s.intervals with hnil | ⟨work, last, hwork⟩
  · simp [hnil]
  · rw [List.concat_eq_append] at hwork
    rw [hwork, List.getLast?_concat, List.dropLast_concat]
    dsimp only
    constructor
    · intro h
      split at h
      · next hopen =>
        cases h
        exact ⟨work, last, rfl, hopen, rfl⟩
      · cases h
    · rintro ⟨work', last', hsame, hopen, rfl⟩
      obtain ⟨rfl, rfl⟩ := List.append_singleton_inj.mp hsame
      rw [if_pos hopen]

namespace Task

variable {t : Task}

theorem completedPoints_eq (t : Task) : t.completedPoints = pointSum t.schedule.completed := by
  unfold completedPoints Schedule.completed
  induction t.schedule.intervals with
  | nil => rfl
  | cons i intervals ih =>
    rw [List.foldr_cons, List.flatMap_cons, pointSum_append, ih]
    rfl

/-- Closing an interval adds the points to the completed ones. -/
theorem completed_closeInterval {t' : Task} {now : Instant}
    (h : t.closeInterval? now points = some t') :
    t'.points = t.points ∧ t'.schedule.completed = t.schedule.completed ++ points := by
  unfold closeInterval? at h
  obtain ⟨s, hs, rfl⟩ := Option.map_eq_some_iff.mp h
  obtain ⟨work, last, hwork, -, rfl⟩ := Schedule.closeInterval?_eq_some_iff.mp hs
  refine ⟨rfl, ?_⟩
  -- only the last interval has changed, and it has got the points
  unfold Schedule.completed
  dsimp only
  rw [hwork, List.flatMap_append, List.flatMap_append, List.append_assoc]
  simp [WorkInterval.close]

end Task

end TaskPipeline
