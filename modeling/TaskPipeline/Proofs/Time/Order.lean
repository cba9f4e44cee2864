import TaskPipeline.Time.Instant

/-!
# Dates and instants in order

A date that comes before another has a smaller day number (`Date.dayNumber_lt_of_compare`).  An
instant that comes before another is not a whole day after it, leap seconds or not, so the days
until it are none or negative (`Instant.daysUntil_nonpos_of_compare`).  They are not negative either
while less than a day has passed since (`Instant.daysUntil_nonneg_iff`).
-/

namespace TaskPipeline

namespace Date

variable {a b : Date} {year : Int} {month later : Nat}

/-- The days of a month come after those of the months before it. -/
theorem daysBeforeMonth_succ (h : 1 ≤ month) : daysBeforeMonth year (month + 1) =
    daysBeforeMonth year month + daysInMonth year month := by
  obtain ⟨m, rfl⟩ : ∃ m, month = m + 1 := ⟨month - 1, by omega⟩
  unfold daysBeforeMonth
  rw [Nat.add_sub_cancel, Nat.add_sub_cancel, List.range_succ, List.foldl_append]
  rfl

theorem daysBeforeMonth_add_le (h : 1 ≤ month) (hlater : month < later) :
    daysBeforeMonth year month + daysInMonth year month ≤ daysBeforeMonth year later := by
  induction hlater with
  | refl => exact Nat.le_of_eq (daysBeforeMonth_succ h).symm
  | @step later hlater ih =>
    rw [daysBeforeMonth_succ (Nat.le_trans h (Nat.le_of_lt hlater))]
    exact Nat.le_add_right_of_le ih

/-- The twelve months make up the year. -/
theorem daysBeforeMonth_thirteen (year : Int) :
    daysBeforeYear year + daysBeforeMonth year 13 = daysBeforeYear (year + 1) := by
  have hmonths : daysBeforeMonth year 13 = 365 + if isLeapYear year then 1 else 0 := by
    unfold daysBeforeMonth daysInMonth
    cases isLeapYear year <;> rfl
  rw [hmonths]
  unfold daysBeforeYear isLeapYear
  simp only [Bool.and_eq_true, Bool.or_eq_true, bne_iff_ne, beq_iff_eq]
  split <;> omega

theorem daysBeforeYear_mono {later : Int} (h : year ≤ later) :
    daysBeforeYear year ≤ daysBeforeYear later := by
  unfold daysBeforeYear
  dsimp only
  omega

/-- **Day numbers are in the order of the dates.** -/
theorem dayNumber_lt_of_compare (h : a.compare b = .lt) : a.dayNumber < b.dayNumber := by
  obtain ⟨-, -, hmonth, hlast, hday, hdays⟩ := a.valid
  obtain ⟨-, -, -, -, hday', -⟩ := b.valid
  unfold dayNumber
  rcases Ordering.then_eq_lt.mp h with hyear | ⟨hyear, hrest⟩
  · -- what is left of the earlier year comes before the later one
    have hyears := daysBeforeYear_mono (Int.compare_eq_lt.mp hyear)
    have hmonths : daysBeforeMonth a.year a.month + daysInMonth a.year a.month ≤
        daysBeforeMonth a.year 13 := daysBeforeMonth_add_le hmonth (Nat.lt_succ_of_le hlast)
    have hwhole := daysBeforeMonth_thirteen a.year
    omega
  · rw [← Int.compare_eq_eq.mp hyear]
    rcases Ordering.then_eq_lt.mp hrest with hmonths | ⟨hmonths, hdate⟩
    · have hless : daysBeforeMonth a.year a.month + daysInMonth a.year a.month ≤ _ :=
        daysBeforeMonth_add_le hmonth (Nat.compare_eq_lt.mp hmonths)
      omega
    · rw [← Nat.compare_eq_eq.mp hmonths]
      have hless := Nat.compare_eq_lt.mp hdate
      omega

theorem eq_of_compare (h : a.compare b = .eq) : a = b := by
  obtain ⟨hyear, hrest⟩ := Ordering.then_eq_eq.mp h
  obtain ⟨hmonth, hday⟩ := Ordering.then_eq_eq.mp hrest
  rw [Int.compare_eq_eq] at hyear
  rw [Nat.compare_eq_eq] at hmonth hday
  cases a
  cases b
  cases hyear
  cases hmonth
  cases hday
  rfl

end Date

namespace Instant

variable {due now : Instant}

/-- The days until an instant that is over are the whole days since, counted negatively. -/
theorem daysUntil_of_nonpos (h : due.since now ≤ 0) :
    due.daysUntil now = -(-due.since now / nanosPerDay) := by
  unfold daysUntil
  rw [← Int.tdiv_eq_ediv_of_nonneg (Int.neg_nonneg_of_nonpos h), Int.neg_tdiv, Int.neg_neg]

theorem daysUntil_of_nonneg (h : 0 ≤ due.since now) :
    due.daysUntil now = due.since now / nanosPerDay := Int.tdiv_eq_ediv_of_nonneg h

/-- Less than a day after an instant there are no days until it, and from a day on they are
negative. -/
theorem daysUntil_nonneg_iff : 0 ≤ due.daysUntil now ↔ -nanosPerDay < due.since now := by
  rcases Int.le_total 0 (due.since now) with hahead | hpast
  · rw [daysUntil_of_nonneg hahead]
    unfold nanosPerDay nanosPerSecond
    omega
  · rw [daysUntil_of_nonpos hpast]
    unfold nanosPerDay nanosPerSecond
    omega

/-- An instant that comes before another is less than a day after it.  A leap second may put it up
to two seconds after it. -/
theorem since_lt_of_compare (h : due.compare now = .lt) : due.since now < nanosPerDay := by
  have hsecond := due.second_lt
  have hnano := due.nano_lt
  have hsecond' := now.second_lt
  have hnano' := now.nano_lt
  unfold since nanosPerDay nanosPerSecond
  dsimp only
  rcases Ordering.then_eq_lt.mp h with hdate | ⟨hdate, hclock⟩
  · have hday := Date.dayNumber_lt_of_compare hdate
    split <;> omega
  · have hday : due.date.dayNumber = now.date.dayNumber := by
      rw [Date.eq_of_compare hdate]
    have hle : due.second ≤ now.second := by
      rcases Ordering.then_eq_lt.mp hclock with hless | ⟨hsame, -⟩
      · exact Nat.le_of_lt (Nat.compare_eq_lt.mp hless)
      · exact Nat.le_of_eq (Nat.compare_eq_eq.mp hsame)
    split <;> omega

/-- **An instant that is over is not days ahead.** -/
theorem daysUntil_nonpos_of_compare (h : due.compare now = .lt) : due.daysUntil now ≤ 0 := by
  have hless := since_lt_of_compare h
  unfold nanosPerDay nanosPerSecond at hless
  rcases Int.le_total 0 (due.since now) with hahead | hpast
  · rw [daysUntil_of_nonneg hahead]
    unfold nanosPerDay nanosPerSecond
    omega
  · rw [daysUntil_of_nonpos hpast]
    unfold nanosPerDay nanosPerSecond
    omega

end Instant

end TaskPipeline
