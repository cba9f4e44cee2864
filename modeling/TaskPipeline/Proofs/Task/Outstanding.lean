import TaskPipeline.Proofs.Task.Points

/-!
# What is missing

What is outstanding of a task is, under each title, what was declared minus what was completed, and
no entry of it is empty (`Task.missing_outstanding`).  The walk along the declared points never
takes off more than there is (`uncovered?_eq_some`).

A task whose last interval is closed with that credit has nothing left to do.  It has completed as
many points as it declares, or more, if under some title more was completed before than was declared
(`Task.settles_closeInterval`): what is too much under one title does not count for another.
-/

namespace TaskPipeline

variable {credit : String → Nat} {points : List Point} {p : Point}

/-! ### The walk along the declared points -/

/-- A difference, unless it would be negative. -/
def difference? (a b : Nat) : Option Nat := if b ≤ a then some (a - b) else none

/-- A number, if it has 32 bits. -/
def fitting? (n : Nat) : Option Nat := if n < UInt32.size then some n else none

/-- `uncovered` with every subtraction checked.  What a declared point uses up is taken off the
credit of its title and off the point; if it does not fit into the type of the point, the value of
the point is taken instead. -/
def uncovered? (credit : String → Nat) : List Point → Option (List Point)
  | [] => some []
  | p :: ps => do
    let used := min (credit p.title) p.value.toNat
    let credited ← difference? (credit p.title) used
    let left ← difference? p.value.toNat ((fitting? used).getD p.value.toNat)
    let rest ← uncovered? (fun title => if title = p.title then credited else credit title) ps
    return if 0 < left then ⟨p.title, .ofNat left⟩ :: rest else rest

theorem difference?_of_le {a b : Nat} (h : b ≤ a) : difference? a b = some (a - b) := if_pos h

/-- **No subtraction underflows.** -/
theorem uncovered?_eq_some (credit : String → Nat) (points : List Point) :
    uncovered? credit points = some (uncovered credit points) := by
  induction points generalizing credit with
  | nil => rfl
  | cons p points ih =>
    -- what is used is no more than the credit and no more than the declared value, so it fits
    have hcredit : min (credit p.title) p.value.toNat ≤ credit p.title := Nat.min_le_left _ _
    have hvalue : min (credit p.title) p.value.toNat ≤ p.value.toNat := Nat.min_le_right _ _
    have hfits : fitting? (min (credit p.title) p.value.toNat) =
        some (min (credit p.title) p.value.toNat) :=
      if_pos (Nat.lt_of_le_of_lt hvalue p.value.toNat_lt)
    have hspent : (fun title => if title = p.title then credit p.title -
        min (credit p.title) p.value.toNat else credit title) = fun title =>
        if title = p.title then credit title - min (credit p.title) p.value.toNat
        else credit title := by
      funext title
      split
      · next htitle => rw [htitle]
      · rfl
    unfold uncovered? uncovered
    dsimp only
    rw [difference?_of_le hcredit, hfits, Option.getD_some, difference?_of_le hvalue]
    simp only [Option.bind_eq_bind, Option.bind_some, hspent, ih, Nat.sub_pos_iff_lt]
    rfl

theorem value_ne_zero_of_mem_uncovered (h : p ∈ uncovered credit points) : p.value ≠ 0 := by
  induction points generalizing credit with
  | nil => cases h
  | cons q points ih =>
    unfold uncovered at h
    dsimp only at h
    split at h
    · next hleft =>
      rcases List.mem_cons.mp h with rfl | hrest
      · intro hzero
        have hnone : q.value.toNat - min (credit q.title) q.value.toNat = 0 := by
          rw [← q.toNat_left]
          exact congrArg UInt32.toNat hzero
        omega
      · exact ih hrest
    · exact ih h

theorem value_le_titleSum (h : p ∈ points) : p.value.toNat ≤ titleSum points p.title := by
  induction points with
  | nil => cases h
  | cons q points ih =>
    rw [titleSum_cons]
    rcases List.mem_cons.mp h with rfl | hrest
    · rw [if_pos rfl]
      exact Nat.le_add_right _ _
    · exact Nat.le_trans (ih hrest) (Nat.le_add_left _ _)

/-- Nothing is left iff there is credit for every title. -/
theorem uncovered_eq_nil_iff :
    uncovered credit points = [] ↔ ∀ title, titleSum points title ≤ credit title := by
  constructor
  · intro hnil title
    have hleft := titleSum_uncovered credit points title
    rw [hnil] at hleft
    exact Nat.sub_eq_zero_iff_le.mp hleft.symm
  · intro hall
    refine List.eq_nil_iff_forall_not_mem.mpr fun p hp => value_ne_zero_of_mem_uncovered hp ?_
    have hvalue := value_le_titleSum hp
    rw [titleSum_uncovered, Nat.sub_eq_zero_of_le (hall p.title)] at hvalue
    exact UInt32.toNat_inj.mp (Nat.le_zero.mp hvalue)

/-! ### Tasks -/

namespace Task

variable {t t' : Task} {now : Instant}

/-- The points are what is missing of the declared ones: title by title what was declared minus what
was completed, without empty entries, and found with no subtraction that underflows. -/
structure Missing (t : Task) (missing : List Point) : Prop where
  titles : ∀ title, titleSum missing title =
    titleSum t.points title - titleSum t.schedule.completed title
  nonempty : ∀ p ∈ missing, p.value ≠ 0
  checked : uncovered? (titleSum t.schedule.completed) t.points = some missing

theorem missing_outstanding (t : Task) : t.Missing t.outstanding where
  titles := titleSum_uncovered _ _
  nonempty _ := value_ne_zero_of_mem_uncovered
  checked := uncovered?_eq_some _ _

/-- The task has become one that has nothing left to do.  It has completed more points than it
declares iff under some title more was completed before than was declared. -/
structure Settles (t t' : Task) : Prop where
  nothingLeft : t'.outstanding = []
  enough : t'.totalPoints ≤ t'.completedPoints
  exactly_iff : t'.completedPoints = t'.totalPoints ↔
    ∀ title, titleSum t.schedule.completed title ≤ titleSum t.points title

/-- **Credit for everything outstanding** settles a task. -/
theorem settles_closeInterval (h : t.closeInterval? now t.outstanding = some t') : t.Settles t' := by
  obtain ⟨hpoints, hcompleted⟩ := completed_closeInterval h
  have hsum : ∀ title, titleSum t'.schedule.completed title =
      titleSum t.schedule.completed title +
        (titleSum t.points title - titleSum t.schedule.completed title) := by
    intro title
    rw [hcompleted, titleSum_append, t.missing_outstanding.titles]
  have hle : ∀ title, titleSum t'.points title ≤ titleSum t'.schedule.completed title := by
    intro title
    rw [hpoints, hsum]
    omega
  refine ⟨uncovered_eq_nil_iff.mpr hle, ?_, ?_⟩
  · rw [completedPoints_eq]
    exact pointSum_le_of_titleSum_le hle
  · rw [completedPoints_eq, eq_comm]
    refine (pointSum_eq_iff_of_titleSum_le hle).trans (forall_congr' fun title => ?_)
    rw [hpoints, hsum]
    omega

/-- Work that goes on can be ended. -/
theorem exists_closeInterval (h : t.schedule.hasOpenInterval = true) (now : Instant)
    (points : List Point) : ∃ t', t.closeInterval? now points = some t' := by
  obtain ⟨s, hs⟩ : ∃ s, t.schedule.closeInterval? now points = some s := by
    unfold Schedule.hasOpenInterval at h
    unfold Schedule.closeInterval?
    split at h
    · exact ⟨_, if_pos h⟩
    · cases h
  exact ⟨_, Option.map_eq_some_iff.mpr ⟨s, hs, rfl⟩⟩

end Task

end TaskPipeline
