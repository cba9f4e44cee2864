import TaskPipeline.Proofs.Catalog
import TaskPipeline.Proofs.Task.Lookup
import TaskPipeline.Proofs.Time.Order
import TaskPipeline.User.Reminder

/-!
# Reminders that come too late

A reminder belongs to a task that is still to be done and to a number of whole days that its owner
asked for (`mem_dueReminders_iff`).  Whole days are counted toward zero, so a task that has been
overdue for less than a day is zero days ahead, like one that is due within a day.  If its owner
wants to be reminded on the day, the reminder is sent after the time that it is about.
`late_reminder_iff` says exactly which reminders these are; none is about a task that has been
overdue for a day or more.
-/

namespace TaskPipeline

variable {users : List User} {tasks : List Task} {now : Instant} {r : Reminder}

/-- The user of a list who owns a task; of users with one identifier it is the last. -/
def Task.ownerIn? (t : Task) (users : List User) : Option User :=
  users.reverse.find? fun user => user.id = t.owner

theorem Task.find?_owner (t : Task) (users : List User) :
    (Catalog.ofList users).find? t.owner.text = t.ownerIn? users := by
  have hsame : (fun user : User => Keyed.key user == t.owner.text) =
      fun user : User => decide (user.id = t.owner) :=
    funext fun user => user.id.text_beq t.owner
  rw [Catalog.find?_ofList, hsame]
  rfl

/-- A reminder about a task for an owner who wants it so many days before. -/
def Reminder.about (t : Task) (owner : User) (due : Instant) (days : UInt32) : Reminder :=
  ⟨owner.id, owner.email, t.id, t.name, due, days⟩

theorem mem_remindersFor_iff {owner : User} {t : Task} : r ∈ remindersFor owner t now ↔
    ∃ due, t.schedule.due = some due ∧ ∃ days ∈ owner.reminderDays,
      (days.toNat : Int) = due.daysUntil now ∧ r = .about t owner due days := by
  unfold remindersFor
  cases t.schedule.due with
  | none => simp
  | some due =>
    simp only [List.mem_map, List.mem_filter, beq_iff_eq, Option.some.injEq, exists_eq_left',
      and_assoc, @eq_comm _ r]
    rfl

/-- **Which reminders are sent.** -/
theorem mem_dueReminders_iff : r ∈ dueReminders users tasks now ↔
    ∃ t ∈ tasks, t.status.isTerminal = false ∧ ∃ owner, t.ownerIn? users = some owner ∧
      ∃ due, t.schedule.due = some due ∧ ∃ days ∈ owner.reminderDays,
        (days.toNat : Int) = due.daysUntil now ∧ r = .about t owner due days := by
  unfold dueReminders
  dsimp only
  rw [List.mem_flatMap]
  refine exists_congr fun t => and_congr_right fun _ => ?_
  rw [t.find?_owner]
  cases t.status.isTerminal with
  | true => simp
  | false =>
    cases t.ownerIn? users with
    | none => simp
    | some owner => simp [mem_remindersFor_iff]

/-- The task is still to be done, its time is over, but for less than a day, and its owner wants to
be reminded on the day. -/
structure Task.JustMissed (t : Task) (users : List User) (now : Instant) (owner : User)
    (due : Instant) : Prop where
  live : t.status.isTerminal = false
  ownedBy : t.ownerIn? users = some owner
  dueAt : t.schedule.due = some due
  overdue : due.compare now = .lt
  lessThanDay : -Instant.nanosPerDay < due.since now
  wanted : 0 ∈ owner.reminderDays

/-- **Which reminders come too late**: a reminder is sent after the time that it is about iff it is
about a task that was just missed, for an owner who wants to be reminded on the day. -/
theorem late_reminder_iff (users : List User) (tasks : List Task) (now : Instant) (r : Reminder) :
    r ∈ dueReminders users tasks now ∧ r.due.compare now = .lt ↔
      ∃ t ∈ tasks, ∃ owner due, t.JustMissed users now owner due ∧ r = .about t owner due 0 := by
  rw [mem_dueReminders_iff]
  constructor
  · rintro ⟨⟨t, ht, hlive, owner, howner, due, hdue, days, hdays, hcount, rfl⟩, hover⟩
    -- the days are not negative, and there are none left
    have hnone : due.daysUntil now ≤ 0 := Instant.daysUntil_nonpos_of_compare hover
    have hzero : days = 0 := UInt32.toNat_inj.mp (by simp; omega)
    have hrecent : 0 ≤ due.daysUntil now := by omega
    subst hzero
    exact ⟨t, ht, owner, due,
      ⟨hlive, howner, hdue, hover, Instant.daysUntil_nonneg_iff.mp hrecent, hdays⟩, rfl⟩
  · rintro ⟨t, ht, owner, due, h, rfl⟩
    have hnone := Instant.daysUntil_nonpos_of_compare h.overdue
    have hrecent := Instant.daysUntil_nonneg_iff.mpr h.lessThanDay
    have hsent : ((0 : UInt32).toNat : Int) = due.daysUntil now := by simp; omega
    exact ⟨⟨t, ht, h.live, owner, h.ownedBy, due, h.dueAt, 0, h.wanted, hsent, rfl⟩, h.overdue⟩

namespace Sample

/-- A user who wants to be reminded on the day. -/
def punctual : User :=
  (User.create ⟨"u", by decide, by decide⟩ "u@example.com" "").withSetting ⟨.daysBeforeDue, true, 0⟩

/-- A task that was due when the day began. -/
def missed : Task :=
  { Task.create ⟨"report", by decide, by decide⟩ "report" "" ⟨"u", by decide, by decide⟩ .epoch with
    schedule := ⟨some .epoch, []⟩ }

/-- The first second of the day is over. -/
def secondLater : Instant := ⟨.epoch, 1, 0, by decide, by decide⟩

end Sample

/-- A second after its time, the task is still the subject of a reminder. -/
theorem late_by_a_second : ∃ r ∈ dueReminders [Sample.punctual] [Sample.missed] Sample.secondLater,
    r.due.compare Sample.secondLater = .lt := by
  have hmissed : Sample.missed.JustMissed [Sample.punctual] Sample.secondLater Sample.punctual
      .epoch := ⟨rfl, rfl, rfl, rfl, by decide, by decide⟩
  have hlate := (late_reminder_iff [Sample.punctual] [Sample.missed] Sample.secondLater _).mpr
    ⟨Sample.missed, List.mem_singleton_self _, Sample.punctual, .epoch, hmissed, rfl⟩
  exact ⟨_, hlate⟩

end TaskPipeline
