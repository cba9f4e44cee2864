import Mathlib.Data.List.Induction
import TaskPipeline.Proofs.User.Reminder

/-!
# One reminder for each task

An account is a user together with the settings that were made for it, one after the other.  Of the
settings about one occasion only the last is kept, and the others stay as they are
(`User.Reflects`), so no number of days is asked for twice.  A task therefore has at most one
reminder, and `dueReminders_accounts` says which tasks have one: those that are still to be done and
are due in a number of days for which their owner's last word was that a reminder is wanted.
-/

namespace TaskPipeline

/-! ### Settings made one after the other -/

/-- What a setting is about.  Only reminders are told apart by their number of days. -/
def NotificationSetting.occasion (s : NotificationSetting) : NotificationKind × Option UInt32 :=
  (s.kind, if s.kind = .daysBeforeDue then some s.daysBefore else none)

open NotificationSetting (occasion)

theorem NotificationSetting.sameOccasion_iff {a b : NotificationSetting} :
    a.sameOccasion b = true ↔ a.occasion = b.occasion := by
  unfold sameOccasion occasion
  by_cases hkind : a.kind = b.kind
  · by_cases hdays : b.kind = .daysBeforeDue <;> simp [hkind, hdays]
  · simp [hkind]

namespace User

variable {u : User} {made : List NotificationSetting} {days : UInt32}

/-- The user has the last setting that was made about each occasion, and has it once. -/
structure Reflects (u : User) (made : List NotificationSetting) : Prop where
  mem_settings : ∀ s, s ∈ u.settings ↔ StandsLast occasion made s
  once : u.settings.Pairwise fun a b => a.occasion ≠ b.occasion

theorem reflects_create (id : UserId) (email name : String) : (create id email name).Reflects [] :=
  ⟨fun _ => iff_of_false List.not_mem_nil not_standsLast_nil, .nil⟩

theorem mem_settings_withSetting {s s' : NotificationSetting} :
    s' ∈ (u.withSetting s).settings ↔ s' = s ∨ s' ∈ u.settings ∧ s.occasion ≠ s'.occasion := by
  unfold withSetting
  rw [List.mem_append, List.mem_filter, List.mem_singleton, Bool.not_eq_true',
    ← Bool.not_eq_true, NotificationSetting.sameOccasion_iff, or_comm, ne_comm]

/-- A setting takes the place of what was said about its occasion before, and of nothing else. -/
theorem Reflects.withSetting (h : u.Reflects made) (s : NotificationSetting) :
    (u.withSetting s).Reflects (made ++ [s]) where
  mem_settings s' := by rw [mem_settings_withSetting, standsLast_concat, h.mem_settings]
  once := by
    refine List.pairwise_append.mpr ⟨h.once.filter _, List.pairwise_singleton .., ?_⟩
    intro a ha b hb
    obtain rfl := List.mem_singleton.mp hb
    have hother := (List.mem_filter.mp ha).2
    rwa [Bool.not_eq_true', ← Bool.not_eq_true, NotificationSetting.sameOccasion_iff] at hother

theorem mem_reminderDays_iff : days ∈ u.reminderDays ↔ ⟨.daysBeforeDue, true, days⟩ ∈ u.settings := by
  unfold reminderDays
  rw [List.mem_map]
  constructor
  · rintro ⟨⟨kind, enabled, d⟩, hs, rfl⟩
    obtain ⟨hs, hwanted⟩ := List.mem_filter.mp hs
    obtain ⟨rfl, rfl⟩ : enabled = true ∧ kind = .daysBeforeDue := by simpa using hwanted
    exact hs
  · exact fun hs => ⟨_, List.mem_filter.mpr ⟨hs, rfl⟩, rfl⟩

theorem Reflects.nodup_reminderDays (h : u.Reflects made) : u.reminderDays.Nodup := by
  refine List.pairwise_map.mpr (List.pairwise_filter.mpr (h.once.imp ?_))
  intro a b hne ha hb hdays
  refine hne ?_
  simp only [Bool.and_eq_true, beq_iff_eq] at ha hb
  simp only [occasion, ha.2, hb.2, hdays]

end User

/-! ### Accounts -/

/-- A user, and the settings in the order in which they were made. -/
structure Account where
  /-- The user's identifier. -/
  id : UserId
  /-- The mail address. -/
  email : String
  /-- The name, or nothing. -/
  name : String
  /-- The settings that were made. -/
  made : List NotificationSetting

namespace Account

/-- The user that the settings make. -/
def user (a : Account) : User := a.made.foldl User.withSetting (.create a.id a.email a.name)

theorem reflects_user (a : Account) : a.user.Reflects a.made := by
  obtain ⟨id, email, name, made⟩ := a
  unfold user
  dsimp only
  induction made using List.reverseRecOn with
  | nil => exact User.reflects_create id email name
  | append_singleton made s ih =>
    rw [List.foldl_concat]
    exact ih.withSetting s

/-- Settings leave the rest of a user alone. -/
theorem foldl_withSetting (u : User) (made : List NotificationSetting) :
    made.foldl User.withSetting u = { u with settings := (made.foldl User.withSetting u).settings } := by
  induction made generalizing u with
  | nil => rfl
  | cons s made ih => exact ih (u.withSetting s)

theorem id_user (a : Account) : a.user.id = a.id := by
  unfold user
  rw [foldl_withSetting]
  rfl

theorem email_user (a : Account) : a.user.email = a.email := by
  unfold user
  rw [foldl_withSetting]
  rfl

/-- The account's owner is to be reminded of the task now, so many days before it is due. -/
structure Reminds (a : Account) (t : Task) (now due : Instant) (days : UInt32) : Prop where
  owns : a.id = t.owner
  notCompleted : t.status ≠ .completed
  notCancelled : t.status ≠ .cancelled
  dueAt : t.schedule.due = some due
  left : (days.toNat : Int) = due.daysUntil now
  asked : StandsLast occasion a.made ⟨.daysBeforeDue, true, days⟩

end Account

variable {accounts : List Account} {t : Task} {now : Instant} {r : Reminder}

/-- Of users with different identifiers, the owner is the one with the owner's identifier. -/
theorem Task.ownerIn?_eq_some_iff {users : List User} (hids : (users.map User.id).Nodup)
    {owner : User} : t.ownerIn? users = some owner ↔ owner ∈ users ∧ owner.id = t.owner := by
  unfold ownerIn?
  constructor
  · intro h
    refine ⟨List.mem_reverse.mp (List.mem_of_find?_eq_some h), ?_⟩
    simpa using List.find?_some h
  · rintro ⟨hmem, howns⟩
    have hsome : (users.reverse.find? fun u => u.id = t.owner).isSome :=
      List.find?_isSome.mpr ⟨owner, List.mem_reverse.mpr hmem, by simp [howns]⟩
    obtain ⟨u, hu⟩ := Option.isSome_iff_exists.mp hsome
    have humem := List.mem_reverse.mp (List.mem_of_find?_eq_some hu)
    have huowns : u.id = t.owner := by simpa using List.find?_some hu
    rw [hu, List.inj_on_of_nodup_map hids humem hmem (huowns.trans howns.symm)]

theorem map_id_user (accounts : List Account) :
    (accounts.map Account.user).map User.id = accounts.map Account.id := by
  rw [List.map_map]
  exact List.map_congr_left fun a _ => a.id_user

/-! ### One reminder at most -/

/-- The reminder about a task, if there is one. -/
def Task.reminder? (t : Task) (users : List User) (now : Instant) : Option Reminder :=
  (dueReminders users [t] now).head?

theorem length_le_one_of_nodup {α : Type} {as : List α} (hnd : as.Nodup)
    (hsame : ∀ a ∈ as, ∀ b ∈ as, a = b) : as.length ≤ 1 := by
  match as, hnd with
  | [], _ => exact Nat.zero_le 1
  | [_], _ => exact Nat.le_refl 1
  | a :: b :: rest, hnd =>
    have hab : a = b := hsame a List.mem_cons_self b (List.mem_cons_of_mem a List.mem_cons_self)
    exact absurd (hab ▸ List.mem_cons_self) (List.nodup_cons.mp hnd).1

theorem length_remindersFor_le_one {u : User} {made : List NotificationSetting}
    (h : u.Reflects made) (t : Task) (now : Instant) : (remindersFor u t now).length ≤ 1 := by
  unfold remindersFor
  cases t.schedule.due with
  | none => exact Nat.zero_le 1
  | some due =>
    dsimp only
    rw [List.length_map]
    refine length_le_one_of_nodup (h.nodup_reminderDays.filter _) fun a ha b hb => ?_
    -- there is one number of days until then
    have ha' := beq_iff_eq.mp (List.mem_filter.mp ha).2
    have hb' := beq_iff_eq.mp (List.mem_filter.mp hb).2
    exact UInt32.toNat_inj.mp (Int.ofNat_inj.mp (ha'.trans hb'.symm))

theorem length_dueReminders_singleton_le_one (accounts : List Account) (t : Task) (now : Instant) :
    (dueReminders (accounts.map Account.user) [t] now).length ≤ 1 := by
  unfold dueReminders
  dsimp only
  rw [List.flatMap_singleton, t.find?_owner]
  cases howner : t.ownerIn? (accounts.map Account.user) with
  | none => split <;> exact Nat.zero_le 1
  | some owner =>
    have hmem := List.mem_of_find?_eq_some howner
    obtain ⟨a, -, rfl⟩ := List.mem_map.mp (List.mem_reverse.mp hmem)
    split
    · exact Nat.zero_le 1
    · exact length_remindersFor_le_one a.reflects_user t now

theorem toList_head?_of_length_le_one {α : Type} {as : List α} (h : as.length ≤ 1) :
    as.head?.toList = as := by
  match as, h with
  | [], _ => rfl
  | [_], _ => rfl

theorem toList_reminder? (accounts : List Account) (t : Task) (now : Instant) :
    (t.reminder? (accounts.map Account.user) now).toList =
      dueReminders (accounts.map Account.user) [t] now :=
  toList_head?_of_length_le_one (length_dueReminders_singleton_le_one accounts t now)

/-- The reminders are those about the tasks, task by task. -/
theorem dueReminders_eq_flatMap (users : List User) (tasks : List Task) (now : Instant) :
    dueReminders users tasks now = tasks.flatMap fun t => dueReminders users [t] now := by
  unfold dueReminders
  simp only [List.flatMap_singleton]

theorem Status.isTerminal_eq_false_iff {s : Status} :
    s.isTerminal = false ↔ s ≠ .completed ∧ s ≠ .cancelled := by
  cases s <;> decide

/-- A task has a reminder when its owner's account says so. -/
theorem reminder?_eq_some_iff (hids : (accounts.map Account.id).Nodup) :
    t.reminder? (accounts.map Account.user) now = some r ↔
      ∃ a ∈ accounts, ∃ due days, a.Reminds t now due days ∧
        r = ⟨a.id, a.email, t.id, t.name, due, days⟩ := by
  rw [← map_id_user] at hids
  rw [← Option.mem_toList, toList_reminder?, mem_dueReminders_iff]
  constructor
  · rintro ⟨t, ht, hlive, owner, howner, due, hdue, days, hdays, hleft, rfl⟩
    obtain rfl := List.mem_singleton.mp ht
    obtain ⟨hmem, howns⟩ := (Task.ownerIn?_eq_some_iff hids).mp howner
    obtain ⟨a, ha, rfl⟩ := List.mem_map.mp hmem
    rw [a.id_user] at howns
    obtain ⟨hcompleted, hcancelled⟩ := Status.isTerminal_eq_false_iff.mp hlive
    have hasked := (a.reflects_user.mem_settings _).mp (User.mem_reminderDays_iff.mp hdays)
    refine ⟨a, ha, due, days, ⟨howns, hcompleted, hcancelled, hdue, hleft, hasked⟩, ?_⟩
    rw [Reminder.about, a.id_user, a.email_user]
  · rintro ⟨a, ha, due, days, h, rfl⟩
    refine ⟨t, List.mem_singleton_self t, ?_, a.user, ?_, due, h.dueAt, days, ?_, h.left, ?_⟩
    · exact Status.isTerminal_eq_false_iff.mpr ⟨h.notCompleted, h.notCancelled⟩
    · refine (Task.ownerIn?_eq_some_iff hids).mpr ⟨List.mem_map_of_mem ha, ?_⟩
      rw [a.id_user, h.owns]
    · exact User.mem_reminderDays_iff.mpr ((a.reflects_user.mem_settings _).mpr h.asked)
    · rw [Reminder.about, a.id_user, a.email_user]

/-- **One reminder for each task whose owner asked for it**, in the order of the tasks, and none for
any other. -/
theorem dueReminders_accounts (accounts : List Account) (tasks : List Task) (now : Instant)
    (hids : (accounts.map Account.id).Nodup) :
    dueReminders (accounts.map Account.user) tasks now =
        tasks.filterMap (fun t => t.reminder? (accounts.map Account.user) now) ∧
      ∀ t r, t.reminder? (accounts.map Account.user) now = some r ↔
        ∃ a ∈ accounts, ∃ due days, a.Reminds t now due days ∧
          r = ⟨a.id, a.email, t.id, t.name, due, days⟩ := by
  refine ⟨?_, fun t r => reminder?_eq_some_iff hids⟩
  rw [dueReminders_eq_flatMap, List.filterMap_eq_flatMap_toList]
  simp only [toList_reminder?]

namespace Sample

/-- A user who first wants to be reminded the day before, and then on the day instead. -/
def undecided : Account where
  id := ⟨"undecided", by decide, by decide⟩
  email := "undecided@example.com"
  name := ""
  made := [⟨.daysBeforeDue, true, 1⟩, ⟨.daysBeforeDue, true, 0⟩, ⟨.onStart, true, 1⟩,
    ⟨.daysBeforeDue, false, 1⟩]

/-- Two tasks. -/
def early : TaskId := ⟨"early", by decide, by decide⟩
@[inherit_doc early] def late : TaskId := ⟨"late", by decide, by decide⟩

/-- A task of the user's that is due in January of 1970. -/
def errand (id : TaskId) (day : Nat) (h : Date.Valid 1970 1 day) : Task :=
  { Task.create id "errand" "" undecided.id .epoch with
    schedule := ⟨some (.midnight ⟨1970, 1, day, h⟩), []⟩ }

end Sample

/-- The setting about one day was withdrawn, the one about the day itself stays. -/
theorem reminder_on_the_day :
    dueReminders [Sample.undecided.user]
        [Sample.errand Sample.late 2 (by decide), Sample.errand Sample.early 1 (by decide)] .epoch =
      [⟨Sample.undecided.id, "undecided@example.com", Sample.early, "errand", .epoch, 0⟩] := by
  obtain ⟨hall, -⟩ := dueReminders_accounts [Sample.undecided]
    [Sample.errand Sample.late 2 (by decide), Sample.errand Sample.early 1 (by decide)] .epoch
    (by decide)
  exact hall.trans (by decide)

end TaskPipeline
