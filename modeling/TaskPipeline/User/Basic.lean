import TaskPipeline.Catalog
import TaskPipeline.Ident.Basic

/-!
# Users

A user owns tasks and says which notifications are wanted.  `User.withSetting` keeps at most one
setting for each occasion; reminders before the due date are told apart by their number of days.
-/

namespace TaskPipeline

/-- The occasion of a notification. -/
inductive NotificationKind where
  /-- A task is assigned. -/
  | onAssign
  /-- A task is started. -/
  | onStart
  /-- A task is due in some days. -/
  | daysBeforeDue
deriving DecidableEq

namespace NotificationKind

/-- All occasions. -/
def all : List NotificationKind := [onAssign, onStart, daysBeforeDue]

/-- The name of an occasion. -/
def text : NotificationKind → String
  | onAssign => "on_assign"
  | onStart => "on_start"
  | daysBeforeDue => "days_before_due"

/-- The occasion with exactly this name. -/
def ofText? (s : String) : Option NotificationKind := all.find? (·.text == s)

end NotificationKind

/-- Whether notifications are wanted on one occasion. -/
structure NotificationSetting where
  /-- The occasion. -/
  kind : NotificationKind
  /-- Whether they are wanted. -/
  enabled : Bool
  /-- For a reminder, the days before the due date. -/
  daysBefore : UInt32
deriving DecidableEq

/-- Whether two settings are about the same occasion. -/
def NotificationSetting.sameOccasion (a b : NotificationSetting) : Bool :=
  a.kind == b.kind && (a.kind != .daysBeforeDue || a.daysBefore == b.daysBefore)

/-- A user. -/
structure User where
  /-- The user's identifier. -/
  id : UserId
  /-- The mail address. -/
  email : String
  /-- The name, or nothing. -/
  name : String
  /-- The notifications wanted. -/
  settings : List NotificationSetting
deriving DecidableEq

instance : Keyed User := ⟨fun u => u.id.text⟩

namespace User

/-- A user without settings. -/
def create (id : UserId) (email name : String) : User := ⟨id, email, name, []⟩

/-- Adds a setting at the end; earlier ones about the same occasion go away. -/
def withSetting (u : User) (s : NotificationSetting) : User :=
  { u with settings := u.settings.filter (fun old => !old.sameOccasion s) ++ [s] }

/-- Whether notifications are wanted on an occasion. -/
def wants (u : User) (kind : NotificationKind) : Bool :=
  u.settings.any fun s => s.kind == kind && s.enabled

/-- The numbers of days before a due date at which a reminder is wanted. -/
def reminderDays (u : User) : List UInt32 :=
  (u.settings.filter fun s => s.enabled && s.kind == .daysBeforeDue).map (·.daysBefore)

end User

end TaskPipeline
