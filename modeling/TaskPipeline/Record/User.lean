import TaskPipeline.Record.Task
import TaskPipeline.User.Basic

/-!
# User records

The JSON form of a user and of the notification settings.
-/

namespace TaskPipeline

open Json (Value Decoder Fields)

/-- An occasion by its name. -/
def NotificationKind.encode (k : NotificationKind) : Value := .string k.text

/-- Reads the name of an occasion. -/
def NotificationKind.decode : Decoder NotificationKind := Json.Decode.name ofText?

/-- A setting as a record. -/
def NotificationSetting.encode (s : NotificationSetting) : Value :=
  .object [("kind", s.kind.encode), ("enabled", .bool s.enabled),
    ("days_before", .nat s.daysBefore.toNat)]

/-- Reads a setting. -/
def NotificationSetting.decode : Decoder NotificationSetting := fun v => do
  let r ← Fields.ofValue? ["kind", "enabled", "days_before"] v
  return ⟨← r.required "kind" NotificationKind.decode, ← r.required "enabled" Json.Decode.bool,
    ← r.defaulted "days_before" Json.Decode.word32 0⟩

/-- A user as a record. -/
def User.encode (u : User) : Value :=
  .object [("id", u.id.encode), ("email", .string u.email), ("name", .string u.name),
    ("notification_settings", .array (u.settings.map NotificationSetting.encode))]

/-- Reads a user. -/
def User.decode : Decoder User := fun v => do
  let r ← Fields.ofValue? ["id", "email", "name", "notification_settings"] v
  return ⟨← r.required "id" Ident.decode, ← r.required "email" Json.Decode.string,
    ← r.defaulted "name" Json.Decode.string "",
    ← r.defaulted "notification_settings" (Json.Decode.list NotificationSetting.decode) []⟩

end TaskPipeline
