import TaskPipeline.Json.Decode
import TaskPipeline.Settings.Basic

/-!
# Settings records

The record form of settings.  Every field may be missing.  The same records are read from two
notations, which differ in two small things that `RecordStyle` says.
-/

namespace TaskPipeline

open Json (Value Decoder Fields)

/-- How a notation writes records. -/
structure RecordStyle where
  /-- What stands beside the name of a choice where the choice is written as an object. -/
  isNothing : Value → Bool
  /-- Whether a record written as an array may have more items than fields. -/
  allowsSurplus : Bool

namespace RecordStyle

/-- JSON writes `null` for nothing and has no surplus items. -/
def json : RecordStyle where
  isNothing
    | .null => true
    | _ => false
  allowsSurplus := false

/-- Configuration files have no `null`; they write an empty list or table for nothing. -/
def configuration : RecordStyle where
  isNothing
    | .array items => items.isEmpty
    | .object members => members.isEmpty
    | _ => false
  allowsSurplus := true

/-- One of several names: the name itself, or an object with nothing beside the name. -/
def choice (style : RecordStyle) (f : String → Option α) : Decoder α
  | .string s => f s
  | .object [(s, v)] => if style.isNothing v then f s else none
  | _ => none

/-- Reads the fields of a record. -/
def fields (style : RecordStyle) (names : List String) : Decoder Fields
  | .array items =>
    Fields.ofValue? names (.array (if style.allowsSurplus then items.take names.length else items))
  | v => Fields.ofValue? names v

end RecordStyle

/-! ### Engine and background -/

/-- The policy as a record. -/
def Policy.encode (p : Policy) : Value :=
  .object [("max_inbox_size", .nat p.maxInbox),
    ("zero_point_tasks_complete", .bool p.zeroPointsComplete),
    ("merge_tag_collision", .string p.tagCollision.text), ("default_user", .string p.defaultUser),
    ("structural_retries", .nat p.retries)]

/-- Reads a policy. -/
def Policy.decode (style : RecordStyle) : Decoder Policy := fun v => do
  let r ← style.fields ["max_inbox_size", "zero_point_tasks_complete", "merge_tag_collision",
    "default_user", "structural_retries"] v
  return {
    maxInbox := ← r.defaulted "max_inbox_size" (Json.Decode.nat UInt64.size) default.maxInbox
    zeroPointsComplete :=
      ← r.defaulted "zero_point_tasks_complete" Json.Decode.bool default.zeroPointsComplete
    tagCollision :=
      ← r.defaulted "merge_tag_collision" (style.choice TagCollision.ofText?) default.tagCollision
    defaultUser := ← r.defaulted "default_user" Json.Decode.string default.defaultUser
    retries := ← r.defaulted "structural_retries" (Json.Decode.nat UInt32.size) default.retries }

/-- The background settings as a record. -/
def BackgroundSettings.encode (s : BackgroundSettings) : Value :=
  .object [("timeout_ms", .nat s.timeout), ("reminder_interval_secs", .nat s.reminderInterval),
    ("calendar_sync", .bool s.calendarSync)]

/-- Reads background settings. -/
def BackgroundSettings.decode (style : RecordStyle) : Decoder BackgroundSettings := fun v => do
  let r ← style.fields ["timeout_ms", "reminder_interval_secs", "calendar_sync"] v
  return {
    timeout := ← r.defaulted "timeout_ms" (Json.Decode.nat UInt64.size) default.timeout
    reminderInterval :=
      ← r.defaulted "reminder_interval_secs" (Json.Decode.nat UInt64.size) default.reminderInterval
    calendarSync := ← r.defaulted "calendar_sync" Json.Decode.bool default.calendarSync }

/-! ### Files of settings -/

/-- Reads the name of a log level; any text will do. -/
def logLevelDecode (style : RecordStyle) : Decoder String := fun v => do
  let r ← style.fields ["level"] v
  r.defaulted "level" Json.Decode.string WorkspaceSettings.default.logLevel

/-- The settings of a workspace as a record. -/
def WorkspaceSettings.encode (s : WorkspaceSettings) : Value :=
  .object [("engine", s.policy.encode), ("background", s.background.encode),
    ("logging", .object [("level", .string s.logLevel)])]

/-- Reads the settings of a workspace. -/
def WorkspaceSettings.decode (style : RecordStyle) : Decoder WorkspaceSettings := fun v => do
  let r ← style.fields ["engine", "background", "logging"] v
  return {
    policy := ← r.defaulted "engine" (Policy.decode style) .default
    background := ← r.defaulted "background" (BackgroundSettings.decode style) .default
    logLevel := ← r.defaulted "logging" (logLevelDecode style) default.logLevel }

/-- The settings of a user as a record. -/
def UserSettings.encode (s : UserSettings) : Value :=
  .object [("default_format", .string s.format.name)]

/-- Reads the settings of a user. -/
def UserSettings.decode (style : RecordStyle) : Decoder UserSettings := fun v => do
  let r ← style.fields ["default_format"] v
  return ⟨← r.defaulted "default_format" (style.choice OutputFormat.ofName?) default.format⟩

end TaskPipeline
