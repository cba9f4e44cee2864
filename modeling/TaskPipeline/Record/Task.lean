import TaskPipeline.Json.Decode
import TaskPipeline.Task.Basic
import TaskPipeline.Time.Reader

/-!
# Task records

The JSON form of a task and of its parts: `encode` writes a value and `decode` reads it.  Empty lists
and absent values are left out when a record is written, and a missing field has that value when it
is read.
-/

namespace TaskPipeline

open Json (Value Decoder Fields)

/-- A field of an object that is being written, unless it is left out. -/
def Json.field (name : String) (v : Value) (leftOut : Bool := false) : List (String × Value) :=
  if leftOut then [] else [(name, v)]

/-! ### Identifiers, times and names -/

/-- An identifier as a JSON text. -/
def Ident.encode {kind : IdentKind} (id : Ident kind) : Value := .string id.text

/-- Reads an identifier; blanks around it are removed and a blank text is refused. -/
def Ident.decode {kind : IdentKind} : Decoder (Ident kind) := fun v => Json.Decode.string v >>= read?

/-- A time as a JSON text. -/
def Instant.encode (t : Instant) : Value := .string t.text

/-- Reads a time. -/
def Instant.decode : Decoder Instant := fun v => Json.Decode.string v >>= read?

/-- A stage by its name. -/
def Stage.encode (s : Stage) : Value := .string s.text

/-- Reads the name of a stage. -/
def Stage.decode : Decoder Stage := Json.Decode.name ofText?

/-- A status by its name. -/
def Status.encode (s : Status) : Value := .string s.text

/-- Reads the name of a status. -/
def Status.decode : Decoder Status := Json.Decode.name ofText?

/-- Reads a 32-bit number. -/
def Json.Decode.word32 : Decoder UInt32 := fun v => (Json.Decode.nat UInt32.size v).map .ofNat

/-! ### Effort and work -/

/-- A point as a record. -/
def Point.encode (p : Point) : Value :=
  .object [("title", .string p.title), ("value", .nat p.value.toNat)]

/-- Reads a point. -/
def Point.decode : Decoder Point := fun v => do
  let r ← Fields.ofValue? ["title", "value"] v
  return ⟨← r.required "title" Json.Decode.string, ← r.required "value" Json.Decode.word32⟩

/-- A list of points. -/
def Point.encodeAll (ps : List Point) : Value := .array (ps.map encode)

/-- Reads a list of points. -/
def Point.decodeAll : Decoder (List Point) := Json.Decode.list decode

/-- A work interval as a record. -/
def WorkInterval.encode (i : WorkInterval) : Value :=
  .object (Json.field "start" i.start.encode ++
    Json.field "stop" (.optional Instant.encode i.stop) i.stop.isNone ++
    Json.field "points_completed" (Point.encodeAll i.completed) i.completed.isEmpty)

/-- Reads a work interval. -/
def WorkInterval.decode : Decoder WorkInterval := fun v => do
  let r ← Fields.ofValue? ["start", "stop", "points_completed"] v
  return ⟨← r.required "start" Instant.decode,
    ← r.defaulted "stop" (Json.Decode.option Instant.decode) none,
    ← r.defaulted "points_completed" Point.decodeAll []⟩

/-- A schedule as a record. -/
def Schedule.encode (s : Schedule) : Value :=
  .object (Json.field "due" (.optional Instant.encode s.due) s.due.isNone ++
    Json.field "work_intervals" (.array (s.intervals.map WorkInterval.encode)) s.intervals.isEmpty)

/-- Reads a schedule. -/
def Schedule.decode : Decoder Schedule := fun v => do
  let r ← Fields.ofValue? ["due", "work_intervals"] v
  return ⟨← r.defaulted "due" (Json.Decode.option Instant.decode) none,
    ← r.defaulted "work_intervals" (Json.Decode.list WorkInterval.decode) []⟩

/-- A history entry as a record. -/
def StatusUpdate.encode (u : StatusUpdate) : Value :=
  .object [("time", u.time.encode), ("note", .string u.note)]

/-- Reads a history entry. -/
def StatusUpdate.decode : Decoder StatusUpdate := fun v => do
  let r ← Fields.ofValue? ["time", "note"] v
  return ⟨← r.required "time" Instant.decode, ← r.required "note" Json.Decode.string⟩

/-! ### Tags -/

/-- A place as a record. -/
def GeoLocation.encode (place : GeoLocation) : Value :=
  .object [("latitude", .double place.latitude), ("longitude", .double place.longitude),
    ("address", .string place.address)]

/-- Reads a place. -/
def GeoLocation.decode : Decoder GeoLocation := fun v => do
  let r ← Fields.ofValue? ["latitude", "longitude", "address"] v
  return ⟨← r.required "latitude" Json.Decode.double, ← r.required "longitude" Json.Decode.double,
    ← r.defaulted "address" Json.Decode.string ""⟩

namespace TagValue

/-- The payload of a tag value. -/
def payload : TagValue → Value
  | text s => .string s
  | location place => place.encode
  | time t => t.encode

/-- A tag value with its kind. -/
def encode (t : TagValue) : Value := .object [("type", .string t.kind), ("value", t.payload)]

/-- How the payload of a kind is read. -/
def decodePayload (kind : String) : Decoder TagValue := fun v =>
  match kind with
  | "text" => (Json.Decode.string v).map text
  | "location" => (GeoLocation.decode v).map location
  | "time" => (Instant.decode v).map time
  | _ => none

/-- How deep arrays and objects may lie inside each other in a text of which a value is kept before
it is known what it is for. -/
def nestingLimit : Nat := 127

mutual

/-- Whether a value can be kept before it is known what it is for: every text and every number in it
has a value, and arrays and objects go at most `room` deep. -/
def isSound (room : Nat) : Value → Bool
  | .number n => n.double?.isSome
  | .array items => 0 < room && areSound (room - 1) items
  | .object members => 0 < room && membersAreSound (room - 1) members
  | .garbled => false
  | _ => true

/-- Whether every value of a list can be kept. -/
def areSound (room : Nat) : List Value → Bool
  | [] => true
  | v :: vs => isSound room v && areSound room vs

/-- Whether the value of every member can be kept. -/
def membersAreSound (room : Nat) : List (String × Value) → Bool
  | [] => true
  | (_, v) :: ms => isSound room v && membersAreSound room ms

end

/-- Reads a tag value that lies inside `around` other values: an object with its kind and its payload
in either order, or an array of the two.  A payload that stands before its kind is kept until the
kind is known. -/
def decode (around : Nat) : Decoder TagValue
  | .object members => do
    match ← Fields.ofMembers? ["type", "value"] members with
    | [("type", kind), ("value", v)] => decodePayload (← Json.Decode.name some kind) v
    | [("value", v), ("type", kind)] =>
      if isSound (nestingLimit - around - 1) v then decodePayload (← Json.Decode.name some kind) v
      else none
    | _ => none
  | .array [kind, v] => do decodePayload (← Json.Decode.string kind) v
  | _ => none

end TagValue

/-- Tags as an object, by name. -/
def Tags.encode (tags : Tags) : Value := .object (tags.toList.map fun t => (t.key, t.value.encode))

/-- Reads the tags of a task; of values with the same name the last stays. -/
def Tags.decode : Decoder Tags := fun v => do
  let members ← Json.Decode.members (TagValue.decode 2) v
  return Catalog.ofList (members.map fun (k, t) => ⟨k, t⟩)

/-! ### Tasks -/

/-- Neighbours as a list of identifiers. -/
def Flows.encode (f : Flows) : Value := .array (f.ids.map Ident.encode)

/-- Reads neighbours; repetitions are kept. -/
def Flows.decode : Decoder Flows := fun v => (Json.Decode.list Ident.decode v).map (⟨·⟩)

namespace Task

/-- The names of the fields of a task record, in their order. -/
def fieldNames : List String :=
  ["id", "user_id", "name", "description", "stage", "status", "location", "points", "schedule",
    "status_history", "tags", "inflows", "outflows", "calendar_event_id", "created_at", "updated_at",
    "version"]

/-- A task as a record. -/
def encode (t : Task) : Value :=
  .object (Json.field "id" t.id.encode ++
    Json.field "user_id" t.owner.encode ++
    Json.field "name" (.string t.name) ++
    Json.field "description" (.string t.description) ++
    Json.field "stage" t.stage.encode ++
    Json.field "status" t.status.encode ++
    Json.field "location" (.strings t.location) t.location.isEmpty ++
    Json.field "points" (Point.encodeAll t.points) t.points.isEmpty ++
    Json.field "schedule" t.schedule.encode ++
    Json.field "status_history" (.array (t.history.map StatusUpdate.encode)) t.history.isEmpty ++
    Json.field "tags" t.tags.encode t.tags.isEmpty ++
    Json.field "inflows" t.inflows.encode t.inflows.isEmpty ++
    Json.field "outflows" t.outflows.encode t.outflows.isEmpty ++
    Json.field "calendar_event_id" (.optional .string t.calendarEvent) t.calendarEvent.isNone ++
    Json.field "created_at" t.createdAt.encode ++
    Json.field "updated_at" t.updatedAt.encode ++
    Json.field "version" (.nat t.version))

/-- Reads a task. -/
def decode : Decoder Task := fun v => do
  let r ← Fields.ofValue? fieldNames v
  return {
    id := ← r.required "id" Ident.decode
    owner := ← r.required "user_id" Ident.decode
    name := ← r.required "name" Json.Decode.string
    description := ← r.defaulted "description" Json.Decode.string ""
    stage := ← r.required "stage" Stage.decode
    status := ← r.required "status" Status.decode
    location := ← r.defaulted "location" (Json.Decode.list Json.Decode.string) []
    points := ← r.defaulted "points" Point.decodeAll []
    schedule := ← r.defaulted "schedule" Schedule.decode .empty
    history := ← r.defaulted "status_history" (Json.Decode.list StatusUpdate.decode) []
    tags := ← r.defaulted "tags" Tags.decode .empty
    inflows := ← r.defaulted "inflows" Flows.decode .empty
    outflows := ← r.defaulted "outflows" Flows.decode .empty
    calendarEvent := ← r.defaulted "calendar_event_id" (Json.Decode.option Json.Decode.string) none
    createdAt := ← r.required "created_at" Instant.decode
    updatedAt := ← r.required "updated_at" Instant.decode
    version := ← r.defaulted "version" (Json.Decode.nat Json.word64) 0 }

end Task

end TaskPipeline
