import TaskPipeline.Proofs.Record.Fields
import TaskPipeline.Proofs.Task.Lookup
import TaskPipeline.Proofs.Time.Reading

/-!
# Task records

`Task.denotes_encode`: the record of a task can be written and read as JSON and stands for the task,
if its version fits a 64-bit word and its coordinates are read back as they are (`Task.Recordable`).
-/

namespace TaskPipeline

open Json (Value Fields Denotes IsRecord written denotes_string denotes_nat denotes_word32
  denotes_double)

/-! ### Identifiers, times and names -/

theorem Ident.denotes_encode {kind : IdentKind} (id : Ident kind) :
    Denotes Ident.decode id.encode id := by
  refine ⟨.string id.text, ?_⟩
  show (some id.text).bind read? = some id
  rw [Option.bind_some, read?_text]

theorem Instant.denotes_encode (t : Instant) : Denotes Instant.decode t.encode t := by
  refine ⟨.string t.text, ?_⟩
  show (some t.text).bind read? = some t
  rw [Option.bind_some, read?_text]

theorem Stage.denotes_encode (s : Stage) : Denotes Stage.decode s.encode s :=
  ⟨.string _, by cases s <;> rfl⟩

theorem Status.denotes_encode (s : Status) : Denotes Status.decode s.encode s :=
  ⟨.string _, by cases s <;> rfl⟩

/-- A time that may be absent. -/
theorem Instant.denotes_optional (t : Option Instant) :
    Denotes (Json.Decode.option Instant.decode) (.optional Instant.encode t) t := by
  apply Denotes.option
  · intro t h
    cases h
  · exact Instant.denotes_encode

/-! ### Effort and work -/

namespace Point

/-- The fields of the record. -/
def slots (p : Point) : List (String × Value × Bool) :=
  [("title", .string p.title, false), ("value", .nat p.value.toNat, false)]

theorem encode_eq (p : Point) : p.encode = .object (written p.slots) := rfl

theorem isRecord_slots (p : Point) : IsRecord ["title", "value"] p.slots := ⟨rfl, by decide⟩

theorem denotes_encode (p : Point) : Denotes decode p.encode p := by
  have hrecord := p.isRecord_slots
  have htitle := denotes_string p.title
  have hvalue := denotes_word32 p.value
  rw [encode_eq]
  constructor
  · apply IsRecord.proper
    simp [slots, htitle.proper, hvalue.proper]
  · unfold decode
    refine Option.bind_eq_some_iff.mpr ⟨_, hrecord.ofValue?, ?_⟩
    refine Option.bind_eq_some_iff.mpr ⟨_, hrecord.required (by simp [slots]) htitle, ?_⟩
    refine Option.bind_eq_some_iff.mpr ⟨_, hrecord.required (by simp [slots]) hvalue, ?_⟩
    rfl

theorem denotes_encodeAll (ps : List Point) : Denotes decodeAll (encodeAll ps) ps :=
  Denotes.list fun p _ => p.denotes_encode

end Point

namespace WorkInterval

/-- The fields of the record. -/
def slots (i : WorkInterval) : List (String × Value × Bool) :=
  [("start", i.start.encode, false), ("stop", .optional Instant.encode i.stop, i.stop.isNone),
    ("points_completed", Point.encodeAll i.completed, i.completed.isEmpty)]

theorem encode_eq (i : WorkInterval) : i.encode = .object (written i.slots) := by
  unfold encode slots written
  simp only [List.flatMap_cons, List.flatMap_nil, List.append_nil, List.append_assoc]

theorem isRecord_slots (i : WorkInterval) :
    IsRecord ["start", "stop", "points_completed"] i.slots := ⟨rfl, by decide⟩

theorem denotes_encode (i : WorkInterval) : Denotes decode i.encode i := by
  have hrecord := i.isRecord_slots
  have hstart := i.start.denotes_encode
  have hstop := Instant.denotes_optional i.stop
  have hcompleted := Point.denotes_encodeAll i.completed
  rw [encode_eq]
  constructor
  · apply IsRecord.proper
    simp [slots, hstart.proper, hstop.proper, hcompleted.proper]
  · unfold decode
    refine Option.bind_eq_some_iff.mpr ⟨_, hrecord.ofValue?, ?_⟩
    refine Option.bind_eq_some_iff.mpr ⟨_, hrecord.required (by simp [slots]) hstart, ?_⟩
    refine Option.bind_eq_some_iff.mpr
      ⟨_, hrecord.defaulted i.stop.isNone (by simp [slots]) hstop (by simp), ?_⟩
    refine Option.bind_eq_some_iff.mpr
      ⟨_, hrecord.defaulted i.completed.isEmpty (by simp [slots]) hcompleted (by simp), ?_⟩
    rfl

end WorkInterval

namespace Schedule

/-- The fields of the record. -/
def slots (s : Schedule) : List (String × Value × Bool) :=
  [("due", .optional Instant.encode s.due, s.due.isNone),
    ("work_intervals", .array (s.intervals.map WorkInterval.encode), s.intervals.isEmpty)]

theorem encode_eq (s : Schedule) : s.encode = .object (written s.slots) := by
  unfold encode slots written
  simp only [List.flatMap_cons, List.flatMap_nil, List.append_nil]

theorem isRecord_slots (s : Schedule) : IsRecord ["due", "work_intervals"] s.slots :=
  ⟨rfl, by decide⟩

theorem denotes_encode (s : Schedule) : Denotes decode s.encode s := by
  have hrecord := s.isRecord_slots
  have hdue := Instant.denotes_optional s.due
  have hintervals : Denotes (Json.Decode.list WorkInterval.decode)
      (.array (s.intervals.map WorkInterval.encode)) s.intervals :=
    Denotes.list fun i _ => i.denotes_encode
  rw [encode_eq]
  constructor
  · apply IsRecord.proper
    simp [slots, hdue.proper, hintervals.proper]
  · unfold decode
    refine Option.bind_eq_some_iff.mpr ⟨_, hrecord.ofValue?, ?_⟩
    refine Option.bind_eq_some_iff.mpr
      ⟨_, hrecord.defaulted s.due.isNone (by simp [slots]) hdue (by simp), ?_⟩
    refine Option.bind_eq_some_iff.mpr
      ⟨_, hrecord.defaulted s.intervals.isEmpty (by simp [slots]) hintervals (by simp), ?_⟩
    rfl

end Schedule

namespace StatusUpdate

/-- The fields of the record. -/
def slots (u : StatusUpdate) : List (String × Value × Bool) :=
  [("time", u.time.encode, false), ("note", .string u.note, false)]

theorem encode_eq (u : StatusUpdate) : u.encode = .object (written u.slots) := rfl

theorem isRecord_slots (u : StatusUpdate) : IsRecord ["time", "note"] u.slots := ⟨rfl, by decide⟩

theorem denotes_encode (u : StatusUpdate) : Denotes decode u.encode u := by
  have hrecord := u.isRecord_slots
  have htime := u.time.denotes_encode
  have hnote := denotes_string u.note
  rw [encode_eq]
  constructor
  · apply IsRecord.proper
    simp [slots, htime.proper, hnote.proper]
  · unfold decode
    refine Option.bind_eq_some_iff.mpr ⟨_, hrecord.ofValue?, ?_⟩
    refine Option.bind_eq_some_iff.mpr ⟨_, hrecord.required (by simp [slots]) htime, ?_⟩
    refine Option.bind_eq_some_iff.mpr ⟨_, hrecord.required (by simp [slots]) hnote, ?_⟩
    rfl

end StatusUpdate

/-! ### Tags -/

namespace GeoLocation

/-- The coordinates are read back as they are. -/
def Rereads (place : GeoLocation) : Prop := place.latitude.Rereads ∧ place.longitude.Rereads

/-- The fields of the record. -/
def slots (place : GeoLocation) : List (String × Value × Bool) :=
  [("latitude", .double place.latitude, false), ("longitude", .double place.longitude, false),
    ("address", .string place.address, false)]

theorem encode_eq (place : GeoLocation) : place.encode = .object (written place.slots) := rfl

theorem isRecord_slots (place : GeoLocation) :
    IsRecord ["latitude", "longitude", "address"] place.slots := ⟨rfl, by decide⟩

theorem denotes_encode {place : GeoLocation} (h : place.Rereads) :
    Denotes decode place.encode place := by
  have hrecord := place.isRecord_slots
  have hlatitude := denotes_double h.1
  have hlongitude := denotes_double h.2
  have haddress := denotes_string place.address
  rw [encode_eq]
  constructor
  · apply IsRecord.proper
    simp [slots, hlatitude.proper, hlongitude.proper, haddress.proper]
  · unfold decode
    refine Option.bind_eq_some_iff.mpr ⟨_, hrecord.ofValue?, ?_⟩
    refine Option.bind_eq_some_iff.mpr ⟨_, hrecord.required (by simp [slots]) hlatitude, ?_⟩
    refine Option.bind_eq_some_iff.mpr ⟨_, hrecord.required (by simp [slots]) hlongitude, ?_⟩
    refine Option.bind_eq_some_iff.mpr
      ⟨_, hrecord.defaulted false (by simp [slots]) haddress nofun, ?_⟩
    rfl

end GeoLocation

namespace TagValue

/-- The coordinates in the value are read back as they are. -/
def Rereads : TagValue → Prop
  | location place => place.Rereads
  | _ => True

/-- The payload is read as its kind says. -/
theorem denotes_payload {t : TagValue} (h : t.Rereads) :
    Denotes (decodePayload t.kind) t.payload t := by
  cases t with
  | text s => exact ⟨.string s, rfl⟩
  | location place =>
    have hplace := GeoLocation.denotes_encode h
    refine ⟨hplace.proper, ?_⟩
    show (GeoLocation.decode place.encode).map location = _
    rw [hplace.decodes, Option.map_some]
  | time t =>
    have htime := t.denotes_encode
    refine ⟨htime.proper, ?_⟩
    show (Instant.decode t.encode).map time = _
    rw [htime.decodes, Option.map_some]

theorem denotes_encode {t : TagValue} (around : Nat) (h : t.Rereads) :
    Denotes (decode around) t.encode t := by
  have hpayload := denotes_payload h
  have hfields : Fields.ofMembers? ["type", "value"]
      [("type", .string t.kind), ("value", t.payload)] =
        some [("type", .string t.kind), ("value", t.payload)] :=
    Json.ofMembers?_eq (by simp) (by simp)
  constructor
  · apply Value.Proper.object
    simp [Value.Proper.string, hpayload.proper]
  · unfold decode encode
    dsimp only
    refine Option.bind_eq_some_iff.mpr ⟨_, hfields, ?_⟩
    exact hpayload.decodes

end TagValue

/-- The coordinates in the tags are read back as they are. -/
def Tags.Rereads (tags : Tags) : Prop := ∀ tag ∈ tags.toList, tag.value.Rereads

theorem Tags.denotes_encode {tags : Tags} (h : tags.Rereads) : Denotes decode tags.encode tags := by
  have heach : ∀ ts : List Tag, (∀ tag ∈ ts, tag.value.Rereads) →
      Json.Decode.eachMember (TagValue.decode 2) (ts.map fun tag => (tag.key, tag.value.encode)) =
        some (ts.map fun tag => (tag.key, tag.value)) := by
    intro ts hts
    induction ts with
    | nil => rfl
    | cons tag ts ih =>
      have hrest := ih fun t ht => hts t (List.mem_cons_of_mem _ ht)
      have htag := (TagValue.denotes_encode 2 (hts tag List.mem_cons_self)).decodes
      rw [List.map_cons, Json.Decode.eachMember, htag, hrest]
      rfl
  constructor
  · apply Value.Proper.object
    intro m hm
    obtain ⟨tag, htag, rfl⟩ := List.mem_map.mp hm
    exact (TagValue.denotes_encode 2 (h tag htag)).proper
  · unfold decode
    refine Option.bind_eq_some_iff.mpr ⟨_, heach tags.toList h, ?_⟩
    have hback : (tags.toList.map fun tag => (tag.key, tag.value)).map
        (fun m => Tag.mk m.1 m.2) = tags.toList := by
      rw [List.map_map]
      exact List.map_id' _
    show some (Catalog.ofList _) = some tags
    rw [hback, Catalog.ofList_toList]

/-! ### Tasks -/

theorem Flows.denotes_encode (f : Flows) : Denotes decode f.encode f := by
  have hids : Denotes (Json.Decode.list Ident.decode) (.array (f.ids.map Ident.encode)) f.ids :=
    Denotes.list fun id _ => id.denotes_encode
  refine ⟨hids.proper, ?_⟩
  show (Json.Decode.list Ident.decode (.array (f.ids.map Ident.encode))).map _ = _
  rw [hids.decodes, Option.map_some]

theorem Flows.eq_empty_of_isEmpty {f : Flows} (h : f.isEmpty = true) : f = .empty :=
  congrArg Flows.mk (List.isEmpty_iff.mp h)

theorem Tags.eq_empty_of_isEmpty {tags : Tags} (h : tags.isEmpty = true) : tags = .empty := by
  obtain ⟨ts, hs⟩ := tags
  obtain rfl : ts = [] := List.isEmpty_iff.mp h
  rfl

namespace Task

/-- The record of the task can be read: its version fits its word, and its coordinates are read back
as they are. -/
structure Recordable (t : Task) : Prop where
  version_lt : t.version < Json.word64
  rereads : t.tags.Rereads

theorem recordable_of_untagged {t : Task} (hversion : t.version < Json.word64)
    (htags : t.tags = .empty) : t.Recordable := by
  refine ⟨hversion, ?_⟩
  rw [htags]
  exact fun tag htag => absurd htag List.not_mem_nil

/-- The fields of the record. -/
def slots (t : Task) : List (String × Value × Bool) :=
  [("id", t.id.encode, false), ("user_id", t.owner.encode, false), ("name", .string t.name, false),
    ("description", .string t.description, false), ("stage", t.stage.encode, false),
    ("status", t.status.encode, false), ("location", .strings t.location, t.location.isEmpty),
    ("points", Point.encodeAll t.points, t.points.isEmpty), ("schedule", t.schedule.encode, false),
    ("status_history", .array (t.history.map StatusUpdate.encode), t.history.isEmpty),
    ("tags", t.tags.encode, t.tags.isEmpty), ("inflows", t.inflows.encode, t.inflows.isEmpty),
    ("outflows", t.outflows.encode, t.outflows.isEmpty),
    ("calendar_event_id", .optional .string t.calendarEvent, t.calendarEvent.isNone),
    ("created_at", t.createdAt.encode, false), ("updated_at", t.updatedAt.encode, false),
    ("version", .nat t.version, false)]

theorem encode_eq (t : Task) : t.encode = .object (written t.slots) := by
  unfold encode slots written
  simp only [List.flatMap_cons, List.flatMap_nil, List.append_nil, List.append_assoc]

theorem isRecord_slots (t : Task) : IsRecord fieldNames t.slots := ⟨rfl, by decide⟩

/-- **The record of a task stands for the task.** -/
theorem denotes_encode {t : Task} (h : t.Recordable) : Denotes decode t.encode t := by
  have hrecord := t.isRecord_slots
  have hid := t.id.denotes_encode
  have howner := t.owner.denotes_encode
  have hname := denotes_string t.name
  have hdescription := denotes_string t.description
  have hstage := t.stage.denotes_encode
  have hstatus := t.status.denotes_encode
  have hlocation : Denotes (Json.Decode.list Json.Decode.string) (.strings t.location) t.location :=
    Denotes.list fun s _ => denotes_string s
  have hpoints := Point.denotes_encodeAll t.points
  have hschedule := t.schedule.denotes_encode
  have hhistory : Denotes (Json.Decode.list StatusUpdate.decode)
      (.array (t.history.map StatusUpdate.encode)) t.history :=
    Denotes.list fun u _ => u.denotes_encode
  have htags := Tags.denotes_encode h.rereads
  have hinflows := t.inflows.denotes_encode
  have houtflows := t.outflows.denotes_encode
  have hevent : Denotes (Json.Decode.option Json.Decode.string)
      (.optional .string t.calendarEvent) t.calendarEvent :=
    Denotes.option (fun _ => nofun) denotes_string
  have hcreated := t.createdAt.denotes_encode
  have hupdated := t.updatedAt.denotes_encode
  have hversion := denotes_nat h.version_lt
  rw [encode_eq]
  constructor
  · apply IsRecord.proper
    simp [slots, hid.proper, howner.proper, hname.proper, hdescription.proper, hstage.proper,
      hstatus.proper, hlocation.proper, hpoints.proper, hschedule.proper, hhistory.proper,
      htags.proper, hinflows.proper, houtflows.proper, hevent.proper, hcreated.proper,
      hupdated.proper, hversion.proper]
  · -- field by field, in the order in which they are read
    unfold decode
    refine Option.bind_eq_some_iff.mpr ⟨_, hrecord.ofValue?, ?_⟩
    refine Option.bind_eq_some_iff.mpr ⟨_, hrecord.required (by simp [slots]) hid, ?_⟩
    refine Option.bind_eq_some_iff.mpr ⟨_, hrecord.required (by simp [slots]) howner, ?_⟩
    refine Option.bind_eq_some_iff.mpr ⟨_, hrecord.required (by simp [slots]) hname, ?_⟩
    refine Option.bind_eq_some_iff.mpr
      ⟨_, hrecord.defaulted false (by simp [slots]) hdescription nofun, ?_⟩
    refine Option.bind_eq_some_iff.mpr ⟨_, hrecord.required (by simp [slots]) hstage, ?_⟩
    refine Option.bind_eq_some_iff.mpr ⟨_, hrecord.required (by simp [slots]) hstatus, ?_⟩
    refine Option.bind_eq_some_iff.mpr
      ⟨_, hrecord.defaulted t.location.isEmpty (by simp [slots]) hlocation (by simp), ?_⟩
    refine Option.bind_eq_some_iff.mpr
      ⟨_, hrecord.defaulted t.points.isEmpty (by simp [slots]) hpoints (by simp), ?_⟩
    refine Option.bind_eq_some_iff.mpr
      ⟨_, hrecord.defaulted false (by simp [slots]) hschedule nofun, ?_⟩
    refine Option.bind_eq_some_iff.mpr
      ⟨_, hrecord.defaulted t.history.isEmpty (by simp [slots]) hhistory (by simp), ?_⟩
    refine Option.bind_eq_some_iff.mpr
      ⟨_, hrecord.defaulted t.tags.isEmpty (by simp [slots]) htags Tags.eq_empty_of_isEmpty, ?_⟩
    refine Option.bind_eq_some_iff.mpr
      ⟨_, hrecord.defaulted t.inflows.isEmpty (by simp [slots]) hinflows
        Flows.eq_empty_of_isEmpty, ?_⟩
    refine Option.bind_eq_some_iff.mpr
      ⟨_, hrecord.defaulted t.outflows.isEmpty (by simp [slots]) houtflows
        Flows.eq_empty_of_isEmpty, ?_⟩
    refine Option.bind_eq_some_iff.mpr
      ⟨_, hrecord.defaulted t.calendarEvent.isNone (by simp [slots]) hevent (by simp), ?_⟩
    refine Option.bind_eq_some_iff.mpr ⟨_, hrecord.required (by simp [slots]) hcreated, ?_⟩
    refine Option.bind_eq_some_iff.mpr ⟨_, hrecord.required (by simp [slots]) hupdated, ?_⟩
    refine Option.bind_eq_some_iff.mpr
      ⟨_, hrecord.defaulted false (by simp [slots]) hversion nofun, ?_⟩
    rfl

end Task

end TaskPipeline
