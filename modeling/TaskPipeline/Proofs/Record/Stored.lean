import TaskPipeline.Proofs.Record.Task
import TaskPipeline.Record.User

/-!
# Stored values

A value of each stored type survives its text (`Json.Survives`): the text stands on one line, and
what is read there is the value.  Empty lists and absent values are left out of the text and come
back as the defaults of their fields, and a tag keeps its kind, since the kind stands beside the
payload.

`survives_encode` says so of every type at once.  What it asks of a value is that its version fits a
64-bit word and that its coordinates are among the doubles that are read as they are written.
-/

namespace TaskPipeline

open Json (Value Fields Denotes IsRecord written denotes_string denotes_word32)

/-! ### Users -/

theorem Json.denotes_bool (b : Bool) : Denotes Decode.bool (.bool b) b := ⟨.bool b, rfl⟩

theorem NotificationKind.denotes_encode (k : NotificationKind) : Denotes decode k.encode k :=
  ⟨.string _, by cases k <;> rfl⟩

namespace NotificationSetting

/-- The fields of the record. -/
def slots (s : NotificationSetting) : List (String × Value × Bool) :=
  [("kind", s.kind.encode, false), ("enabled", .bool s.enabled, false),
    ("days_before", .nat s.daysBefore.toNat, false)]

theorem encode_eq (s : NotificationSetting) : s.encode = .object (written s.slots) := rfl

theorem isRecord_slots (s : NotificationSetting) :
    IsRecord ["kind", "enabled", "days_before"] s.slots := ⟨rfl, by decide⟩

theorem denotes_encode (s : NotificationSetting) : Denotes decode s.encode s := by
  have hrecord := s.isRecord_slots
  have hkind := s.kind.denotes_encode
  have henabled := Json.denotes_bool s.enabled
  have hdays := denotes_word32 s.daysBefore
  rw [encode_eq]
  constructor
  · apply IsRecord.proper
    simp [slots, hkind.proper, henabled.proper, hdays.proper]
  · unfold decode
    refine Option.bind_eq_some_iff.mpr ⟨_, hrecord.ofValue?, ?_⟩
    refine Option.bind_eq_some_iff.mpr ⟨_, hrecord.required (by simp [slots]) hkind, ?_⟩
    refine Option.bind_eq_some_iff.mpr ⟨_, hrecord.required (by simp [slots]) henabled, ?_⟩
    refine Option.bind_eq_some_iff.mpr
      ⟨_, hrecord.defaulted false (by simp [slots]) hdays nofun, ?_⟩
    rfl

end NotificationSetting

namespace User

/-- The fields of the record. -/
def slots (u : User) : List (String × Value × Bool) :=
  [("id", u.id.encode, false), ("email", .string u.email, false), ("name", .string u.name, false),
    ("notification_settings", .array (u.settings.map NotificationSetting.encode), false)]

theorem encode_eq (u : User) : u.encode = .object (written u.slots) := rfl

theorem isRecord_slots (u : User) :
    IsRecord ["id", "email", "name", "notification_settings"] u.slots := ⟨rfl, by decide⟩

/-- **The record of a user stands for the user.** -/
theorem denotes_encode (u : User) : Denotes decode u.encode u := by
  have hrecord := u.isRecord_slots
  have hid := u.id.denotes_encode
  have hemail := denotes_string u.email
  have hname := denotes_string u.name
  have hsettings : Denotes (Json.Decode.list NotificationSetting.decode)
      (.array (u.settings.map NotificationSetting.encode)) u.settings :=
    Denotes.list fun s _ => s.denotes_encode
  rw [encode_eq]
  constructor
  · apply IsRecord.proper
    simp [slots, hid.proper, hemail.proper, hname.proper, hsettings.proper]
  · unfold decode
    refine Option.bind_eq_some_iff.mpr ⟨_, hrecord.ofValue?, ?_⟩
    refine Option.bind_eq_some_iff.mpr ⟨_, hrecord.required (by simp [slots]) hid, ?_⟩
    refine Option.bind_eq_some_iff.mpr ⟨_, hrecord.required (by simp [slots]) hemail, ?_⟩
    refine Option.bind_eq_some_iff.mpr
      ⟨_, hrecord.defaulted false (by simp [slots]) hname nofun, ?_⟩
    refine Option.bind_eq_some_iff.mpr
      ⟨_, hrecord.defaulted false (by simp [slots]) hsettings nofun, ?_⟩
    rfl

end User

/-! ### Texts -/

namespace Json

variable {α : Type} {f : Decoder α} {v : Value} {a : α}

/-- The value is written on one line, and the reader takes what it finds there for `a`. -/
structure Survives (f : Decoder α) (v : Value) (a : α) : Prop where
  /-- No line ends inside the text. -/
  oneLine : ∀ c ∈ v.print.toList, c ≠ '\n' ∧ c ≠ '\r'
  /-- What is read is what was written. -/
  reread : read? v.print >>= f = some a

theorem Denotes.survives (h : Denotes f v a) : Survives f v a := by
  constructor
  · intro c hc
    have hchars : c ∈ v.chars := by
      rw [Value.print, String.toList_ofList] at hc
      exact hc
    -- the ends of lines are control characters, and those are escaped
    have hinline : Inline c := h.proper.inline c hchars
    constructor
    · rintro rfl
      exact absurd hinline (by decide)
    · rintro rfl
      exact absurd hinline (by decide)
  · have hread : read? v.print = some v := h.proper.read?_print
    rw [hread]
    exact h.decodes

end Json

open Json (Survives)

/-- **Every stored value survives its text**, a tag value however deep it lies in what is read. -/
theorem survives_encode :
    (∀ t : Task, t.version < Json.word64 → t.tags.Rereads → Survives Task.decode t.encode t) ∧
    (∀ u : User, Survives User.decode u.encode u) ∧
    (∀ (around : Nat) (v : TagValue), v.Rereads →
      Survives (TagValue.decode around) v.encode v) ∧
    (∀ p : Point, Survives Point.decode p.encode p) ∧
    (∀ i : WorkInterval, Survives WorkInterval.decode i.encode i) ∧
    (∀ s : Schedule, Survives Schedule.decode s.encode s) ∧
    (∀ s : Stage, Survives Stage.decode s.encode s) ∧
    (∀ s : Status, Survives Status.decode s.encode s) ∧
    (∀ f : Flows, Survives Flows.decode f.encode f) ∧
    ∀ s : NotificationSetting, Survives NotificationSetting.decode s.encode s := by
  refine ⟨fun t hversion hrereads => ?_, fun u => u.denotes_encode.survives,
    fun around v hrereads => ?_, fun p => p.denotes_encode.survives,
    fun i => i.denotes_encode.survives, fun s => s.denotes_encode.survives,
    fun s => s.denotes_encode.survives, fun s => s.denotes_encode.survives,
    fun f => f.denotes_encode.survives, fun s => s.denotes_encode.survives⟩
  · have hrecordable : t.Recordable := ⟨hversion, hrereads⟩
    exact (Task.denotes_encode hrecordable).survives
  · exact (TagValue.denotes_encode around hrereads).survives

namespace Sample

/-- A task in its last version, with line ends in its texts, an empty text and a negative zero among
its tags, and a neighbour that is listed twice. -/
def brimming : Task :=
  { Task.create ⟨"brim", by decide, by decide⟩ "one\ntwo\r" "\x01 \"😀\"\\"
      ⟨"keeper", by decide, by decide⟩ (.midnight .epoch) with
    tags := .ofList [⟨"", .text ""⟩,
      ⟨"at", .location ⟨.finite (.zero true), .finite ⟨false, Nat.pow 2 52, -52, by decide⟩, ""⟩⟩]
    inflows := ⟨[⟨"x", by decide, by decide⟩, ⟨"x", by decide, by decide⟩]⟩
    version := 18446744073709551615 }

end Sample

/-- The text of such a task is one line all the same, and the task is read back from it. -/
theorem survives_brimming : Sample.brimming.version < Json.word64 ∧ Sample.brimming.tags.Rereads ∧
    Survives Task.decode Sample.brimming.encode Sample.brimming := by
  have hversion : Sample.brimming.version < Json.word64 := by decide
  have hrereads : Sample.brimming.tags.Rereads := by
    intro tag htag
    rcases List.mem_cons.mp htag with rfl | htag
    · exact trivial
    · obtain rfl := List.mem_singleton.mp htag
      exact ⟨by decide +kernel, by decide +kernel⟩
  exact ⟨hversion, hrereads, survives_encode.1 Sample.brimming hversion hrereads⟩

end TaskPipeline
