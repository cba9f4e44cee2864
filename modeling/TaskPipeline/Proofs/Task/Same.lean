import Mathlib.Data.List.Forall2
import TaskPipeline.Proofs.Task.Lookup

/-!
# When tasks are the same

A store is written where a task is not the same as the one that was read.  `Task.same` compares
coordinates as numbers, so it is no equivalence.  It is symmetric, and tasks that are the same differ
in nothing but their tags (`Task.of_same`); but a task with a coordinate that is NaN is not the same as
itself, and these are the only such tasks (`Task.same_self_iff`).
-/

namespace TaskPipeline

/-! ### Numbers and places -/

theorem Double.same_comm (a b : Double) : a.same b = b.same a := by
  cases a <;> cases b <;> simp [same, BEq.comm, Bool.and_comm]

theorem Double.same_self_iff {a : Double} : a.same a = true ↔ a ≠ .nan := by
  cases a <;> simp [same]

theorem Double.same_self_of_same {a b : Double} (h : a.same b = true) : a.same a = true := by
  rw [same_self_iff]
  rintro rfl
  cases b <;> cases h

namespace GeoLocation

variable {place other : GeoLocation}

theorem same_comm (place other : GeoLocation) : place.same other = other.same place := by
  unfold same
  rw [Double.same_comm place.latitude, Double.same_comm place.longitude, BEq.comm (a := place.address)]

theorem same_self_iff : place.same place = true ↔ place.latitude ≠ .nan ∧ place.longitude ≠ .nan := by
  unfold same
  rw [Bool.and_eq_true, Bool.and_eq_true, Double.same_self_iff, Double.same_self_iff]
  simp

theorem same_self_of_same (h : place.same other = true) : place.same place = true := by
  unfold same at h ⊢
  simp only [Bool.and_eq_true] at h ⊢
  exact ⟨⟨Double.same_self_of_same h.1.1, Double.same_self_of_same h.1.2⟩, beq_self_eq_true _⟩

end GeoLocation

/-! ### Tags -/

namespace TagValue

variable {v w : TagValue}

/-- A coordinate of the value is NaN. -/
def hasNaN : TagValue → Bool
  | location place => place.latitude == .nan || place.longitude == .nan
  | _ => false

theorem same_comm (v w : TagValue) : v.same w = w.same v := by
  cases v <;> cases w <;> simp [same, GeoLocation.same_comm, BEq.comm]

theorem same_self_iff : v.same v = true ↔ v.hasNaN = false := by
  cases v <;> simp [same, hasNaN, GeoLocation.same_self_iff]

theorem same_self_of_same (h : v.same w = true) : v.same v = true := by
  cases v with
  | location place =>
    cases w with
    | location other => exact GeoLocation.same_self_of_same h
    | text s => cases h
    | time t => cases h
  | text s => exact beq_self_eq_true _
  | time t => exact beq_self_eq_true _

end TagValue

namespace Tags

variable {tags other : Tags}

/-- Two tags have the same name and the same value. -/
def Alike (tag other : Tag) : Prop := tag.key = other.key ∧ tag.value.same other.value = true

theorem same_iff : tags.same other = true ↔ List.Forall₂ Alike tags.toList other.toList := by
  unfold same Catalog.size
  rw [List.forall₂_iff_zip, Bool.and_eq_true, beq_iff_eq, List.all_eq_true]
  simp [Alike]

theorem same_comm (tags other : Tags) : tags.same other = other.same tags := by
  have himp : ∀ tags other : Tags, tags.same other = true → other.same tags = true := by
    intro tags other h
    refine same_iff.mpr ((same_iff.mp h).flip.imp fun tag tag' hpair => ?_)
    exact ⟨hpair.1.symm, TagValue.same_comm _ _ ▸ hpair.2⟩
  exact Bool.eq_iff_iff.mpr ⟨himp tags other, himp other tags⟩

/-- Tags are the same as themselves unless a coordinate is NaN. -/
theorem same_self_iff :
    tags.same tags = true ↔ ∀ tag ∈ tags.toList, tag.value.hasNaN = false := by
  rw [same_iff, List.forall₂_same]
  exact forall₂_congr fun tag _ => (and_iff_right rfl).trans TagValue.same_self_iff

theorem same_self_of_same (h : tags.same other = true) : tags.same tags = true := by
  have hself : ∀ tag tag', Alike tag tag' → Alike tag tag ∧ Alike tag tag' :=
    fun _ _ hpair => ⟨⟨rfl, TagValue.same_self_of_same hpair.2⟩, hpair⟩
  have hboth := (same_iff.mp h).imp hself
  exact same_iff.mpr (List.forall₂_same.mpr ((List.forall₂_and_left _ _).mp hboth).1)

end Tags

/-! ### Tasks -/

namespace Task

variable {s t : Task}

theorem same_iff : s.same t = true ↔ { s with tags := t.tags } = t ∧ s.tags.same t.tags = true := by
  unfold same
  rw [Bool.and_eq_true, decide_eq_true_iff]

/-- **Tasks that are the same differ in nothing but their tags.** -/
theorem of_same (h : s.same t = true) : { s with tags := t.tags } = t := (same_iff.mp h).1

theorem same_symm (h : s.same t = true) : t.same s = true := by
  obtain ⟨heq, htags⟩ := same_iff.mp h
  exact same_iff.mpr ⟨by rw [← heq], Tags.same_comm _ _ ▸ htags⟩

theorem same_comm (s t : Task) : s.same t = t.same s :=
  Bool.eq_iff_iff.mpr ⟨same_symm, same_symm⟩

theorem same_self_iff_tags : t.same t = true ↔ t.tags.same t.tags = true :=
  same_iff.trans (and_iff_right rfl)

/-- **A task is the same as itself unless it has a coordinate that is NaN.** -/
theorem same_self_iff : t.same t = true ↔ ∀ tag ∈ t.tags.toList, tag.value.hasNaN = false :=
  same_self_iff_tags.trans Tags.same_self_iff

theorem same_self_of_same (h : s.same t = true) : s.same s = true :=
  same_self_iff_tags.mpr (Tags.same_self_of_same (same_iff.mp h).2)

theorem stage_of_same (h : s.same t = true) : s.stage = t.stage := by
  rw [← of_same h]

theorem history_of_same (h : s.same t = true) : s.history = t.history := by
  rw [← of_same h]

/-- Tasks that are the same and have the same tags are equal. -/
theorem eq_of_same (h : s.same t = true) (htags : s.tags = t.tags) : s = t := by
  rw [← of_same h, ← htags]

end Task

/-! ### Sets of tasks -/

namespace TaskMap

variable {tasks : TaskMap} {s t : Task}

theorem holds_iff : tasks.holds t = true ↔ ∃ s, tasks.get? t.id = some s ∧ s.same t = true := by
  unfold holds
  rw [Option.any_eq_true]

theorem holds_eq (h : tasks.get? t.id = some s) : tasks.holds t = s.same t := by
  unfold holds
  rw [h, Option.any_some]

/-- Of two sets with a task each under one identifier, one holds the task of the other just if the
other holds that of the first. -/
theorem holds_comm {before after : TaskMap} (hs : before.get? t.id = some s)
    (ht : after.get? t.id = some t) : after.holds s = before.holds t := by
  rw [holds_eq hs, holds_eq (id_of_get? hs ▸ ht), Task.same_comm]

/-- Every task of the set is the same as itself. -/
def SelfSame (tasks : TaskMap) : Prop := ∀ t ∈ tasks.toList, t.same t = true

instance (tasks : TaskMap) : Decidable tasks.SelfSame := inferInstanceAs (Decidable (∀ _ ∈ _, _))

/-- The task with an identifier is not the same as itself, so whoever reads it writes it. -/
def Restless (tasks : TaskMap) (id : TaskId) : Prop :=
  ∃ t, tasks.get? id = some t ∧ t.same t = false

theorem selfSame_iff : tasks.SelfSame ↔ ¬ ∃ id, tasks.Restless id := by
  constructor
  · rintro hself ⟨id, t, ht, hno⟩
    exact Bool.false_ne_true (hno.symm.trans (hself t (mem_of_get? ht)))
  · intro hnone t ht
    by_contra hno
    exact hnone ⟨t.id, t, get?_id_of_mem ht, Bool.eq_false_iff.mpr hno⟩

end TaskMap

end TaskPipeline
