import Mathlib.Data.List.Nodup
import TaskPipeline.Proofs.Json.Reading
import TaskPipeline.Record.Task

/-!
# Records and their fields

`Denotes f v a`: the value `v` can be written and read as JSON, and the reader `f` takes it for `a`.
A record whose fields denote their contents is read field by field (`IsRecord.required`,
`IsRecord.defaulted`); `written` are the members of a record of which some are left out.
-/

namespace TaskPipeline.Json

variable {α : Type} {f : Decoder α} {v : Value} {a : α} {name : String}
  {members : List (String × Value)} {slots : List (String × Value × Bool)} {names : List String}

/-- The value is proper, and the reader takes it for `a`. -/
structure Denotes (f : Decoder α) (v : Value) (a : α) : Prop where
  proper : v.Proper
  decodes : f v = some a

/-! ### Simple values -/

theorem denotes_string (s : String) : Denotes Decode.string (.string s) s := ⟨.string s, rfl⟩

theorem denotes_nat {n bound : Nat} (h : n < bound) : Denotes (Decode.nat bound) (.nat n) n :=
  ⟨.number (Numeral.proper_ofNat n), Numeral.nat?_ofNat h⟩

theorem denotes_word32 (n : UInt32) : Denotes Decode.word32 (.nat n.toNat) n := by
  refine ⟨.number (Numeral.proper_ofNat _), ?_⟩
  have hread : Decode.nat UInt32.size (.nat n.toNat) = some n.toNat := Numeral.nat?_ofNat n.toNat_lt
  unfold Decode.word32
  rw [hread, Option.map_some, UInt32.ofNat_toNat]

theorem denotes_double {d : Double} (h : d.Rereads) : Denotes Decode.double (.double d) d := by
  cases d with
  | finite d =>
    obtain ⟨hproper, hread⟩ := FiniteDouble.Rereads.proper h
    exact ⟨.number hproper, congrArg (Option.map Double.finite) hread⟩
  | infinity negative => cases h
  | nan => cases h

theorem Denotes.list {encode : α → Value} {as : List α} (h : ∀ a ∈ as, Denotes f (encode a) a) :
    Denotes (Decode.list f) (.array (as.map encode)) as := by
  constructor
  · apply Value.Proper.array
    intro v hv
    obtain ⟨a, ha, rfl⟩ := List.mem_map.mp hv
    exact (h a ha).proper
  · unfold Decode.list
    dsimp only
    induction as with
    | nil => rfl
    | cons a as ih =>
      have hrest := ih fun b hb => h b (List.mem_cons_of_mem _ hb)
      have ha := (h a List.mem_cons_self).decodes
      rw [List.map_cons, Decode.each, ha, hrest]
      rfl

/-- A value that may be absent: what is there is not written as `null`. -/
theorem Denotes.option {encode : α → Value} {a : Option α} (hnull : ∀ a, encode a ≠ .null)
    (h : ∀ a, Denotes f (encode a) a) : Denotes (Decode.option f) (.optional encode a) a := by
  cases a with
  | none => exact ⟨.null, rfl⟩
  | some a =>
    refine ⟨(h a).proper, ?_⟩
    have hread := (h a).decodes
    have hne := hnull a
    show Decode.option f (encode a) = some (some a)
    unfold Decode.option
    split
    · next heq => exact absurd heq hne
    · rw [hread, Option.map_some]

/-! ### Members -/

/-- The members of a record, each with whether it is left out. -/
def written (slots : List (String × Value × Bool)) : List (String × Value) :=
  slots.flatMap fun s => field s.1 s.2.1 s.2.2

theorem mem_written {m : String × Value} : m ∈ written slots ↔ (m.1, m.2, false) ∈ slots := by
  unfold written field
  rw [List.mem_flatMap]
  constructor
  · rintro ⟨⟨name, v, leftOut⟩, hs, hm⟩
    cases leftOut with
    | true => cases hm
    | false =>
      obtain rfl := List.mem_singleton.mp hm
      exact hs
  · intro hs
    exact ⟨_, hs, List.mem_singleton_self _⟩

theorem map_fst_written_sublist (slots : List (String × Value × Bool)) :
    ((written slots).map (·.1)).Sublist (slots.map (·.1)) := by
  induction slots with
  | nil => exact List.Sublist.slnil
  | cons s slots ih =>
    obtain ⟨name, v, leftOut⟩ := s
    cases leftOut with
    | true => exact ih.cons _
    | false => exact ih.cons_cons _

/-- Members with the names of fields, each once, are all kept. -/
theorem ofMembers?_eq (hnd : (members.map (·.1)).Nodup) (hnames : ∀ m ∈ members, m.1 ∈ names) :
    Fields.ofMembers? names members = some members := by
  induction members with
  | nil => rfl
  | cons m members ih =>
    obtain ⟨k, v⟩ := m
    obtain ⟨hk, hnd⟩ := List.nodup_cons.mp hnd
    have hrest := ih hnd fun m hm => hnames m (List.mem_cons_of_mem _ hm)
    have hmem : k ∈ names := hnames (k, v) List.mem_cons_self
    have hnone : (members.any (·.1 == k)) = false := by
      rw [List.any_eq_false]
      intro m hm heq
      exact hk (List.mem_map.mpr ⟨m, hm, beq_iff_eq.mp heq⟩)
    rw [Fields.ofMembers?, hrest]
    simp [hmem, hnone]

namespace Fields

theorem get?_of_mem (hnd : (members.map (·.1)).Nodup) (h : (name, v) ∈ members) :
    get? ⟨members⟩ name = some v := by
  unfold get?
  dsimp only
  induction members with
  | nil => cases h
  | cons m members ih =>
    obtain ⟨hm, hnd⟩ := List.nodup_cons.mp hnd
    rcases List.mem_cons.mp h with rfl | h
    · simp
    · have hne : m.1 ≠ name := by
        intro heq
        exact hm (List.mem_map.mpr ⟨(name, v), h, heq.symm⟩)
      rw [List.find?_cons_of_neg (by simpa using hne)]
      exact ih hnd h

theorem get?_eq_none (h : ∀ m ∈ members, m.1 ≠ name) : get? ⟨members⟩ name = none := by
  unfold get?
  rw [List.find?_eq_none.mpr fun m hm => by simpa using h m hm]
  rfl

end Fields

/-! ### Records -/

/-- The members are those of a record with these fields, in their order. -/
structure IsRecord (names : List String) (slots : List (String × Value × Bool)) : Prop where
  map_fst : slots.map (·.1) = names
  nodup : names.Nodup

namespace IsRecord

variable (h : IsRecord names slots)

include h

theorem nodup_written : ((written slots).map (·.1)).Nodup :=
  (map_fst_written_sublist slots).nodup (h.map_fst ▸ h.nodup)

theorem ofValue? : Fields.ofValue? names (.object (written slots)) = some ⟨written slots⟩ := by
  unfold Fields.ofValue?
  dsimp only
  rw [ofMembers?_eq h.nodup_written, Option.map_some]
  intro m hm
  rw [← h.map_fst]
  exact (map_fst_written_sublist slots).subset (List.mem_map_of_mem hm)

/-- A field that is always written is found. -/
theorem required (hslot : (name, v, false) ∈ slots) (hv : Denotes f v a) :
    Fields.required ⟨written slots⟩ name f = some a := by
  unfold Fields.required
  rw [Fields.get?_of_mem h.nodup_written (mem_written.mpr hslot)]
  exact hv.decodes

/-- A field is found, or left out because it has the value that a missing field has. -/
theorem defaulted (leftOut : Bool) {default : α} (hslot : (name, v, leftOut) ∈ slots)
    (hv : Denotes f v a) (hdefault : leftOut = true → a = default) :
    Fields.defaulted ⟨written slots⟩ name f default = some a := by
  unfold Fields.defaulted
  cases leftOut with
  | false =>
    rw [Fields.get?_of_mem h.nodup_written (mem_written.mpr hslot)]
    exact hv.decodes
  | true =>
    -- no other field has the name
    have hnone : ∀ m ∈ written slots, m.1 ≠ name := by
      rintro m hm rfl
      have hsame := List.inj_on_of_nodup_map (h.map_fst ▸ h.nodup) (mem_written.mp hm) hslot rfl
      cases hsame
    rw [Fields.get?_eq_none hnone, hdefault rfl]

omit h in
theorem proper (hslots : ∀ s ∈ slots, s.2.1.Proper) : (Value.object (written slots)).Proper :=
  .object fun _ hm => hslots _ (mem_written.mp hm)

end IsRecord

end TaskPipeline.Json
