import Mathlib.Data.List.Nodup
import TaskPipeline.Task.Flows

/-!
# Membership in flows

`Flows.add`, `Flows.addAll` and `Flows.replace` said through membership.  Adding keeps a list free
of repetitions, and so does replacing.  But a list that was read from a file may have repetitions, and
a replacement looks at the first entry only: the identifier stays listed iff it was listed more than
once (`Flows.mem_old_replace`), and otherwise no trace of it is left (`Flows.mem_replace`).
-/

namespace TaskPipeline.Flows

variable {f : Flows} {id x old new owner : TaskId}

theorem contains_iff : f.contains id = true ↔ id ∈ f.ids := List.contains_iff_mem

/-! ### Adding -/

theorem add_of_mem (h : id ∈ f.ids) : f.add id = f := by
  unfold add; rw [if_pos (contains_iff.mpr h)]

theorem add_of_not_mem (h : id ∉ f.ids) : f.add id = ⟨f.ids ++ [id]⟩ := by
  unfold add; rw [if_neg (mt contains_iff.mp h)]

theorem ids_add_of_not_mem (h : id ∉ f.ids) : (f.add id).ids = f.ids ++ [id] := by
  rw [add_of_not_mem h]

theorem mem_add : x ∈ (f.add id).ids ↔ x ∈ f.ids ∨ x = id := by
  by_cases h : id ∈ f.ids
  · rw [add_of_mem h]
    exact ⟨.inl, fun hx => hx.elim (fun hx => hx) fun hx => hx ▸ h⟩
  · rw [ids_add_of_not_mem h, List.mem_append, List.mem_singleton]

theorem nodup_add (h : f.ids.Nodup) : (f.add id).ids.Nodup := by
  by_cases hid : id ∈ f.ids
  · rwa [add_of_mem hid]
  · rw [ids_add_of_not_mem hid]
    exact h.append (List.nodup_singleton id) (List.disjoint_singleton.mpr hid)

theorem addAll_cons (f : Flows) (id : TaskId) (ids : List TaskId) :
    f.addAll (id :: ids) = (f.add id).addAll ids := rfl

theorem mem_addAll {ids : List TaskId} : x ∈ (f.addAll ids).ids ↔ x ∈ f.ids ∨ x ∈ ids := by
  induction ids generalizing f with
  | nil => simp [addAll]
  | cons id ids ih => rw [addAll_cons, ih, mem_add, List.mem_cons, or_assoc]

theorem nodup_addAll {ids : List TaskId} (h : f.ids.Nodup) : (f.addAll ids).ids.Nodup := by
  induction ids generalizing f with
  | nil => exact h
  | cons id ids ih => exact ih (nodup_add h)

/-- Adding other identifiers does not add entries of one. -/
theorem count_add_of_ne (h : id ≠ x) : (f.add id).ids.count x = f.ids.count x := by
  by_cases hid : id ∈ f.ids
  · rw [add_of_mem hid]
  · rw [ids_add_of_not_mem hid, List.count_append, List.count_singleton, if_neg (by simpa using h),
      Nat.add_zero]

theorem count_addAll_of_not_mem {ids : List TaskId} (h : x ∉ ids) :
    (f.addAll ids).ids.count x = f.ids.count x := by
  induction ids generalizing f with
  | nil => rfl
  | cons id ids ih =>
    rw [List.mem_cons, not_or] at h
    rw [addAll_cons, ih h.2, count_add_of_ne (Ne.symm h.1)]

/-! ### Replacing -/

theorem replace_of_not_mem (h : old ∉ f.ids) : f.replace old new owner = f := by
  unfold replace; rw [if_neg (mt contains_iff.mp h)]

/-- **What a replacement does to a list with the old identifier**: its first entry goes away if the
list may not hold the new identifier again, and otherwise gives way to it. -/
theorem ids_replace_of_mem (h : old ∈ f.ids) (new owner : TaskId) :
    ∃ l₁ l₂, f.ids = l₁ ++ old :: l₂ ∧ old ∉ l₁ ∧
    ((new = owner ∨ new ∈ f.ids) ∧ (f.replace old new owner).ids = l₁ ++ l₂ ∨
      (new ≠ owner ∧ new ∉ f.ids) ∧ (f.replace old new owner).ids = l₁ ++ new :: l₂) := by
  obtain ⟨l₁, l₂, heq, hl₁⟩ := List.eq_append_cons_of_mem h
  refine ⟨l₁, l₂, heq, hl₁, ?_⟩
  by_cases hdrop : new = owner ∨ new ∈ f.ids
  · refine .inl ⟨hdrop, ?_⟩
    unfold replace
    rw [if_pos (contains_iff.mpr h), if_pos (by simpa [contains_iff] using hdrop)]
    show f.ids.erase old = _
    rw [heq, List.erase_append_right _ hl₁, List.erase_cons_head]
  · have hkeep := not_or.mp hdrop
    refine .inr ⟨hkeep, ?_⟩
    unfold replace
    rw [if_pos (contains_iff.mpr h), if_neg (by simpa [contains_iff] using hkeep)]
    show f.ids.replace old new = _
    rw [heq, List.replace_append_right hl₁, List.replace_cons_self]

/-- The number of entries of an identifier behind its first one. -/
theorem count_append_cons {l₁ : List TaskId} (h : old ∉ l₁) (l₂ : List TaskId) :
    (l₁ ++ old :: l₂).count old = l₂.count old + 1 := by
  rw [List.count_append, List.count_eq_zero_of_not_mem h, List.count_cons_self, Nat.zero_add]

/-- **A replacement leaves the old identifier in the list** iff it was there more than once. -/
theorem mem_old_replace (hne : new ≠ old) :
    old ∈ (f.replace old new owner).ids ↔ 2 ≤ f.ids.count old := by
  by_cases hold : old ∈ f.ids
  · obtain ⟨l₁, l₂, heq, hl₁, hcase⟩ := ids_replace_of_mem hold new owner
    have hleft : old ∈ (f.replace old new owner).ids ↔ old ∈ l₂ := by
      rcases hcase with ⟨-, hreplaced⟩ | ⟨-, hreplaced⟩
      · simp [hreplaced, hl₁]
      · simp [hreplaced, hl₁, hne.symm]
    have hcount := count_append_cons hl₁ l₂
    rw [hleft, heq, ← List.count_pos_iff]
    omega
  · rw [replace_of_not_mem hold, List.count_eq_zero_of_not_mem hold]
    exact iff_of_false hold (by omega)

/-- **What a list holds after a replacement** if it listed the old identifier once at most: what it
held before, the old identifier excepted, and the new one if the old one was there and the owner is
another. -/
theorem mem_replace (hcount : f.ids.count old ≤ 1) (hne : new ≠ old) :
    x ∈ (f.replace old new owner).ids ↔
      x ∈ f.ids ∧ x ≠ old ∨ old ∈ f.ids ∧ x = new ∧ new ≠ owner := by
  by_cases hold : old ∈ f.ids
  · obtain ⟨l₁, l₂, heq, hl₁, hcase⟩ := ids_replace_of_mem hold new owner
    have hl₂ : old ∉ l₂ := by
      rw [heq, count_append_cons hl₁ l₂] at hcount
      exact List.count_eq_zero.mp (by omega)
    have hmem : x ∈ f.ids ∧ x ≠ old ↔ x ∈ l₁ ∨ x ∈ l₂ := by
      rw [heq, List.mem_append, List.mem_cons]
      constructor
      · rintro ⟨hx | rfl | hx, hxo⟩
        · exact .inl hx
        · exact absurd rfl hxo
        · exact .inr hx
      · rintro (hx | hx)
        · exact ⟨.inl hx, fun h => hl₁ (h ▸ hx)⟩
        · exact ⟨.inr (.inr hx), fun h => hl₂ (h ▸ hx)⟩
    rw [hmem]
    rcases hcase with ⟨hdrop, hreplaced⟩ | ⟨⟨howner, -⟩, hreplaced⟩
    · rw [hreplaced, List.mem_append]
      constructor
      · exact .inl
      · rintro (hx | ⟨-, rfl, howner⟩)
        · exact hx
        · exact hmem.mp ⟨hdrop.resolve_left howner, hne⟩
    · rw [hreplaced, List.mem_append, List.mem_cons]
      simp only [hold, howner, ne_eq, not_false_eq_true, true_and, and_true]
      tauto
  · rw [replace_of_not_mem hold]
    constructor
    · exact fun hx => .inl ⟨hx, fun h => hold (h ▸ hx)⟩
    · exact fun h => h.elim And.left fun h => absurd h.1 hold

theorem nodup_replace (hnd : f.ids.Nodup) : (f.replace old new owner).ids.Nodup := by
  by_cases hold : old ∈ f.ids
  · obtain ⟨l₁, l₂, heq, hl₁, hcase⟩ := ids_replace_of_mem hold new owner
    rw [heq] at hnd
    have hrest := List.nodup_middle.mp hnd
    rcases hcase with ⟨-, hreplaced⟩ | ⟨⟨-, hnew⟩, hreplaced⟩
    · rw [hreplaced]
      exact (List.nodup_cons.mp hrest).2
    · rw [hreplaced, List.nodup_middle, List.nodup_cons]
      refine ⟨fun h => hnew ?_, (List.nodup_cons.mp hrest).2⟩
      rw [heq, List.mem_append, List.mem_cons]
      exact (List.mem_append.mp h).imp_right .inr
  · rwa [replace_of_not_mem hold]

end TaskPipeline.Flows
