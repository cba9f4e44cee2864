import Mathlib.Data.List.Basic
import TaskPipeline.Catalog

/-!
# Listed entries

`StandsLast` says that an entry is the last one of a list with its key.  Of the entries of a list
that have one key, the last is found in the catalog that they are put into
(`Catalog.find?_insertAll`).
-/

namespace TaskPipeline

/-- The entry is the last one of the list with its key. -/
def StandsLast {α κ : Type} (key : α → κ) (as : List α) (a : α) : Prop :=
  ∃ front back, as = front ++ a :: back ∧ ∀ b ∈ back, key b ≠ key a

/-- An entry at the end of a list is the last one with its key, and so are the others that have
another key and were the last before. -/
theorem standsLast_concat {α κ : Type} {key : α → κ} {as : List α} {a b : α} :
    StandsLast key (as ++ [b]) a ↔ a = b ∨ StandsLast key as a ∧ key b ≠ key a := by
  constructor
  · rintro ⟨front, back, heq, hback⟩
    rcases List.eq_nil_or_concat' back with rfl | ⟨back, c, rfl⟩
    · exact .inl (List.singleton_injective (List.append_inj' heq rfl).2).symm
    · have heq' : as ++ [b] = (front ++ a :: back) ++ [c] := by simpa using heq
      obtain ⟨rfl, hlast⟩ := List.append_inj' heq' rfl
      obtain rfl := List.singleton_injective hlast
      refine .inr ⟨⟨front, back, rfl, fun d hd => hback d ?_⟩, hback b ?_⟩
      · exact List.mem_append_left _ hd
      · exact List.mem_append_right _ List.mem_cons_self
  · rintro (rfl | ⟨⟨front, back, rfl, hback⟩, hb⟩)
    · exact ⟨as, [], rfl, fun c hc => absurd hc List.not_mem_nil⟩
    · refine ⟨front, back ++ [b], by simp, fun c hc => ?_⟩
      rcases List.mem_append.mp hc with hc | hc
      · exact hback c hc
      · rwa [List.mem_singleton.mp hc]

theorem not_standsLast_nil {α κ : Type} {key : α → κ} {a : α} : ¬StandsLast key [] a := by
  rintro ⟨front, back, heq, -⟩
  simp at heq

namespace Catalog

open Keyed (key)

variable {α : Type} [Keyed α]

/-- **The last entry wins**, over earlier entries and over what was in the catalog. -/
theorem find?_insertAll (c : Catalog α) (as : List α) (k : String) :
    (c.insertAll as).find? k = (as.reverse.find? fun a => key a == k).or (c.find? k) := by
  induction as generalizing c with
  | nil => rfl
  | cons a as ih =>
    show ((c.insert a).insertAll as).find? k = _
    rw [ih, find?_insert, List.reverse_cons, List.find?_append, Option.or_assoc]
    by_cases h : key a = k <;> simp [h]

theorem find?_ofList (as : List α) (k : String) :
    (ofList as).find? k = as.reverse.find? fun a => key a == k := by
  unfold ofList
  rw [find?_insertAll, find?_empty, Option.or_none]

end Catalog

end TaskPipeline
