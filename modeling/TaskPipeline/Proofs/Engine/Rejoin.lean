import TaskPipeline.Proofs.Engine.Split
import TaskPipeline.Proofs.Graph.Detour

/-!
# Folding a chain into its first task

A chain has taken the place of a task (`Graph.Splits`).  No path but the edge between them joins its
first two tasks, since the first is the only inflow of the second (`Graph.Splits.not_detour`).  So
the second can be folded into the first, and what is left is the chain without it
(`Graph.Splits.fold`): the first takes over the edge to the third, and drops the one to the second.
-/

namespace TaskPipeline

open Relation

namespace Flows

variable {f : Flows} {ids : List TaskId}

/-- Identifiers that are new to a list are added at its end. -/
theorem ids_addAll_of_new (hnd : ids.Nodup) (hnew : ∀ id ∈ ids, id ∉ f.ids) :
    (f.addAll ids).ids = f.ids ++ ids := by
  induction ids generalizing f with
  | nil => exact (List.append_nil f.ids).symm
  | cons id ids ih =>
    obtain ⟨hid, hnd⟩ := List.nodup_cons.mp hnd
    have hadd := ids_add_of_not_mem (hnew id List.mem_cons_self)
    have hrest : ∀ x ∈ ids, x ∉ (f.add id).ids := by
      intro x hx
      rw [mem_add, not_or]
      exact ⟨hnew x (List.mem_cons_of_mem _ hx), fun heq => hid (heq ▸ hx)⟩
    rw [addAll_cons, ih hnd hrest, hadd, List.append_assoc]
    rfl

/-- In its own list nothing takes the place of an identifier. -/
theorem ids_replace_own (f : Flows) (old owner : TaskId) :
    (f.replace old owner owner).ids = f.ids.erase old := by
  unfold replace
  split
  · rw [if_pos (by simp)]
  · next h => rw [List.erase_of_not_mem (mt contains_iff.mpr h)]

end Flows

namespace Graph

/-- A sequence without its second member. -/
def skip (f : Nat → TaskId) : Nat → TaskId
  | 0 => f 0
  | i + 1 => f (i + 2)

variable {tasks later rest : TaskMap} {id x : TaskId} {f : Nat → TaskId} {n : Nat} {now : Instant}

theorem exists_skip_eq {i : Nat} (hi : i < n + 1) : ∃ j < n + 2, j ≠ 1 ∧ skip f i = f j := by
  cases i with
  | zero => exact ⟨0, by omega, by omega, rfl⟩
  | succ i => exact ⟨i + 2, by omega, by omega, rfl⟩

theorem exists_eq_skip {j : Nat} (hj : j < n + 2) (hne : j ≠ 1) : ∃ i < n + 1, skip f i = f j := by
  match j with
  | 0 => exact ⟨0, by omega, rfl⟩
  | i + 2 => exact ⟨i + 1, by omega, rfl⟩

/-! ### Lists that a contraction leaves alone -/

section Folds

variable {old new : TaskId} (h : Folds tasks rest old new) (hold : x ≠ old) (hnew : x ≠ new)

include h hold hnew

theorem Folds.inflowsOf_of_not_mem (hmem : old ∉ inflowsOf tasks x) :
    inflowsOf (rename rest old new now) x = inflowsOf tasks x := by
  rw [inflowsOf_rename h.gone, h.inflows.of_ne x hold hnew]
  exact congrArg Flows.ids (Flows.replace_of_not_mem hmem)

theorem Folds.outflowsOf_of_not_mem (hmem : old ∉ outflowsOf tasks x) :
    outflowsOf (rename rest old new now) x = outflowsOf tasks x := by
  rw [outflowsOf_rename h.gone, h.outflows.of_ne x hold hnew]
  exact congrArg Flows.ids (Flows.replace_of_not_mem hmem)

end Folds

/-! ### A chain of new tasks -/

/-- In a well-formed graph a chain of new and different tasks has taken the place of a task. -/
structure NewChain (tasks later : TaskMap) (id : TaskId) (f : Nat → TaskId) (n : Nat) : Prop extends
    Splits tasks later id f n where
  /-- The graph with the chain is well-formed. -/
  wellFormed : WellFormed later
  /-- The tasks of the chain are new. -/
  fresh : ∀ i < n, tasks.has (f i) = false
  /-- They are different. -/
  distinct : ∀ i < n, ∀ j < n, f i = f j → i = j

namespace NewChain

section Chain

variable (h : NewChain tasks later id f n)

include h

theorem ne {i j : Nat} (hi : i < n) (hj : j < n) (hij : i ≠ j) : f i ≠ f j := fun heq =>
  hij (h.distinct i hi j hj heq)

theorem other_ne (hx : tasks.has x = true) {i : Nat} (hi : i < n) : x ≠ f i :=
  TaskMap.ne_of_has hx (h.fresh i hi)

end Chain

variable (h : NewChain tasks later id f (n + 2))

include h

theorem distinct_skip : ∀ i < n + 1, ∀ j < n + 1, skip f i = skip f j → i = j := by
  intro i hi j hj heq
  match i, j with
  | 0, 0 => rfl
  | 0, j + 1 => exact absurd heq (h.ne (by omega) (by omega) (by omega))
  | i + 1, 0 => exact absurd heq (h.ne (by omega) (by omega) (by omega))
  | i + 1, j + 1 => exact Nat.succ.inj (h.distinct (i + 2) (by omega) (j + 2) (by omega) heq)

/-! ### Its first two tasks -/

/-- The second has an edge to the third only. -/
theorem outflows_second : outflowsOf later (f 1) = if 1 < n + 1 then [f 2] else [] := by
  rw [h.outflows_later 0 (by omega)]
  exact if_congr (by omega) rfl rfl

/-- Only the first has an edge to the second. -/
theorem edge_second_iff : Edge later x (f 1) ↔ x = f 0 := by
  have hin : inflowsOf later (f 1) = [f 0] := h.inflows_later 0 (by omega)
  show f 1 ∈ outflowsOf later x ↔ _
  rw [h.wellFormed.mem_outflows_iff, hin, List.mem_singleton]

/-- Only the third has an edge from the second. -/
theorem eq_third (hx : f 1 ∈ inflowsOf later x) : 0 < n ∧ x = f 2 := by
  have hout := (h.wellFormed.mem_outflows_iff (f 1) x).mpr hx
  rw [h.outflows_second] at hout
  split at hout
  · next hn => exact ⟨by omega, List.mem_singleton.mp hout⟩
  · cases hout

/-- What comes behind the second does not come behind the first. -/
theorem not_edge_first (hx : Edge later (f 1) x) : x ≠ f 0 ∧ ¬ Edge later (f 0) x := by
  obtain ⟨hn, rfl⟩ := h.eq_third ((h.wellFormed.mem_outflows_iff (f 1) x).mp hx)
  refine ⟨h.ne (by omega) (by omega) (by omega), fun hedge => ?_⟩
  have hin : inflowsOf later (f 2) = [f 1] := h.inflows_later 1 (by omega)
  have hmem := (h.wellFormed.mem_outflows_iff (f 0) (f 2)).mp hedge
  rw [hin, List.mem_singleton] at hmem
  exact h.ne (by omega) (by omega) (by omega) hmem

/-- **No other path joins the first two tasks of a chain.** -/
theorem not_detour : ¬ (Detour later (f 1) (f 0) ∨ Detour later (f 0) (f 1)) := by
  have hacyclic := h.wellFormed.acyclic
  have hfirst : Edge later (f 0) (f 1) := h.edge_second_iff.mpr rfl
  rintro (⟨z, hz, hback⟩ | ⟨z, hz, hpath⟩)
  · exact hacyclic (f 0) ((hback.head hz).head hfirst)
  · -- a path to the second comes through the first
    obtain ⟨y, hzy, hlast⟩ := TransGen.tail'_iff.mp hpath
    obtain rfl := h.edge_second_iff.mp hlast
    exact hacyclic (f 0) (TransGen.head' hz hzy)

/-- Which tasks are there but for the second. -/
theorem has_skip_iff : later.has x = true ∧ x ≠ f 1 ↔
    tasks.has x = true ∧ x ≠ id ∨ ∃ i < n + 1, x = skip f i := by
  rw [h.has_iff]
  constructor
  · rintro ⟨hx | ⟨j, hj, rfl⟩, hne⟩
    · exact .inl hx
    · obtain ⟨i, hi, heq⟩ := exists_eq_skip hj fun hj => hne (congrArg f hj)
      exact .inr ⟨i, hi, heq.symm⟩
  · rintro (⟨hx, hxid⟩ | ⟨i, hi, rfl⟩)
    · exact ⟨.inl ⟨hx, hxid⟩, h.other_ne hx (by omega)⟩
    · obtain ⟨j, hj, hne, heq⟩ := exists_skip_eq (f := f) hi
      rw [heq]
      exact ⟨.inr ⟨j, hj, rfl⟩, h.ne hj (by omega) hne⟩

/-! ### Folding the second into the first -/

section Fold

variable (hfolds : Folds later rest (f 1) (f 0))

include hfolds

/-- The others keep their inflows, the third of the chain excepted. -/
theorem inflows_kept (hfirst : x ≠ f 0) (hsecond : x ≠ f 1) (hthird : 0 < n → x ≠ f 2) :
    inflowsOf (rename rest (f 1) (f 0) now) x = inflowsOf later x :=
  hfolds.inflowsOf_of_not_mem hsecond hfirst fun hmem =>
    have ⟨hn, hx⟩ := h.eq_third hmem
    hthird hn hx

/-- The others keep their outflows. -/
theorem outflows_kept (hfirst : x ≠ f 0) (hsecond : x ≠ f 1) :
    outflowsOf (rename rest (f 1) (f 0) now) x = outflowsOf later x :=
  hfolds.outflowsOf_of_not_mem hsecond hfirst fun hmem => hfirst (h.edge_second_iff.mp hmem)

/-- The third comes behind the first. -/
theorem inflows_third (hn : 0 < n) : inflowsOf (rename rest (f 1) (f 0) now) (f 2) = [f 0] := by
  have hfirst : f 0 ≠ f 2 := h.ne (by omega) (by omega) (by omega)
  have hsecond : f 2 ≠ f 1 := h.ne (by omega) (by omega) (by omega)
  have hlists : inflowsOf rest (f 2) = [f 1] := by
    rw [hfolds.inflows.of_ne (f 2) hsecond hfirst.symm]
    exact h.inflows_later 1 (by omega)
  rw [inflowsOf_rename hfolds.gone, hlists, ids_replace_eq_map (List.nodup_singleton (f 1))
    (mt List.mem_singleton.mp hfolds.ne) hfirst, List.map_singleton, redirect, if_pos rfl]

/-- The first keeps its inflows if it takes over none. -/
theorem inflows_first_kept (hin : inflowsOf rest (f 0) = inflowsOf later (f 0)) :
    inflowsOf (rename rest (f 1) (f 0) now) (f 0) = inflowsOf tasks id := by
  have hmem : f 1 ∉ inflowsOf later (f 0) := fun hmem =>
    have ⟨hn, heq⟩ := h.eq_third hmem
    h.ne (by omega) (by omega) (by omega) heq
  rw [inflowsOf_rename hfolds.gone, Flows.ids_replace_own, hin, List.erase_of_not_mem hmem,
    h.inflows_first]

/-- The first has the outflows of the second in the place of the second. -/
theorem outflows_first_folded
    (hout : outflowsOf rest (f 0) = outflowsOf later (f 0) ++ outflowsOf later (f 1)) :
    outflowsOf (rename rest (f 1) (f 0) now) (f 0) =
      outflowsOf tasks id ++ if 1 < n + 1 then [f 2] else [] := by
  have hfirst : outflowsOf later (f 0) = outflowsOf tasks id ++ [f 1] := by
    rw [h.outflows_first, if_pos (by omega)]
  -- the second is the last that the first lists, and is listed once
  have hmem : f 1 ∉ outflowsOf tasks id := fun hmem => by
    have hnd := h.wellFormed.nodup_outflows (f 0)
    rw [hfirst, List.nodup_append] at hnd
    exact hnd.2.2 _ hmem _ (List.mem_singleton_self _) rfl
  rw [outflowsOf_rename hfolds.gone, Flows.ids_replace_own, hout, hfirst, List.append_assoc,
    List.erase_append_right _ hmem, List.singleton_append, List.erase_cons_head, h.outflows_second]

/-- **Folding the second task of a chain into the first** leaves the chain without it. -/
theorem splits_fold
    (hhas : ∀ x, (rename rest (f 1) (f 0) now).has x = true ↔ later.has x = true ∧ x ≠ f 1)
    (hin : inflowsOf rest (f 0) = inflowsOf later (f 0))
    (hout : outflowsOf rest (f 0) = outflowsOf later (f 0) ++ outflowsOf later (f 1)) :
    Splits tasks (rename rest (f 1) (f 0) now) id (skip f) (n + 1) where
  has_iff x := by rw [hhas, h.has_skip_iff]
  inflows_other x hx hxid := by
    rw [h.inflows_kept hfolds (h.other_ne hx (by omega)) (h.other_ne hx (by omega))
      fun hn => h.other_ne hx (by omega)]
    exact h.inflows_other x hx hxid
  outflows_other x hx hxid := by
    rw [h.outflows_kept hfolds (h.other_ne hx (by omega)) (h.other_ne hx (by omega))]
    exact h.outflows_other x hx hxid
  inflows_first := h.inflows_first_kept hfolds hin
  outflows_first := h.outflows_first_folded hfolds hout
  inflows_later i hi := by
    cases i with
    | zero => exact h.inflows_third hfolds (by omega)
    | succ i =>
      have hkept : inflowsOf (rename rest (f 1) (f 0) now) (f (i + 3)) = inflowsOf later (f (i + 3)) :=
        h.inflows_kept hfolds (h.ne (by omega) (by omega) (by omega))
          (h.ne (by omega) (by omega) (by omega)) fun hn => h.ne (by omega) (by omega) (by omega)
      exact hkept.trans (h.inflows_later (i + 2) (by omega))
  outflows_later i hi := by
    have hkept : outflowsOf (rename rest (f 1) (f 0) now) (f (i + 2)) = outflowsOf later (f (i + 2)) :=
      h.outflows_kept hfolds (h.ne (by omega) (by omega) (by omega))
        (h.ne (by omega) (by omega) (by omega))
    refine (hkept.trans (h.outflows_later (i + 1) (by omega))).trans ?_
    exact if_congr (by omega) rfl rfl

end Fold

/-! ### A merge of the first two -/

section Merge

variable {s t : Task} {collision : TagCollision} (hs : later.get? (f 1) = some s)
  (ht : later.get? (f 0) = some t)

include hs ht

/-- The first takes over the outflows of the second, whose only inflow is the first. -/
theorem flows_absorbed :
    inflowsOf (later.absorbed (f 1) (t.absorb s now collision)) (f 0) = inflowsOf later (f 0) ∧
      outflowsOf (later.absorbed (f 1) (t.absorb s now collision)) (f 0) =
        outflowsOf later (f 0) ++ outflowsOf later (f 1) := by
  have hne : f 0 ≠ f 1 := h.ne (by omega) (by omega) (by omega)
  have htid : t.id = f 0 := TaskMap.id_of_get? ht
  have hid : (t.absorb s now collision).id = f 0 := htid
  constructor
  · -- a task does not take over itself
    have hin : s.inflows.ids = [f 0] :=
      (inflowsOf_of_get? hs).symm.trans (h.inflows_later 0 (by omega))
    have hnone : s.inflows.ids.filter (· ≠ t.id) = [] := by simp [hin, htid]
    show TaskMap.entries Task.inflows _ _ = _
    rw [TaskMap.entries_absorbed hne hid rfl, hnone, inflowsOf_of_get? ht]
    rfl
  · -- everything behind the second is new to the first
    have hall : s.outflows.ids.filter (· ≠ t.id) = s.outflows.ids := by
      rw [← outflowsOf_of_get? hs, htid, List.filter_eq_self]
      exact fun x hx => decide_eq_true (h.not_edge_first hx).1
    have hnd := h.wellFormed.nodup_outflows (f 1)
    have hnew : ∀ x ∈ outflowsOf later (f 1), x ∉ outflowsOf later (f 0) :=
      fun x hx => (h.not_edge_first hx).2
    rw [outflowsOf_of_get? hs] at hnd hnew
    rw [outflowsOf_of_get? ht] at hnew
    show TaskMap.entries Task.outflows _ _ = _
    rw [TaskMap.entries_absorbed hne hid rfl, hall, Flows.ids_addAll_of_new hnd hnew,
      outflowsOf_of_get? ht, outflowsOf_of_get? hs]

/-- **A merge of the first two tasks of a chain** leaves the chain without the second. -/
theorem splits_merged
    (hhas : ∀ x, (rename (later.absorbed (f 1) (t.absorb s now collision)) (f 1) (f 0) now).has x =
      true ↔ later.has x = true ∧ x ≠ f 1) :
    Splits tasks (rename (later.absorbed (f 1) (t.absorb s now collision)) (f 1) (f 0) now) id
      (skip f) (n + 1) := by
  have hne : f 0 ≠ f 1 := h.ne (by omega) (by omega) (by omega)
  obtain ⟨hin, hout⟩ := h.flows_absorbed hs ht
  exact h.splits_fold (TaskMap.folds_merge h.wellFormed.sound hs ht hne) hhas hin hout

end Merge

end NewChain

end Graph

end TaskPipeline
