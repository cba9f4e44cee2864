import Mathlib.Data.Set.Finite.Basic
import TaskPipeline.Order.Sort
import TaskPipeline.Proofs.Graph.Reach

/-!
# Placing every task that can be placed

In every round of `Order.sort` the counter of a task is the number of entries in its list of inflows
that stand for tasks of the set that are not placed yet, and the ready tasks are those unplaced ones
whose counter is zero (`State.Valid`).  Repeated entries are counted and counted down alike, since a
task is released once for each of them (`count_waiters`).

A round places a ready task if there is one, and there is room for as many rounds as there are
tasks; so nothing is ready in the end (`ready_final`).  A task that was left over would wait for
another one, and so on; the tasks being finitely many, there would be a cycle
(`mem_placed_of_acyclic`).
-/

namespace TaskPipeline.Order

open Relation

variable {tasks : TaskMap} {s : State} {id p : TaskId}

/-! ### Waiting -/

/-- The entries in the list of inflows of a task that stand for tasks of the set. -/
def awaited (tasks : TaskMap) (id : TaskId) : List TaskId :=
  (Graph.inflowsOf tasks id).filter tasks.has

/-- A task waits for another one of the set. -/
def Awaits (tasks : TaskMap) (id p : TaskId) : Prop := p ∈ awaited tasks id

/-- Those entries that stand for tasks that are not placed. -/
def pending (tasks : TaskMap) (placed : List TaskId) (id : TaskId) : List TaskId :=
  (awaited tasks id).filter fun q => !placed.contains q

theorem dependencies_eq {t : Task} (ht : tasks.get? id = some t) :
    dependencies tasks t = awaited tasks id := by
  unfold awaited
  rw [Graph.inflowsOf_of_get? ht]
  rfl

theorem has_of_awaits (h : Awaits tasks id p) : tasks.has id = true ∧ tasks.has p = true := by
  obtain ⟨hmem, hhas⟩ := List.mem_filter.mp h
  exact ⟨Graph.has_of_mem_inflowsOf hmem, hhas⟩

/-- A task, once for each of its entries that stand for another one. -/
def waits (tasks : TaskMap) (p : TaskId) (t : Task) : List TaskId :=
  ((dependencies tasks t).filter fun q => q = p).map fun _ => t.id

theorem waiters_eq (tasks : TaskMap) (p : TaskId) :
    waiters tasks p = tasks.toList.flatMap (waits tasks p) := rfl

theorem count_waits_self (tasks : TaskMap) (p : TaskId) (t : Task) :
    (waits tasks p t).count t.id = (dependencies tasks t).count p := by
  unfold waits
  rw [List.map_const', List.count_replicate_self, List.count_eq_countP,
    List.countP_eq_length_filter]
  rfl

theorem count_waits_of_ne {ts : List Task} (h : ∀ t ∈ ts, t.id ≠ id) :
    (ts.flatMap (waits tasks p)).count id = 0 := by
  rw [List.count_eq_zero]
  intro hmem
  obtain ⟨t, ht, hid⟩ := List.mem_flatMap.mp hmem
  obtain ⟨-, -, rfl⟩ := List.mem_map.mp hid
  exact h t ht rfl

/-- **A task is released once for each of its entries.** -/
theorem count_waiters (tasks : TaskMap) (p id : TaskId) :
    (waiters tasks p).count id = (awaited tasks id).count p := by
  rw [waiters_eq]
  cases hget : tasks.get? id with
  | none =>
    have hne : ∀ t ∈ tasks.toList, t.id ≠ id := by
      rintro t ht rfl
      rw [TaskMap.get?_id_of_mem ht] at hget
      cases hget
    rw [count_waits_of_ne hne]
    unfold awaited
    rw [Graph.inflowsOf_of_none hget]
    rfl
  | some t =>
    -- no task before or after it has its identifier
    obtain ⟨front, back, hsplit⟩ := List.append_of_mem (TaskMap.mem_of_get? hget)
    obtain rfl := TaskMap.id_of_get? hget
    have hnd := TaskMap.nodup_ids tasks
    rw [hsplit, List.map_append, List.map_cons, List.nodup_middle, List.nodup_cons,
      List.mem_append, not_or] at hnd
    have hfront : ∀ u ∈ front, u.id ≠ t.id := fun u hu heq =>
      hnd.1.1 (List.mem_map.mpr ⟨u, hu, heq⟩)
    have hback : ∀ u ∈ back, u.id ≠ t.id := fun u hu heq =>
      hnd.1.2 (List.mem_map.mpr ⟨u, hu, heq⟩)
    rw [hsplit, List.flatMap_append, List.flatMap_cons, List.count_append, List.count_append,
      count_waits_of_ne hfront, count_waits_of_ne hback, count_waits_self, dependencies_eq hget,
      Nat.zero_add, Nat.add_zero]

theorem mem_waiters : id ∈ waiters tasks p ↔ Awaits tasks id p := by
  rw [← List.count_pos_iff, count_waiters, List.count_pos_iff]
  rfl

/-- Placing a task takes away its entries. -/
theorem length_pending_cons (tasks : TaskMap) (id : TaskId) {placed : List TaskId}
    (hp : p ∉ placed) :
    (pending tasks (p :: placed) id).length + (awaited tasks id).count p =
      (pending tasks placed id).length := by
  unfold pending
  induction awaited tasks id with
  | nil => rfl
  | cons q entries ih =>
    rw [List.count_cons]
    by_cases hqp : q = p
    · subst hqp
      rw [List.filter_cons_of_neg (by simp), List.filter_cons_of_pos (by simpa using hp),
        List.length_cons, ← ih]
      simp only [BEq.rfl, if_true]
      omega
    · have hsame : (!(p :: placed).contains q) = !placed.contains q := by simp [hqp]
      rw [List.filter_cons, List.filter_cons, hsame]
      simp only [beq_iff_eq, hqp, if_false]
      split
      · rw [List.length_cons, List.length_cons, ← ih]
        omega
      · exact ih

theorem pending_eq_nil_iff {placed : List TaskId} :
    (pending tasks placed id).length = 0 ↔ ∀ p, Awaits tasks id p → p ∈ placed := by
  unfold pending Awaits
  rw [List.length_eq_zero_iff, List.filter_eq_nil_iff]
  simp

/-! ### Releasing -/

theorem mem_insertReady {ready : List TaskId} : id ∈ insertReady p ready ↔ id = p ∨ id ∈ ready := by
  induction ready with
  | nil => simp [insertReady]
  | cons r ready ih =>
    unfold insertReady
    split
    · exact List.mem_cons
    · split
      · next heq => simp [heq]
      · rw [List.mem_cons, ih, List.mem_cons, or_left_comm]

theorem sorted_insertReady (p : TaskId) {ready : List TaskId}
    (h : ready.Pairwise fun a b => a.text < b.text) :
    (insertReady p ready).Pairwise fun a b => a.text < b.text := by
  induction ready with
  | nil => exact List.pairwise_singleton _ _
  | cons r ready ih =>
    obtain ⟨hr, hready⟩ := List.pairwise_cons.mp h
    unfold insertReady
    split
    · next hlt =>
      refine List.pairwise_cons.mpr ⟨fun q hq => ?_, h⟩
      rcases List.mem_cons.mp hq with rfl | hq
      · exact hlt
      · exact String.lt_trans hlt (hr q hq)
    · next hle =>
      split
      · exact h
      · next hne =>
        -- it comes behind the first one
        have hlt : r.text < p.text :=
          Std.lt_of_le_of_ne (Std.not_lt.mp hle) fun heq => hne (Ident.text_inj.mp heq.symm)
        refine List.pairwise_cons.mpr ⟨fun q hq => ?_, ih hready⟩
        rcases mem_insertReady.mp hq with rfl | hq
        · exact hlt
        · exact hr q hq

/-- **Releasing tasks** counts each of them down as often as it is released, and makes those ready
that end up at zero. -/
theorem release_spec (s : State) (ws : List TaskId) :
    (∀ id, (ws.foldl State.release s).waiting id = s.waiting id - ws.count id) ∧
    (∀ id, id ∈ (ws.foldl State.release s).ready ↔
      id ∈ s.ready ∨ id ∈ ws ∧ s.waiting id - ws.count id = 0) ∧
    (ws.foldl State.release s).placed = s.placed := by
  induction ws generalizing s with
  | nil => exact ⟨fun _ => rfl, by simp, rfl⟩
  | cons w ws ih =>
    obtain ⟨hwaiting, hready, hplaced⟩ := ih (s.release w)
    have hleft : ∀ id,
        (s.release w).waiting id - ws.count id = s.waiting id - (w :: ws).count id := by
      intro id
      rw [List.count_cons]
      unfold State.release
      dsimp only
      by_cases hid : id = w
      · subst hid
        simp only [if_true, BEq.rfl]
        omega
      · rw [if_neg hid]
        simp [Ne.symm hid]
    refine ⟨fun id => ?_, fun id => ?_, hplaced⟩
    · rw [List.foldl_cons, hwaiting, hleft]
    · rw [List.foldl_cons, hready, hleft, List.mem_cons]
      have hnow : id ∈ (s.release w).ready ↔ id ∈ s.ready ∨ id = w ∧ s.waiting id - 1 = 0 := by
        unfold State.release
        dsimp only
        split
        · next hzero =>
          rw [mem_insertReady, or_comm]
          exact or_congr_right ⟨fun heq => ⟨heq, heq ▸ hzero⟩, And.left⟩
        · next hpos =>
          refine ⟨.inl, fun h => h.resolve_right ?_⟩
          rintro ⟨rfl, hzero⟩
          exact hpos hzero
      rw [hnow]
      -- what is ready now stays so: it has no entries left
      constructor
      · rintro ((hid | ⟨rfl, hzero⟩) | ⟨hid, hzero⟩)
        · exact .inl hid
        · refine .inr ⟨.inl rfl, ?_⟩
          rw [List.count_cons_self]
          omega
        · exact .inr ⟨.inr hid, hzero⟩
      · rintro (hid | ⟨rfl | hid, hzero⟩)
        · exact .inl (.inl hid)
        · by_cases hmem : id ∈ ws
          · exact .inr ⟨hmem, hzero⟩
          · rw [List.count_cons_self, List.count_eq_zero.mpr hmem] at hzero
            exact .inl (.inr ⟨rfl, hzero⟩)
        · exact .inr ⟨hid, hzero⟩

theorem sorted_release {ws : List TaskId} (h : s.ready.Pairwise fun a b => a.text < b.text) :
    (ws.foldl State.release s).ready.Pairwise fun a b => a.text < b.text := by
  induction ws generalizing s with
  | nil => exact h
  | cons w ws ih =>
    refine ih ?_
    unfold State.release
    dsimp only
    split
    · exact sorted_insertReady w h
    · exact h

/-! ### Rounds -/

/-- What holds between two rounds. -/
structure State.Valid (tasks : TaskMap) (s : State) : Prop where
  /-- No task is placed twice. -/
  nodup : s.placed.Nodup
  /-- Only tasks of the set are placed. -/
  has : ∀ id ∈ s.placed, tasks.has id = true
  /-- The counters are right. -/
  waiting : ∀ id, s.waiting id = (pending tasks s.placed id).length
  /-- A task is placed after everything that it waits for. -/
  closed : ∀ id ∈ s.placed, s.waiting id = 0
  /-- Those tasks are ready that are not placed and wait for nothing. -/
  mem_ready : ∀ id, id ∈ s.ready ↔ tasks.has id = true ∧ id ∉ s.placed ∧ s.waiting id = 0
  /-- The ready tasks stand in ascending order. -/
  sorted : s.ready.Pairwise fun a b => a.text < b.text

theorem valid_start (tasks : TaskMap) : (State.start tasks).Valid tasks := by
  have hwaiting : ∀ id, (State.start tasks).waiting id = (awaited tasks id).length := by
    intro id
    unfold State.start
    dsimp only
    cases hget : tasks.get? id with
    | none =>
      unfold awaited
      rw [Graph.inflowsOf_of_none hget]
      rfl
    | some t => exact congrArg List.length (dependencies_eq hget)
  refine ⟨List.nodup_nil, nofun, fun id => ?_, nofun, fun id => ?_, ?_⟩
  · rw [hwaiting]
    unfold pending State.start
    rw [List.filter_eq_self.mpr (by simp)]
  · rw [hwaiting]
    unfold State.start
    rw [List.mem_map, List.length_eq_zero_iff, TaskMap.has_iff]
    constructor
    · rintro ⟨t, ht, rfl⟩
      obtain ⟨hmem, hempty⟩ := List.mem_filter.mp ht
      have hget := TaskMap.get?_id_of_mem hmem
      exact ⟨⟨t, hget⟩, List.not_mem_nil, dependencies_eq hget ▸ List.isEmpty_iff.mp hempty⟩
    · rintro ⟨⟨t, hget⟩, -, hempty⟩
      refine ⟨t, List.mem_filter.mpr ⟨TaskMap.mem_of_get? hget, ?_⟩, TaskMap.id_of_get? hget⟩
      rw [dependencies_eq hget, hempty]
      rfl
  · have hsorted := tasks.sorted
    exact List.pairwise_map.mpr (hsorted.filter _)

namespace State.Valid

section Placing

variable {ready : List TaskId} (h : s.Valid tasks) (hs : s.ready = p :: ready)

include h hs

theorem head : tasks.has p = true ∧ p ∉ s.placed ∧ s.waiting p = 0 :=
  (h.mem_ready p).mp (hs ▸ List.mem_cons_self)

theorem waiting_eq_zero (hid : id ∈ p :: s.placed) : s.waiting id = 0 := by
  rcases List.mem_cons.mp hid with rfl | hid
  · exact (h.head hs).2.2
  · exact h.closed id hid

/-- A task that waits for the one that is placed neither is that one nor was placed before. -/
theorem not_mem_of_awaits (hid : Awaits tasks id p) : id ∉ p :: s.placed := by
  intro hmem
  have hnone := h.waiting_eq_zero hs hmem
  rw [h.waiting, pending_eq_nil_iff] at hnone
  exact (h.head hs).2.1 (hnone p hid)

/-- The counters are right after the placing. -/
theorem waiting_sub (id : TaskId) :
    s.waiting id - (waiters tasks p).count id = (pending tasks (p :: s.placed) id).length := by
  have hcons := length_pending_cons tasks id (h.head hs).2.1
  rw [h.waiting, count_waiters]
  omega

theorem mem_tail_iff (id : TaskId) :
    id ∈ ready ↔ tasks.has id = true ∧ id ∉ p :: s.placed ∧ s.waiting id = 0 := by
  have hsorted := h.sorted
  rw [hs, List.pairwise_cons] at hsorted
  have hready := h.mem_ready id
  rw [hs, List.mem_cons] at hready
  rw [List.mem_cons, not_or]
  constructor
  · intro hid
    obtain ⟨hhas, hnew, hzero⟩ := hready.mp (.inr hid)
    -- the first one is smaller than the others
    have hne : id ≠ p := fun heq => String.lt_irrefl _ (hsorted.1 p (heq ▸ hid))
    exact ⟨hhas, ⟨hne, hnew⟩, hzero⟩
  · rintro ⟨hhas, ⟨hne, hnew⟩, hzero⟩
    exact (hready.mpr ⟨hhas, hnew, hzero⟩).resolve_left hne

end Placing

/-- **A round keeps the invariant.** -/
theorem place (h : s.Valid tasks) : (s.place tasks).Valid tasks := by
  unfold State.place
  cases hs : s.ready with
  | nil => exact h
  | cons p ready =>
    dsimp only
    obtain ⟨hwaiting, hready, hplaced⟩ := release_spec { s with ready := ready } (waiters tasks p)
    have hhead := h.head hs
    have hsorted := h.sorted
    rw [hs, List.pairwise_cons] at hsorted
    refine ⟨?_, ?_, fun id => ?_, fun id hid => ?_, fun id => ?_, sorted_release hsorted.2⟩
    · rw [hplaced]
      exact List.nodup_cons.mpr ⟨hhead.2.1, h.nodup⟩
    · rw [hplaced]
      exact List.forall_mem_cons.mpr ⟨hhead.1, h.has⟩
    · rw [hplaced, hwaiting, h.waiting_sub hs]
    · rw [hplaced] at hid
      rw [hwaiting]
      show s.waiting id - _ = 0
      rw [h.waiting_eq_zero hs hid, Nat.zero_sub]
    · rw [hplaced, hwaiting, hready, mem_waiters]
      show id ∈ ready ∨ _ ∧ s.waiting id - _ = 0 ↔ _ ∧ _ ∧ s.waiting id - _ = 0
      rw [h.mem_tail_iff hs]
      constructor
      · rintro (⟨hhas, hnew, hzero⟩ | ⟨hid, hnone⟩)
        · exact ⟨hhas, hnew, by rw [hzero, Nat.zero_sub]⟩
        · exact ⟨(has_of_awaits hid).1, h.not_mem_of_awaits hs hid, hnone⟩
      · rintro ⟨hhas, hnew, hnone⟩
        by_cases hid : Awaits tasks id p
        · exact .inr ⟨hid, hnone⟩
        · -- it was not released, so it was ready before
          rw [List.count_eq_zero.mpr fun hmem => hid (mem_waiters.mp hmem), Nat.sub_zero] at hnone
          exact .inl ⟨hhas, hnew, hnone⟩

theorem rounds (h : s.Valid tasks) (n : Nat) : (State.rounds tasks n s).Valid tasks := by
  induction n generalizing s with
  | zero => exact h
  | succ n ih => exact ih h.place

end State.Valid

/-- A round places one task if any is ready. -/
theorem length_placed_place (tasks : TaskMap) (hs : s.ready ≠ []) :
    (s.place tasks).placed.length = s.placed.length + 1 := by
  unfold State.place
  cases hready : s.ready with
  | nil => exact absurd hready hs
  | cons p ready =>
    dsimp only
    rw [List.length_cons, (release_spec _ _).2.2]

/-- When nothing is ready, a round does nothing. -/
theorem rounds_of_ready (tasks : TaskMap) (n : Nat) (hs : s.ready = []) :
    State.rounds tasks n s = s := by
  have hplace : s.place tasks = s := by
    unfold State.place
    rw [hs]
  induction n with
  | zero => rfl
  | succ n ih => rw [State.rounds, hplace, ih]

/-- A number of rounds places that many tasks, unless nothing is ready any more. -/
theorem ready_or_length_rounds (tasks : TaskMap) (n : Nat) (s : State) :
    (State.rounds tasks n s).ready = [] ∨
      (State.rounds tasks n s).placed.length = s.placed.length + n := by
  induction n generalizing s with
  | zero => exact .inr rfl
  | succ n ih =>
    by_cases hs : s.ready = []
    · rw [rounds_of_ready tasks _ hs]
      exact .inl hs
    · have hrounds := ih (s.place tasks)
      rw [length_placed_place tasks hs, Nat.add_assoc, Nat.add_comm 1 n] at hrounds
      exact hrounds

/-! ### The end of the sort -/

/-- The sort when all rounds are over. -/
def final (tasks : TaskMap) : State := State.rounds tasks tasks.size (.start tasks)

theorem valid_final (tasks : TaskMap) : (final tasks).Valid tasks := (valid_start tasks).rounds _

theorem length_placed_le (h : s.Valid tasks) : s.placed.length ≤ tasks.size := by
  have hsub : s.placed ⊆ tasks.ids := fun id hid => TaskMap.mem_ids_iff.mpr (h.has id hid)
  have hle := (List.Nodup.subperm h.nodup hsub).length_le
  unfold TaskMap.ids at hle
  rwa [List.length_map] at hle

/-- All tasks are placed iff as many are placed as there are. -/
theorem length_placed_eq_iff (h : s.Valid tasks) :
    s.placed.length = tasks.size ↔ ∀ id, tasks.has id = true → id ∈ s.placed := by
  have hsub : s.placed ⊆ tasks.ids := fun id hid => TaskMap.mem_ids_iff.mpr (h.has id hid)
  have hperm := List.Nodup.subperm h.nodup hsub
  have hlength : tasks.ids.length = tasks.size := List.length_map _
  constructor
  · intro heq id hid
    exact (hperm.perm_of_length_le (by omega)).mem_iff.mpr (TaskMap.mem_ids_iff.mpr hid)
  · intro hall
    have hback : tasks.ids ⊆ s.placed := fun id hid => hall id (TaskMap.mem_ids_iff.mp hid)
    have hnd : tasks.ids.Nodup := TaskMap.nodup_ids tasks
    have hle := (List.Nodup.subperm hnd hback).length_le
    have hle' := length_placed_le h
    omega

/-- **Nothing is ready in the end.** -/
theorem ready_final (tasks : TaskMap) : (final tasks).ready = [] := by
  rcases ready_or_length_rounds tasks tasks.size (.start tasks) with hready | hlength
  · exact hready
  · have hvalid := valid_final tasks
    have hall := (length_placed_eq_iff hvalid).mp (by rw [final, hlength]; exact Nat.zero_add _)
    refine List.eq_nil_iff_forall_not_mem.mpr fun id hid => ?_
    obtain ⟨hhas, hnew, -⟩ := (hvalid.mem_ready id).mp hid
    exact hnew (hall id hhas)

/-- A task is placed in the end if everything is that it waits for. -/
theorem mem_placed_final (hhas : tasks.has id = true)
    (h : ∀ p, Awaits tasks id p → p ∈ (final tasks).placed) : id ∈ (final tasks).placed := by
  have hvalid := valid_final tasks
  by_contra hnew
  have hready : id ∈ (final tasks).ready := by
    refine (hvalid.mem_ready id).mpr ⟨hhas, hnew, ?_⟩
    rw [hvalid.waiting, pending_eq_nil_iff]
    exact h
  rw [ready_final] at hready
  cases hready

/-- **A task that does not lead to a cycle is placed.** -/
theorem mem_placed_of_acyclic (hhas : tasks.has id = true)
    (h : ∀ p, ReflTransGen (Awaits tasks) id p → ¬ TransGen (Awaits tasks) p p) :
    id ∈ (final tasks).placed := by
  -- the tasks that it leads to are finitely many, and no chain of them closes
  let ahead : Set TaskId := { p | p ∈ tasks.ids ∧ ReflTransGen (Awaits tasks) id p }
  let r : ahead → ahead → Prop := fun a b => TransGen (Awaits tasks) b.1 a.1
  have hfinite : Finite ahead := (tasks.ids.finite_toSet.subset fun p hp => hp.1).to_subtype
  have htrans : IsTrans ahead r := ⟨fun a b c hab hbc => hbc.trans hab⟩
  have hirrefl : Std.Irrefl r := ⟨fun p => h p.1 p.2.2⟩
  have hwf : WellFounded r := Finite.wellFounded_of_trans_of_irrefl r
  have hplaced : ∀ p : ahead, p.1 ∈ (final tasks).placed := by
    intro p
    induction p using hwf.induction with
    | _ p ih =>
      refine mem_placed_final (TaskMap.mem_ids_iff.mp p.2.1) fun q hq => ?_
      exact ih ⟨q, TaskMap.mem_ids_iff.mpr (has_of_awaits hq).2, p.2.2.tail hq⟩ (.single hq)
  exact hplaced ⟨id, TaskMap.mem_ids_iff.mpr hhas, .refl⟩

/-- The tasks of a list in the order in which they are placed. -/
def finalOrder (ts : List Task) : List Task :=
  (final (.ofList ts)).placed.reverse.filterMap (TaskMap.get? (.ofList ts))

/-- The sort succeeds if all tasks are placed. -/
theorem sort_of_placed {ts : List Task}
    (hall : ∀ id, TaskMap.has (.ofList ts) id = true → id ∈ (final (.ofList ts)).placed) :
    sort ts = .ok (finalOrder ts) := by
  have hlength := (length_placed_eq_iff (valid_final (.ofList ts))).mpr hall
  exact if_neg (by rw [List.length_reverse]; exact Nat.not_lt.mpr hlength.ge)

/-- **The sort succeeds if no chain of dependencies closes.** -/
theorem sort_of_acyclic {ts : List Task} (h : ∀ id, ¬ TransGen (Awaits (.ofList ts)) id id) :
    sort ts = .ok (finalOrder ts) :=
  sort_of_placed fun _ hid => mem_placed_of_acyclic hid fun p _ => h p

end TaskPipeline.Order
