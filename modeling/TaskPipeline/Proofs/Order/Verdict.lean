import Mathlib.Data.Finset.Card
import TaskPipeline.Proofs.Catalog
import TaskPipeline.Proofs.Order.Sort

/-!
# What the sort answers

Every task that `Order.sort` places is the first one, by identifier, of those that can be placed at
that point (`InTurn`): it comes after everything that it waits for, and a task on a cycle, or behind
one, never has its turn.  With `mem_placed_of_acyclic` this says exactly which tasks are placed
(`mem_placed_final_iff`).

`sort_verdict` says it of a list of tasks.  Identifiers may be repeated in the list, and entries in the
inflows of a task; of tasks with one identifier the last counts (`Counts`), and only inflows that are
in the list do (`Needs`).
-/

namespace TaskPipeline.Order

open Relation

/-! ### Tasks of a list -/

/-- A task of a list counts if none behind it has its identifier. -/
def Counts (ts : List Task) (t : Task) : Prop :=
  ∃ front back, ts = front ++ t :: back ∧ ∀ u ∈ back, u.id ≠ t.id

/-- A task of a list depends on another one of the list. -/
def Needs (ts : List Task) (id p : TaskId) : Prop :=
  p ∈ ts.map Task.id ∧ ∃ t, Counts ts t ∧ t.id = id ∧ p ∈ t.inflows.ids

/-- Every identifier stands behind those that it depends on. -/
def Heeds (r : TaskId → TaskId → Prop) (ids : List TaskId) : Prop :=
  ∀ front id back, ids = front ++ id :: back → ∀ p, r id p → p ∈ front

variable {tasks : TaskMap} {ts : List Task} {t u : Task} {s : State} {id p : TaskId}
  {placed : List TaskId}

/-- A task at the end of a list counts, and so do the others in front of it that have another
identifier. -/
theorem counts_concat : Counts (ts ++ [u]) t ↔ t = u ∨ Counts ts t ∧ u.id ≠ t.id :=
  standsLast_concat

/-- **The set of the tasks of a list** holds those that count. -/
theorem get?_ofList_iff :
    TaskMap.get? (.ofList ts) id = some t ↔ Counts ts t ∧ t.id = id := by
  induction ts using List.reverseRecOn with
  | nil => exact iff_of_false nofun fun h => not_standsLast_nil h.1
  | append_singleton ts u ih =>
    have hlast : (.ofList (ts ++ [u]) : TaskMap) = Catalog.insert (.ofList ts) u :=
      List.foldl_concat ..
    rw [hlast, TaskMap.get?_insert, counts_concat]
    by_cases hu : u.id = id
    · rw [if_pos hu]
      constructor
      · intro h
        obtain rfl := Option.some.inj h
        exact ⟨.inl rfl, hu⟩
      · rintro ⟨rfl | ⟨-, hne⟩, hid⟩
        · rfl
        · exact absurd (hu.trans hid.symm) hne
    · rw [if_neg hu, ih]
      constructor
      · rintro ⟨hcounts, rfl⟩
        exact ⟨.inr ⟨hcounts, hu⟩, rfl⟩
      · rintro ⟨rfl | ⟨hcounts, -⟩, hid⟩
        · exact absurd hid hu
        · exact ⟨hcounts, hid⟩

theorem has_ofList_iff : TaskMap.has (.ofList ts) id = true ↔ id ∈ ts.map Task.id := by
  show TaskMap.has (Catalog.insertAll .empty ts) id = true ↔ _
  rw [TaskMap.has_insertAll_iff]
  exact or_iff_right nofun

/-- What a task waits for is what it depends on. -/
theorem awaits_ofList (ts : List Task) : Awaits (.ofList ts) = Needs ts := by
  funext id p
  unfold Awaits awaited Needs
  rw [List.mem_filter, has_ofList_iff, and_comm, eq_iff_iff]
  refine and_congr_right fun _ => ?_
  constructor
  · intro hp
    obtain ⟨t, ht⟩ := TaskMap.has_iff.mp (Graph.has_of_mem_inflowsOf hp)
    rw [Graph.inflowsOf_of_get? ht] at hp
    obtain ⟨hcounts, hid⟩ := get?_ofList_iff.mp ht
    exact ⟨t, hcounts, hid, hp⟩
  · rintro ⟨t, hcounts, hid, hp⟩
    rwa [Graph.inflowsOf_of_get? (get?_ofList_iff.mpr ⟨hcounts, hid⟩)]

/-- There are as many tasks as there are identifiers in the list. -/
theorem card_ids_ofList (ts : List Task) :
    (ts.map Task.id).toFinset.card = (.ofList ts : TaskMap).size := by
  have hsame : (ts.map Task.id).toFinset = (TaskMap.ids (.ofList ts)).toFinset := by
    ext id
    rw [List.mem_toFinset, List.mem_toFinset, TaskMap.mem_ids_iff, has_ofList_iff]
  have hnd : (TaskMap.ids (.ofList ts)).Nodup := TaskMap.nodup_ids _
  rw [hsame, List.toFinset_card_of_nodup hnd]
  exact List.length_map _

/-! ### Turns -/

/-- A task can be placed: it is not placed yet, and everything is that it waits for. -/
def Available (tasks : TaskMap) (placed : List TaskId) (id : TaskId) : Prop :=
  tasks.has id = true ∧ id ∉ placed ∧ ∀ p, Awaits tasks id p → p ∈ placed

/-- The first of the tasks that can be placed. -/
def IsNext (tasks : TaskMap) (placed : List TaskId) (id : TaskId) : Prop :=
  Available tasks placed id ∧ ∀ b, Available tasks placed b → id.text ≤ b.text

/-- Every task was placed in its turn.  The last one stands first. -/
def InTurn (tasks : TaskMap) (placed : List TaskId) : Prop :=
  ∀ front id back, placed = front ++ id :: back → IsNext tasks back id

theorem inTurn_cons :
    InTurn tasks (id :: placed) ↔ IsNext tasks placed id ∧ InTurn tasks placed := by
  constructor
  · intro h
    exact ⟨h [] id placed rfl, fun front a back heq => h (id :: front) a back (by rw [heq]; rfl)⟩
  · rintro ⟨hnext, h⟩ front a back heq
    cases front with
    | nil =>
      injection heq with ha hback
      rwa [← ha, ← hback]
    | cons b front =>
      injection heq with _ hback
      exact h front a back hback

/-- The ready tasks are those that can be placed. -/
theorem State.Valid.mem_ready_iff (h : s.Valid tasks) :
    id ∈ s.ready ↔ Available tasks s.placed id := by
  rw [h.mem_ready, h.waiting, pending_eq_nil_iff]
  rfl

/-- **A round places a task in its turn.** -/
theorem State.Valid.inTurn_place (h : s.Valid tasks) (hturn : InTurn tasks s.placed) :
    InTurn tasks (s.place tasks).placed := by
  unfold State.place
  cases hs : s.ready with
  | nil => exact hturn
  | cons a ready =>
    dsimp only
    rw [(release_spec _ _).2.2]
    refine inTurn_cons.mpr ⟨⟨?_, fun b hb => ?_⟩, hturn⟩
    · rw [← h.mem_ready_iff, hs]
      exact List.mem_cons_self
    · -- the ready tasks stand in ascending order
      have hsorted := h.sorted
      rw [hs] at hsorted
      rw [← h.mem_ready_iff, hs] at hb
      rcases List.mem_cons.mp hb with rfl | hb
      · exact Std.le_refl _
      · exact Std.le_of_lt ((List.pairwise_cons.mp hsorted).1 b hb)

theorem State.Valid.inTurn_rounds (h : s.Valid tasks) (hturn : InTurn tasks s.placed) (n : Nat) :
    InTurn tasks (State.rounds tasks n s).placed := by
  induction n generalizing s with
  | zero => exact hturn
  | succ n ih => exact ih h.place (h.inTurn_place hturn)

theorem inTurn_final (tasks : TaskMap) : InTurn tasks (final tasks).placed := by
  refine (valid_start tasks).inTurn_rounds (fun front id back heq => ?_) _
  have hnone : ([] : List TaskId) = front ++ id :: back := heq
  simp at hnone

namespace InTurn

theorem mem_of_awaits (h : InTurn tasks placed) (hid : id ∈ placed) (hp : Awaits tasks id p) :
    p ∈ placed := by
  obtain ⟨front, back, rfl⟩ := List.append_of_mem hid
  exact List.mem_append_right _ (List.mem_cons_of_mem _ ((h front id back rfl).1.2.2 p hp))

theorem mem_of_chain (h : InTurn tasks placed) (hid : id ∈ placed)
    (hp : ReflTransGen (Awaits tasks) id p) : p ∈ placed := by
  induction hp with
  | refl => exact hid
  | tail _ hbc ih => exact h.mem_of_awaits ih hbc

/-- **No task on a cycle was placed.** -/
theorem not_chain (h : InTurn tasks placed) (hid : id ∈ placed) :
    ¬ TransGen (Awaits tasks) id id := by
  -- what a task leads to was placed before the last one, so it does not lead back to that one
  induction placed with
  | nil => cases hid
  | cons a back ih =>
    obtain ⟨hnext, hback⟩ := inTurn_cons.mp h
    intro hchain
    obtain ⟨b, hb, hrest⟩ := TransGen.head'_iff.mp hchain
    have hmem : b ∈ back := by
      rcases List.mem_cons.mp hid with rfl | hid
      · exact hnext.1.2.2 b hb
      · exact hback.mem_of_awaits hid hb
    exact ih hback (hback.mem_of_chain hmem hrest) hchain

/-- Read from the first to the last, every placed task stands behind those that it waits for. -/
theorem heeds (h : InTurn tasks placed) : Heeds (Awaits tasks) placed.reverse := by
  intro front id back heq p hp
  have hplaced : placed = back.reverse ++ id :: front.reverse := by
    rw [List.reverse_eq_iff.mp heq]
    simp
  exact List.mem_reverse.mp ((h _ _ _ hplaced).1.2.2 p hp)

end InTurn

/-- **A task is placed in the end** iff it does not lead to a cycle. -/
theorem mem_placed_final_iff : id ∈ (final tasks).placed ↔ tasks.has id = true ∧
    ∀ q, ReflTransGen (Awaits tasks) id q → ¬ TransGen (Awaits tasks) q q := by
  have hturn := inTurn_final tasks
  constructor
  · intro hid
    exact ⟨(valid_final tasks).has id hid, fun q hq => hturn.not_chain (hturn.mem_of_chain hid hq)⟩
  · rintro ⟨hhas, hno⟩
    exact mem_placed_of_acyclic hhas hno

/-! ### The answer -/

/-- Tasks that are there are found, each with its identifier. -/
theorem map_id_filterMap {ids : List TaskId} (h : ∀ id ∈ ids, tasks.has id = true) :
    (ids.filterMap tasks.get?).map Task.id = ids := by
  induction ids with
  | nil => rfl
  | cons id ids ih =>
    obtain ⟨t, ht⟩ := TaskMap.has_iff.mp (h id List.mem_cons_self)
    rw [List.filterMap_cons_some ht, List.map_cons, TaskMap.id_of_get? ht,
      ih fun j hj => h j (List.mem_cons_of_mem _ hj)]

/-- The tasks that are placed and those that are not are all tasks. -/
theorem length_placed_add (h : s.Valid tasks) :
    s.placed.length + (tasks.ids.filter fun id => !s.placed.reverse.contains id).length =
      tasks.size := by
  have hperm : (tasks.ids.filter fun id => s.placed.reverse.contains id).Perm s.placed := by
    have hnd : tasks.ids.Nodup := TaskMap.nodup_ids tasks
    refine (List.perm_ext_iff_of_nodup (hnd.filter _) h.nodup).mpr fun id => ?_
    rw [List.mem_filter, TaskMap.mem_ids_iff, List.contains_iff_mem, List.mem_reverse]
    exact and_iff_right_of_imp (h.has id)
  have hsize : tasks.ids.length = tasks.size := List.length_map _
  have hsplit := List.length_eq_length_filter_add (l := tasks.ids) fun id =>
    s.placed.reverse.contains id
  rw [hperm.length_eq] at hsplit
  omega

/-- The tasks of a list in an order that heeds their dependencies. -/
structure Arranges (ts order : List Task) : Prop where
  /-- They are the tasks that count, as they are. -/
  mem_iff : ∀ t, t ∈ order ↔ Counts ts t
  /-- Each of them stands there once. -/
  nodup : (order.map Task.id).Nodup
  /-- Each stands behind those that it depends on. -/
  heeds : Heeds (Needs ts) (order.map Task.id)

/-- What is told about the tasks of a list that cannot be put in order. -/
structure Explains (ts : List Task) (e : Incomplete) : Prop where
  /-- Every task is placed or left. -/
  add_eq : e.ordered + e.unresolved.length = e.total
  /-- There are as many tasks as there are different identifiers. -/
  total_eq : e.total = (ts.map Task.id).toFinset.card
  /-- Those tasks are left that are on a cycle or depend on one that is. -/
  mem_iff : ∀ id, id ∈ e.unresolved ↔
    ∃ q, ReflTransGen (Needs ts) id q ∧ TransGen (Needs ts) q q
  /-- They stand in ascending order. -/
  ascending : e.unresolved.Pairwise fun a b => a.text < b.text

theorem map_id_finalOrder (ts : List Task) :
    (finalOrder ts).map Task.id = (final (.ofList ts)).placed.reverse :=
  map_id_filterMap fun id hid => (valid_final (.ofList ts)).has id (List.mem_reverse.mp hid)

/-- If all tasks are placed they are the order. -/
theorem arranges_final
    (hall : ∀ id, TaskMap.has (.ofList ts) id = true → id ∈ (final (.ofList ts)).placed) :
    Arranges ts (finalOrder ts) := by
  have hids := map_id_finalOrder ts
  refine ⟨fun t => ?_, ?_, ?_⟩
  · unfold finalOrder
    rw [List.mem_filterMap]
    constructor
    · rintro ⟨id, -, ht⟩
      exact (get?_ofList_iff.mp ht).1
    · intro ht
      have hget := get?_ofList_iff.mpr ⟨ht, rfl⟩
      exact ⟨t.id, List.mem_reverse.mpr (hall t.id (TaskMap.has_iff.mpr ⟨t, hget⟩)), hget⟩
  · rw [hids]
    exact List.nodup_reverse.mpr (valid_final _).nodup
  · rw [hids, ← awaits_ofList]
    exact (inTurn_final _).heeds

/-- What is left is explained. -/
theorem explains_final (ts : List Task) : Explains ts
    ⟨(final (.ofList ts)).placed.reverse.length, (.ofList ts : TaskMap).size,
      (TaskMap.ids (.ofList ts)).filter fun id =>
        !(final (.ofList ts)).placed.reverse.contains id⟩ := by
  have hvalid := valid_final (.ofList ts)
  refine ⟨?_, (card_ids_ofList ts).symm, fun id => ?_, ?_⟩
  · rw [List.length_reverse]
    exact length_placed_add hvalid
  · rw [List.mem_filter, TaskMap.mem_ids_iff, ← awaits_ofList, Bool.not_eq_true',
      ← Bool.not_eq_true, List.contains_iff_mem, List.mem_reverse, mem_placed_final_iff]
    constructor
    · rintro ⟨hhas, hno⟩
      by_contra hcycle
      exact hno ⟨hhas, fun q hq hqq => hcycle ⟨q, hq, hqq⟩⟩
    · rintro ⟨q, hq, hqq⟩
      refine ⟨?_, fun h => h.2 q hq hqq⟩
      -- it depends on something, or is the task on the cycle
      obtain ⟨b, hb, -⟩ := TransGen.head'_iff.mp (TransGen.trans_right hq hqq)
      exact (has_of_awaits hb).1
  · have hsorted : (TaskMap.ids (.ofList ts)).Pairwise fun a b => a.text < b.text :=
      List.pairwise_map.mpr (Catalog.sorted _)
    exact hsorted.filter _

/-- **The sort is sound, complete and never truncates.**  It succeeds iff the dependencies inside the
list have no cycle, and then gives each task once, unchanged and behind everything that it depends on.
Otherwise it tells how many tasks were placed, and names all others: those on a cycle, and those that
depend on one of them. -/
theorem sort_verdict (ts : List Task) :
    (∃ order, sort ts = .ok order ∧ (∀ id, ¬ TransGen (Needs ts) id id) ∧ Arranges ts order) ∨
    ∃ e, sort ts = .error e ∧ (∃ id, TransGen (Needs ts) id id) ∧ Explains ts e := by
  have hvalid := valid_final (.ofList ts)
  by_cases hall : ∀ id, TaskMap.has (.ofList ts) id = true → id ∈ (final (.ofList ts)).placed
  · refine .inl ⟨_, sort_of_placed hall, fun id hcycle => ?_, arranges_final hall⟩
    rw [← awaits_ofList] at hcycle
    obtain ⟨b, hb, -⟩ := TransGen.head'_iff.mp hcycle
    exact (inTurn_final _).not_chain (hall id (has_of_awaits hb).1) hcycle
  · refine .inr ⟨_, ?_, ?_, explains_final ts⟩
    · have hlt := Nat.lt_of_le_of_ne (length_placed_le hvalid) fun heq =>
        hall ((length_placed_eq_iff hvalid).mp heq)
      exact if_pos (by rw [List.length_reverse]; exact hlt)
    · -- a task is left because it leads to a cycle
      obtain ⟨id, hid⟩ := not_forall.mp hall
      obtain ⟨hhas, hleft⟩ := Classical.not_imp.mp hid
      rw [mem_placed_final_iff, not_and] at hleft
      obtain ⟨q, hq⟩ := not_forall.mp (hleft hhas)
      obtain ⟨-, hcycle⟩ := Classical.not_imp.mp hq
      rw [← awaits_ofList]
      exact ⟨q, not_not.mp hcycle⟩

end TaskPipeline.Order
