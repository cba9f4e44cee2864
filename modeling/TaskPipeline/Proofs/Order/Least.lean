import TaskPipeline.Proofs.Order.Verdict

/-!
# The least order

There may be many orders in which every task of a list stands behind those that it depends on
(`Sequences`).  The sort finds the one that is lexicographically least by identifiers (`sort_least`):
where another order departs from it, that one goes on with a task that can be placed at this point,
and the sort took the first of those.

The least order does not depend on how the tasks are listed, so neither does what the sort returns.
-/

namespace TaskPipeline.Order

open Relation

variable {tasks : TaskMap} {ts ts' : List Task} {t : Task} {front rest other : List TaskId}

/-- The identifiers of the tasks of a list, in an order that heeds their dependencies. -/
def Sequences (ts : List Task) (ids : List TaskId) : Prop :=
  ids.Perm (ts.map Task.id) ∧ Heeds (Needs ts) ids

/-! ### Lists without repeated identifiers -/

/-- Every task of a list counts if no identifier is repeated. -/
theorem counts_iff_mem (hnd : (ts.map Task.id).Nodup) : Counts ts t ↔ t ∈ ts := by
  constructor
  · rintro ⟨front, back, rfl, -⟩
    exact List.mem_append_right _ List.mem_cons_self
  · intro ht
    obtain ⟨front, back, rfl⟩ := List.append_of_mem ht
    refine ⟨front, back, rfl, fun u hu heq => ?_⟩
    rw [List.map_append, List.map_cons, List.nodup_middle, List.nodup_cons] at hnd
    exact hnd.1 (List.mem_append_right _ (List.mem_map.mpr ⟨u, hu, heq⟩))

/-- The set of the tasks of a list does not depend on their order. -/
theorem ofList_perm (hnd : (ts.map Task.id).Nodup) (hperm : ts'.Perm ts) :
    (.ofList ts' : TaskMap) = .ofList ts := by
  have hnd' : (ts'.map Task.id).Nodup := (hperm.map Task.id).nodup_iff.mpr hnd
  refine TaskMap.ext_get? fun id => Option.ext fun t => ?_
  rw [get?_ofList_iff, get?_ofList_iff, counts_iff_mem hnd, counts_iff_mem hnd', hperm.mem_iff]

/-! ### Comparing orders -/

/-- What stands next in an order that heeds dependencies can be placed. -/
theorem Heeds.available {b : TaskId} (h : Heeds (Awaits tasks) (front ++ b :: other))
    (hnd : (front ++ b :: other).Nodup) (hhas : tasks.has b = true) :
    Available tasks front.reverse b := by
  refine ⟨hhas, fun hb => ?_, fun p hp => List.mem_reverse.mpr (h front b other rfl p hp)⟩
  rw [List.nodup_middle, List.nodup_cons] at hnd
  exact hnd.1 (List.mem_append_left _ (List.mem_reverse.mp hb))

/-- **An order in which everything stands in its turn is the least** of those that begin alike. -/
theorem InTurn.least (hturn : InTurn tasks (front ++ rest).reverse) (hperm : rest.Perm other)
    (hheeds : Heeds (Awaits tasks) (front ++ other)) (hnd : (front ++ other).Nodup)
    (hhas : ∀ id ∈ other, tasks.has id = true) :
    rest = other ∨ List.Lex (fun a b : TaskId => a.text < b.text) rest other := by
  induction rest generalizing front other with
  | nil => exact .inl hperm.nil_eq
  | cons a rest ih =>
    cases other with
    | nil => exact absurd hperm.eq_nil (List.cons_ne_nil a rest)
    | cons b other =>
      have hnext : IsNext tasks front.reverse a := hturn rest.reverse a front.reverse (by simp)
      have hle : a.text ≤ b.text :=
        hnext.2 b (hheeds.available hnd (hhas b List.mem_cons_self))
      by_cases hab : a = b
      · -- they agree here, and differ later if at all
        subst hab
        rw [List.append_cons] at hturn hheeds hnd
        rcases ih hturn hperm.cons_inv hheeds hnd fun id hid => hhas id (List.mem_cons_of_mem _ hid)
          with rfl | hlex
        · exact .inl rfl
        · exact .inr (.cons hlex)
      · exact .inr (.rel (Std.lt_of_le_of_ne hle fun heq => hab (Ident.text_inj.mp heq)))

/-- Without a cycle the sort puts all tasks in sequence. -/
theorem sequences_finalOrder (hnd : (ts.map Task.id).Nodup)
    (hall : ∀ id, TaskMap.has (.ofList ts) id = true → id ∈ (final (.ofList ts)).placed) :
    Sequences ts ((finalOrder ts).map Task.id) := by
  have harranges := arranges_final hall
  refine ⟨(List.perm_ext_iff_of_nodup harranges.nodup hnd).mpr fun id => ?_, harranges.heeds⟩
  simp only [List.mem_map, harranges.mem_iff, counts_iff_mem hnd]

/-- **The order is canonical.**  For tasks with different identifiers whose dependencies have no
cycle, the sort returns the least of all orders that heed the dependencies, and returns it however
the tasks are listed. -/
theorem sort_least (hnd : (ts.map Task.id).Nodup)
    (hacyclic : ∀ id, ¬ TransGen (Needs ts) id id) :
    ∃ order, sort ts = .ok order ∧ Sequences ts (order.map Task.id) ∧
      (∀ ids, Sequences ts ids → order.map Task.id = ids ∨
        List.Lex (fun a b : TaskId => a.text < b.text) (order.map Task.id) ids) ∧
      ∀ ts', ts'.Perm ts → sort ts' = .ok order := by
  rw [← awaits_ofList] at hacyclic
  have hsort : sort ts = .ok (finalOrder ts) := sort_of_acyclic hacyclic
  have hsequences := sequences_finalOrder hnd fun id hid =>
    mem_placed_of_acyclic hid fun p _ => hacyclic p
  refine ⟨_, hsort, hsequences, fun ids hids => ?_, fun ts' hperm => ?_⟩
  · have hperm : ((finalOrder ts).map Task.id).Perm ids := hsequences.1.trans hids.1.symm
    have hturn : InTurn (.ofList ts) ([] ++ (finalOrder ts).map Task.id).reverse := by
      rw [List.nil_append, map_id_finalOrder, List.reverse_reverse]
      exact inTurn_final _
    have hheeds : Heeds (Awaits (.ofList ts)) ([] ++ ids) := by
      rw [awaits_ofList]
      exact hids.2
    exact hturn.least hperm hheeds (hids.1.nodup_iff.mpr hnd) fun id hid =>
      has_ofList_iff.mpr (hids.1.mem_iff.mp hid)
  · rw [← hsort]
    unfold sort
    rw [ofList_perm hnd hperm]

namespace Sample

/-- The first of two tasks that depend on nothing. -/
def first : TaskId := ⟨"p", by decide, by decide⟩

/-- The second of them. -/
def second : TaskId := ⟨"q", by decide, by decide⟩

/-- A task with an identifier between them. -/
def between : TaskId := ⟨"pp", by decide, by decide⟩

def holder : UserId := ⟨"holder", by decide, by decide⟩

/-- The task between the two others depends on the second one. -/
def listed : List Task :=
  [{ Task.create between "between" "" holder (.midnight .epoch) with inflows := ⟨[second]⟩ },
    Task.create second "second" "" holder (.midnight .epoch),
    Task.create first "first" "" holder (.midnight .epoch)]

/-- Dependencies lead to greater identifiers. -/
theorem lt_of_needs {id dep : TaskId} (h : Needs listed id dep) : id.text < dep.text := by
  obtain ⟨-, t, ⟨front, back, heq, -⟩, rfl, hdep⟩ := h
  have ht : t ∈ listed := heq ▸ List.mem_append_right _ List.mem_cons_self
  simp only [listed, List.mem_cons, List.not_mem_nil, or_false] at ht
  rcases ht with rfl | rfl | rfl
  · obtain rfl := List.mem_singleton.mp hdep
    decide
  · cases hdep
  · cases hdep

end Sample

/-- However they are listed, the tasks come out in one order: the least one in which the task between
the two others stands behind the second. -/
theorem sort_least_listed : ∃ order, sort Sample.listed = .ok order ∧
    order.map Task.id = [Sample.first, Sample.second, Sample.between] ∧
    sort Sample.listed.reverse = .ok order := by
  have hnd : (Sample.listed.map Task.id).Nodup := by decide
  obtain ⟨order, hsort, -, -, hperm⟩ := sort_least hnd fun id hchain =>
    String.lt_irrefl _ (TransGen.trans_induction_on (motive := fun {a b} _ => a.text < b.text) hchain
      Sample.lt_of_needs fun _ _ => String.lt_trans)
  refine ⟨order, hsort, ?_, hperm _ (List.reverse_perm _)⟩
  have hids : (sort Sample.listed).map (List.map Task.id) =
      .ok [Sample.first, Sample.second, Sample.between] := rfl
  rw [hsort] at hids
  exact Except.ok.inj hids

end TaskPipeline.Order
