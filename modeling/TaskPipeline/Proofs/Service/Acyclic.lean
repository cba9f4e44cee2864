import TaskPipeline.Engine.Query
import TaskPipeline.Proofs.Order.Sort
import TaskPipeline.Proofs.Service.Merging

/-!
# One notion of acyclic

Four searches look for cycles: the scan for violations and `Graph.hasCycleThrough` along outflows,
`Graph.isAncestor` and the dependency order along inflows, and the order looks at a part of the
tasks only.  In a graph that passes the scan an edge stands on both of its ends, so that a chain of
inflows is a chain of outflows read backwards; and what closes in a part closes in the whole.

So after a clean scan none of them finds a cycle (`acyclic_of_violations`), and the dependency order
of a user's tasks is there for every user.
-/

namespace TaskPipeline

open Relation

namespace Graph

variable {tasks : TaskMap} {a b : TaskId}

/-- **What a clean scan says of each task**: it does not list itself, and its neighbours are there
and list it back. -/
theorem sound_iff : Sound tasks ↔
    (∀ id t, tasks.get? id = some t →
      (id ∉ t.inflows.ids ∧ id ∉ t.outflows.ids) ∧
      (∀ p ∈ t.inflows.ids, ∃ u, tasks.get? p = some u ∧ id ∈ u.outflows.ids) ∧
      ∀ q ∈ t.outflows.ids, ∃ u, tasks.get? q = some u ∧ id ∈ u.inflows.ids) ∧
    ∀ id, ¬ TransGen (Edge tasks) id id := by
  constructor
  · refine fun h => ⟨fun id t ht => ?_, h.acyclic⟩
    rw [← inflowsOf_of_get? ht, ← outflowsOf_of_get? ht]
    refine ⟨⟨h.not_mem_inflows id, h.not_mem_outflows id⟩, fun p hp => ?_, fun q hq => ?_⟩
    · obtain ⟨u, hu⟩ := TaskMap.has_iff.mp (h.has_inflow hp)
      exact ⟨u, hu, outflowsOf_of_get? hu ▸ (h.mem_outflows_iff p id).mpr hp⟩
    · obtain ⟨u, hu⟩ := TaskMap.has_iff.mp (h.has_outflow hq)
      exact ⟨u, hu, inflowsOf_of_get? hu ▸ (h.mem_outflows_iff id q).mp hq⟩
  · rintro ⟨hlists, hacyclic⟩
    refine ⟨fun a b => ⟨fun hb => ?_, fun ha => ?_⟩, hacyclic⟩
    · obtain ⟨t, ht⟩ := TaskMap.has_iff.mp (has_of_mem_outflowsOf hb)
      rw [outflowsOf_of_get? ht] at hb
      obtain ⟨u, hu, hmem⟩ := (hlists a t ht).2.2 b hb
      rwa [inflowsOf_of_get? hu]
    · obtain ⟨t, ht⟩ := TaskMap.has_iff.mp (has_of_mem_inflowsOf ha)
      rw [inflowsOf_of_get? ht] at ha
      obtain ⟨u, hu, hmem⟩ := (hlists b t ht).2.1 a ha
      rwa [outflowsOf_of_get? hu]

/-- **Every part of a sound graph can be sorted.** -/
theorem Sound.sort_ok {ts : List Task} (h : Sound tasks) (hts : ∀ t ∈ ts, t ∈ tasks.toList) :
    ∃ order, Order.sort ts = .ok order := by
  -- what a task waits for in the part is an inflow of it in the whole
  have hinflow : ∀ a b, Order.Awaits (.ofList ts) a b → b ∈ inflowsOf tasks a := by
    intro a b hab
    obtain ⟨t, ht⟩ := TaskMap.has_iff.mp (Order.has_of_awaits hab).1
    have hmem : t ∈ ts := TaskMap.mem_of_get?_ofList ht
    have hwhole : tasks.get? a = some t := by
      rw [← TaskMap.id_of_get? ht]
      exact TaskMap.get?_id_of_mem (hts t hmem)
    have hlisted := (List.mem_filter.mp hab).1
    rwa [inflowsOf_of_get? ht, ← inflowsOf_of_get? hwhole] at hlisted
  refine ⟨_, Order.sort_of_acyclic fun id hchain => h.acyclic id ?_⟩
  exact h.transGen_of_inflows (TransGen.mono hinflow _ _ hchain)

end Graph

/-! ### The dependency order of a user -/

namespace DagView

variable {tasks : TaskMap}

theorem ofTasks_ok (h : Graph.Sound tasks) (user : Option UserId) :
    ∃ view, ofTasks tasks.toList user = .ok view := by
  unfold ofTasks
  dsimp only
  cases user with
  | none =>
    obtain ⟨order, horder⟩ := h.sort_ok fun t ht => ht
    rw [horder]
    exact ⟨_, rfl⟩
  | some user =>
    obtain ⟨order, horder⟩ := h.sort_ok fun t ht => (List.mem_filter.mp ht).1
    rw [horder]
    exact ⟨_, rfl⟩

end DagView

/-- A query for the dependency order finds no fault in a graph that is sound, whatever the store
does and whether or not there is time. -/
theorem Query.dag_ne_integrity {σ : Type} {repo : Repository σ} {view : σ → TaskMap} {s : σ}
    (hrepo : repo.Faithful view) (h : Graph.Sound (view s)) (expired : Bool) (user : Option UserId)
    (reason : String) : ((dag user).run repo expired s).1 ≠ .error (.integrity reason) := by
  have hrun : ((dag user).run repo expired s).1 =
      ((repo.perform expired .list s).1.mapError (.ofStore "load graph") >>= fun ts =>
        DagView.ofTasks ts user) := rfl
  rw [hrun]
  rcases hrepo.list expired s with ⟨e, he, -⟩ | ⟨hok, -⟩
  · rw [he]
    intro heq
    injection heq with heq
    exact EngineError.ofStore_ne_integrity _ _ _ heq
  · obtain ⟨dagView, hview⟩ := DagView.ofTasks_ok h user
    rw [hok]
    show DagView.ofTasks _ user ≠ _
    rw [hview]
    exact nofun

/-- **One notion of acyclic.**  The scan finds nothing iff no task lists itself, all neighbours are
there and list the task back, and no chain of outflows closes.  Then no task is its own ancestor or
on a cycle, every list of stored tasks can be sorted, and the dependency order of every user is
there: the query gives it, and on any store that holds these tasks it reports no fault. -/
theorem acyclic_of_violations (tasks : TaskMap) :
    (Graph.violations tasks = [] ↔
      (∀ id t, tasks.get? id = some t →
        (id ∉ t.inflows.ids ∧ id ∉ t.outflows.ids) ∧
        (∀ p ∈ t.inflows.ids, ∃ u, tasks.get? p = some u ∧ id ∈ u.outflows.ids) ∧
        ∀ q ∈ t.outflows.ids, ∃ u, tasks.get? q = some u ∧ id ∈ u.inflows.ids) ∧
      ∀ id, ¬ TransGen (Graph.Edge tasks) id id) ∧
    (Graph.violations tasks = [] →
      (∀ id, Graph.isAncestor tasks id id = false) ∧
      (∀ id, Graph.hasCycleThrough tasks id = false) ∧
      (∀ ts : List Task, (∀ t ∈ ts, t ∈ tasks.toList) → ∃ order, Order.sort ts = .ok order) ∧
      ∀ user : Option UserId,
        (∃ view, ((Query.dag user).run memory false tasks).1 = .ok view) ∧
        ∀ (σ : Type) (repo : Repository σ) (view : σ → TaskMap) (s : σ) (expired : Bool)
          (reason : String), repo.Faithful view → view s = tasks →
          ((Query.dag user).run repo expired s).1 ≠ .error (.integrity reason)) := by
  rw [Graph.violations_eq_nil_iff]
  refine ⟨Graph.sound_iff, fun h => ?_⟩
  refine ⟨h.not_isAncestor, h.not_hasCycleThrough, fun ts => h.sort_ok, fun user => ?_⟩
  refine ⟨DagView.ofTasks_ok h user, ?_⟩
  rintro σ repo view s expired reason hrepo rfl
  exact Query.dag_ne_integrity hrepo h expired user reason

/-- A triangle of edges without a cycle: it is sorted, with its tasks in the one order there is. -/
theorem acyclic_of_triangle : Graph.violations Sample.triangle = [] ∧
    Graph.isAncestor Sample.triangle Sample.third Sample.second = true ∧
    Graph.isAncestor Sample.triangle Sample.second Sample.second = false ∧
    ∃ order, Order.sort Sample.triangle.toList = .ok order ∧
      order.map Task.id = [Sample.third, Sample.first, Sample.second] := by
  have hclean : Graph.violations Sample.triangle = [] :=
    Graph.violations_eq_nil_iff.mpr Sample.wellFormed_triangle.sound
  obtain ⟨hancestor, -, hsort, -⟩ := (acyclic_of_violations Sample.triangle).2 hclean
  obtain ⟨order, horder⟩ := hsort Sample.triangle.toList fun t ht => ht
  refine ⟨hclean, by cbv, hancestor Sample.second, order, horder, ?_⟩
  have hids : (Order.sort Sample.triangle.toList).map (List.map Task.id) =
      .ok [Sample.third, Sample.first, Sample.second] := by cbv
  rw [horder] at hids
  exact Except.ok.inj hids

end TaskPipeline
