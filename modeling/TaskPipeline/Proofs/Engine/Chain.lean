import Mathlib.Data.List.Basic
import Mathlib.Data.List.Chain
import TaskPipeline.Engine.Structure
import TaskPipeline.Proofs.Graph.Rewire

/-!
# Linking one after the other

`TaskMap.linkedAll` keeps the graph well-formed and rewires the tasks, since each link does.  When
it succeeds, all the edges are there (`TaskMap.hasEdge_of_linkedAll`).

Linking a list of tasks into a chain succeeds only if the tasks of the list are all different
(`TaskMap.nodup_of_linkedAll`), whatever the rest of the graph looks like: the search refuses the
edge that would lead back to a task met before.
-/

namespace TaskPipeline.TaskMap

open Relation

variable {tasks tasks' : TaskMap} {source target : TaskId} {now : Instant}

theorem linked_eq_ok_iff :
    linked tasks source target now = .ok tasks' ↔
      Graph.link tasks source target now = .ok tasks' := by
  unfold linked
  cases Graph.link tasks source target now <;> simp [Except.mapError]

/-- A property that each link keeps holds after all of them. -/
theorem linkedAll_induction {p : TaskMap → Prop} {pairs : List (TaskId × TaskId)}
    (hp : ∀ tasks tasks' e, e ∈ pairs → p tasks → Graph.link tasks e.1 e.2 now = .ok tasks' →
      p tasks')
    (h : p tasks) (hlink : linkedAll now tasks pairs = .ok tasks') : p tasks' := by
  induction pairs generalizing tasks with
  | nil =>
    cases hlink
    exact h
  | cons e rest ih =>
    unfold linkedAll at hlink
    cases he : linked tasks e.1 e.2 now with
    | error e => rw [he] at hlink; cases hlink
    | ok tasks₁ =>
      rw [he] at hlink
      exact ih (fun tasks tasks' e he => hp tasks tasks' e (List.mem_cons_of_mem _ he))
        (hp tasks tasks₁ e List.mem_cons_self h (linked_eq_ok_iff.mp he)) hlink

theorem wellFormed_linkedAll {pairs : List (TaskId × TaskId)} (h : Graph.WellFormed tasks)
    (hlink : linkedAll now tasks pairs = .ok tasks') : Graph.WellFormed tasks' :=
  linkedAll_induction (fun _ _ _ _ h hlink => h.link hlink) h hlink

theorem sound_linkedAll {pairs : List (TaskId × TaskId)} (h : Graph.Sound tasks)
    (hlink : linkedAll now tasks pairs = .ok tasks') : Graph.Sound tasks' :=
  linkedAll_induction (fun _ _ _ _ h hlink => h.link hlink) h hlink

theorem rewires_linkedAll {pairs : List (TaskId × TaskId)}
    (hlink : linkedAll now tasks pairs = .ok tasks') : tasks.Rewires tasks' :=
  linkedAll_induction (fun _ _ _ _ h hlink => h.trans (Graph.rewires_link hlink)) (.refl tasks)
    hlink

/-! ### Edges that are there -/

/-- The edges after an edge is added: the old ones and the new one. -/
theorem hasEdge_addEdge_iff (hcheck : Graph.checkEdge tasks source target = .ok ()) (a b : TaskId) :
    Graph.hasEdge (Graph.addEdge tasks source target now) a b = true ↔
      Graph.hasEdge tasks a b = true ∨ a = source ∧ b = target := by
  obtain ⟨hne, hs, ht, -⟩ := Graph.checkEdge_eq_ok_iff.mp hcheck
  rw [Graph.hasEdge_iff, Graph.hasEdge_iff, Graph.mem_outflowsOf_addEdge hs,
    Graph.mem_inflowsOf_addEdge hne ht]
  constructor
  · rintro ⟨ho | he, hi | he'⟩
    · exact .inl ⟨ho, hi⟩
    · exact .inr he'
    · exact .inr he
    · exact .inr he
  · rintro (⟨ho, hi⟩ | he)
    · exact ⟨.inl ho, .inl hi⟩
    · exact ⟨.inr he, .inr he⟩

theorem hasEdge_link (hlink : Graph.link tasks source target now = .ok tasks') :
    Graph.hasEdge tasks' source target = true := by
  rcases Graph.link_eq_ok_iff.mp hlink with ⟨he, rfl⟩ | ⟨-, hcheck, rfl⟩
  · exact he
  · exact (hasEdge_addEdge_iff hcheck source target).mpr (.inr ⟨rfl, rfl⟩)

theorem hasEdge_link_of_hasEdge {a b : TaskId} (h : Graph.hasEdge tasks a b = true)
    (hlink : Graph.link tasks source target now = .ok tasks') :
    Graph.hasEdge tasks' a b = true := by
  rcases Graph.link_eq_ok_iff.mp hlink with ⟨-, rfl⟩ | ⟨-, hcheck, rfl⟩
  · exact h
  · exact (hasEdge_addEdge_iff hcheck a b).mpr (.inl h)

/-- **After linking, every edge of the list is there.** -/
theorem hasEdge_of_linkedAll {pairs : List (TaskId × TaskId)}
    (hlink : linkedAll now tasks pairs = .ok tasks') :
    ∀ e ∈ pairs, Graph.hasEdge tasks' e.1 e.2 = true := by
  induction pairs generalizing tasks with
  | nil => exact fun e he => absurd he List.not_mem_nil
  | cons e rest ih =>
    unfold linkedAll at hlink
    cases he : linked tasks e.1 e.2 now with
    | error e => rw [he] at hlink; cases hlink
    | ok tasks₁ =>
      rw [he] at hlink
      intro e' he'
      rcases List.mem_cons.mp he' with rfl | he'
      · exact linkedAll_induction (p := fun tasks => Graph.hasEdge tasks e'.1 e'.2 = true)
          (fun _ _ _ _ h hlink => hasEdge_link_of_hasEdge h hlink)
          (hasEdge_link (linked_eq_ok_iff.mp he)) hlink
      · exact ih hlink e' he'

/-- Linking other tasks neither adds nor removes references to a task. -/
theorem mem_linkedAll_of_ne (old : TaskId) {pairs : List (TaskId × TaskId)}
    (hold : ∀ e ∈ pairs, e.1 ≠ old ∧ e.2 ≠ old) (hlink : linkedAll now tasks pairs = .ok tasks') :
    (∀ x, old ∈ Graph.inflowsOf tasks' x ↔ old ∈ Graph.inflowsOf tasks x) ∧
      ∀ x, old ∈ Graph.outflowsOf tasks' x ↔ old ∈ Graph.outflowsOf tasks x := by
  refine linkedAll_induction (p := fun later =>
    (∀ x, old ∈ Graph.inflowsOf later x ↔ old ∈ Graph.inflowsOf tasks x) ∧
      ∀ x, old ∈ Graph.outflowsOf later x ↔ old ∈ Graph.outflowsOf tasks x) ?_
    ⟨fun _ => .rfl, fun _ => .rfl⟩ hlink
  rintro later latest e he ⟨hin, hout⟩ hlink
  obtain ⟨hsource, htarget⟩ := hold e he
  rcases Graph.link_eq_ok_iff.mp hlink with ⟨-, rfl⟩ | ⟨-, hcheck, rfl⟩
  · exact ⟨hin, hout⟩
  · obtain ⟨hne, hs, ht, -⟩ := Graph.checkEdge_eq_ok_iff.mp hcheck
    refine ⟨fun x => ?_, fun x => ?_⟩
    · rw [Graph.mem_inflowsOf_addEdge hne ht, ← hin]
      exact or_iff_left fun h => hsource h.1.symm
    · rw [Graph.mem_outflowsOf_addEdge hs, ← hout]
      exact or_iff_left fun h => htarget h.2.symm

/-! ### Chains of different tasks -/

/-- An edge between tasks of a list. -/
def EdgeWithin (within : List TaskId) (tasks : TaskMap) (a b : TaskId) : Prop :=
  a ∈ within ∧ b ∈ within ∧ Graph.hasEdge tasks a b = true

/-- Linking closes no chain among the tasks of a list, wherever the linked tasks are. -/
theorem acyclic_edgeWithin_link {within : List TaskId}
    (h : ∀ x, ¬ TransGen (EdgeWithin within tasks) x x)
    (hlink : Graph.link tasks source target now = .ok tasks') (x : TaskId) :
    ¬ TransGen (EdgeWithin within tasks') x x := by
  rcases Graph.link_eq_ok_iff.mp hlink with ⟨-, rfl⟩ | ⟨-, hcheck, rfl⟩
  · exact h x
  · have hchain : ¬ ReflTransGen (EdgeWithin within tasks) target source :=
      Graph.not_chain_of_checkEdge hcheck fun a b hab => (Graph.hasEdge_iff.mp hab.2.2).2
    refine Graph.acyclic_of_insert h ?_ hchain x
    rintro a b ⟨ha, hb, hab⟩
    rcases (hasEdge_addEdge_iff hcheck a b).mp hab with hab | he
    · exact .inl ⟨ha, hb, hab⟩
    · exact .inr he

/-- The nodes of a chain are all different if no chain closes. -/
theorem nodup_of_isChain {α : Type} {r : α → α → Prop} {l : List α} (h : l.IsChain r)
    (hr : ∀ x, ¬ TransGen r x x) : l.Nodup := by
  have hchain : l.IsChain (TransGen r) := h.imp fun _ _ hab => .single hab
  refine (List.isChain_iff_pairwise.mp hchain).imp fun {a b} hab heq => ?_
  exact hr a (heq ▸ hab)

/-- Each node of a chain is related to the next one. -/
theorem isChain_of_zip {α : Type} {r : α → α → Prop} {first : α} {rest : List α}
    (h : ∀ e ∈ (first :: rest).zip rest, r e.1 e.2) : (first :: rest).IsChain r := by
  induction rest generalizing first with
  | nil => exact .singleton first
  | cons second rest ih =>
    rw [List.zip_cons_cons] at h
    exact .cons_cons (h (first, second) List.mem_cons_self)
      (ih fun e he => h e (List.mem_cons_of_mem _ he))

/-- **Only different tasks can be linked into a chain**, if all but the first have no edges. -/
theorem nodup_of_linkedAll {first : TaskId} {rest : List TaskId}
    (hout : ∀ id ∈ rest, Graph.outflowsOf tasks id = [])
    (hlink : linkedAll now tasks ((first :: rest).zip rest) = .ok tasks') :
    (first :: rest).Nodup := by
  have hacyclic : ∀ x, ¬ TransGen (EdgeWithin rest tasks') x x := by
    refine linkedAll_induction (p := fun tasks => ∀ x, ¬ TransGen (EdgeWithin rest tasks) x x)
      (fun _ _ _ _ h hlink => acyclic_edgeWithin_link h hlink) (fun x hx => ?_) hlink
    -- no task of the list has an outflow yet
    obtain ⟨y, ⟨hx, -, hxy⟩, -⟩ := TransGen.head'_iff.mp hx
    have hy := (Graph.hasEdge_iff.mp hxy).1
    rw [hout x hx] at hy
    cases hy
  have hedges := hasEdge_of_linkedAll hlink
  have hright : ∀ e ∈ (first :: rest).zip rest, e.2 ∈ rest := fun e he => (List.of_mem_zip he).2
  have hleft : ∀ e ∈ (first :: rest).zip rest, e.1 = first ∨ e.1 ∈ rest := fun e he =>
    List.mem_cons.mp (List.of_mem_zip he).1
  -- either all of the list is a chain among the others, or the first task is not one of them
  by_cases hfirst : first ∈ rest
  · refine nodup_of_isChain (isChain_of_zip fun e he => ?_) hacyclic
    refine ⟨?_, hright e he, hedges e he⟩
    rcases hleft e he with h | h
    · exact h ▸ hfirst
    · exact h
  · refine List.nodup_cons.mpr ⟨hfirst, ?_⟩
    cases rest with
    | nil => exact List.nodup_nil
    | cons second rest =>
      refine nodup_of_isChain (isChain_of_zip fun e he => ?_) hacyclic
      rw [List.zip_cons_cons] at hedges
      have hmem := List.of_mem_zip he
      exact ⟨hmem.1, List.mem_cons_of_mem _ hmem.2, hedges e (List.mem_cons_of_mem _ he)⟩

end TaskPipeline.TaskMap
