import Mathlib.Logic.Relation
import TaskPipeline.Proofs.Graph.Contraction

/-!
# Cycles that a contraction closes

A contraction puts the task that remains on a cycle iff the two tasks are joined by a path of two or
more edges, a `Detour`, in one direction or the other (`Folds.closes_iff`).  A single edge between
them becomes a loop and is dropped.

The steps of a path are sent to steps or to nothing, so a detour becomes a chain that leaves the
remaining task and comes back to it.  Conversely such a chain, cut off where it first comes back, is
a chain of old edges but for its first and its last step, which each belonged to one of the two
tasks; they did not both belong to the same one, for the old graph has no cycle.
-/

namespace TaskPipeline.Graph

open Relation

variable {tasks rest : TaskMap} {old new x y : TaskId} {now : Instant}

/-- A path of two or more edges. -/
def Detour (tasks : TaskMap) (x y : TaskId) : Prop :=
  ∃ z, Edge tasks x z ∧ TransGen (Edge tasks) z y

theorem redirect_eq_new_iff : redirect old new x = new ↔ x = old ∨ x = new := by
  unfold redirect
  split
  · next h => exact iff_of_true rfl (.inl h)
  · next h => exact (or_iff_right h).symm

theorem redirect_of_ne_new (h : redirect old new x ≠ new) : redirect old new x = x := by
  have hx : ¬ (x = old ∨ x = new) := fun hx => h (redirect_eq_new_iff.mpr hx)
  unfold redirect
  rw [if_neg fun hxo => hx (.inl hxo)]

/-- A chain that comes to a node comes there for the first time, over steps that avoid it. -/
theorem exists_first_arrival {α : Type} {r r' : α → α → Prop} {n x : α}
    (hr : ∀ x y, x ≠ n → y ≠ n → r' x y → r x y) (hx : x ≠ n) (h : ReflTransGen r' x n) :
    ∃ z, z ≠ n ∧ ReflTransGen r x z ∧ r' z n := by
  -- from the front: either the next node is the one sought, or the chain goes on without it
  induction h using ReflTransGen.head_induction_on with
  | refl => exact absurd rfl hx
  | @head x y hxy _ ih =>
    by_cases hy : y = n
    · exact ⟨x, hx, .refl, hy ▸ hxy⟩
    · obtain ⟨z, hz, hyz, hzn⟩ := ih hy
      have hstep : r x y := hr x y hx hy hxy
      exact ⟨z, hz, hyz.head hstep, hzn⟩

/-! ### Images of paths -/

/-- Two tasks that are sent to the remaining one are the two tasks of the contraction. -/
theorem eq_or_eq_of_redirect (hx : redirect old new x = new) (hy : redirect old new y = new)
    (hxy : x ≠ y) : x = old ∧ y = new ∨ x = new ∧ y = old := by
  rcases redirect_eq_new_iff.mp hx with rfl | rfl <;> rcases redirect_eq_new_iff.mp hy with rfl | rfl
  · exact absurd rfl hxy
  · exact .inl ⟨rfl, rfl⟩
  · exact .inr ⟨rfl, rfl⟩
  · exact absurd rfl hxy

namespace Folds

variable (h : Folds tasks rest old new) (hs : Sound tasks) (honce : OnceAtMost tasks old)

include h hs honce

theorem edge_redirect (hxy : Edge tasks x y) (hne : redirect old new x ≠ redirect old new y) :
    Edge (rename rest old new now) (redirect old new x) (redirect old new y) :=
  (h.mem_outflowsOf hs honce _ _).mpr ⟨hne, x, y, hxy, rfl, rfl⟩

/-- A path is sent to a path, which may be shorter. -/
theorem path_redirect (hxy : TransGen (Edge tasks) x y) :
    ReflTransGen (Edge (rename rest old new now)) (redirect old new x) (redirect old new y) := by
  refine ReflTransGen.lift' (redirect old new) (fun a b hab => ?_) x y hxy.to_reflTransGen
  show ReflTransGen (Edge (rename rest old new now)) (redirect old new a) (redirect old new b)
  by_cases hne : redirect old new a = redirect old new b
  · rw [hne]
  · exact .single (h.edge_redirect hs honce hab hne)

/-- A detour between the two tasks becomes a cycle. -/
theorem closes_of_detour (hx : redirect old new x = new) (hy : redirect old new y = new)
    (hxy : x ≠ y) (hdetour : Detour tasks x y) :
    TransGen (Edge (rename rest old new now)) new new := by
  obtain ⟨z, hxz, hzy⟩ := hdetour
  -- the node between is neither of the two, or there had been a cycle
  have hzx : z ≠ x := by
    rintro rfl
    exact hs.acyclic z (.single hxz)
  have hzy' : z ≠ y := by
    rintro rfl
    exact hs.acyclic z hzy
  have hz : redirect old new z ≠ new := by
    intro hz
    rcases eq_or_eq_of_redirect hx hy hxy with ⟨rfl, rfl⟩ | ⟨rfl, rfl⟩
    · exact (redirect_eq_new_iff.mp hz).elim hzx hzy'
    · exact (redirect_eq_new_iff.mp hz).elim hzy' hzx
  have hne : redirect old new x ≠ redirect old new z := by
    rw [hx]
    exact hz.symm
  have hfirst : Edge (rename rest old new now) (redirect old new x) (redirect old new z) :=
    h.edge_redirect hs honce hxz hne
  have hrest : ReflTransGen (Edge (rename rest old new now)) (redirect old new z)
      (redirect old new y) := h.path_redirect hs honce hzy
  rw [hx] at hfirst
  rw [hy] at hrest
  exact TransGen.head' hfirst hrest

/-- A cycle through the remaining task comes from a detour between two tasks that were sent there. -/
theorem exists_detour (hcycle : TransGen (Edge (rename rest old new now)) new new) :
    ∃ x y, redirect old new x = new ∧ redirect old new y = new ∧ x ≠ y ∧ Detour tasks x y := by
  obtain ⟨b, hnb, hbn⟩ := TransGen.head'_iff.mp hcycle
  obtain ⟨hne, x, b₀, hxb, hx, hb₀⟩ := (h.mem_outflowsOf hs honce new b).mp hnb
  have hb : b₀ = b := (redirect_of_ne_new (hb₀ ▸ hne.symm)).symm.trans hb₀
  rw [hb] at hxb
  obtain ⟨c, hcn, hbc, hback⟩ := exists_first_arrival
    (fun a b ha hb => h.edge_of_ne hs honce ha hb) hne.symm hbn
  obtain ⟨-, c₀, y, hcy, hc₀, hy⟩ := (h.mem_outflowsOf hs honce c new).mp hback
  have hc : c₀ = c := (redirect_of_ne_new (hc₀ ▸ hcn)).symm.trans hc₀
  rw [hc] at hcy
  have hby : TransGen (Edge tasks) b y := TransGen.tail' hbc hcy
  refine ⟨x, y, hx, hy, ?_, b, hxb, hby⟩
  rintro rfl
  exact hs.acyclic x (hby.head hxb)

/-- **The cycles that a contraction closes**: the remaining task is on a cycle iff a path of two or
more edges joined the two tasks. -/
theorem closes_iff : TransGen (Edge (rename rest old new now)) new new ↔
    Detour tasks old new ∨ Detour tasks new old := by
  have hold : redirect old new old = new := redirect_eq_new_iff.mpr (.inl rfl)
  have hnew : redirect old new new = new := redirect_eq_new_iff.mpr (.inr rfl)
  constructor
  · intro hcycle
    obtain ⟨x, y, hx, hy, hxy, hdetour⟩ := h.exists_detour hs honce hcycle
    rcases eq_or_eq_of_redirect hx hy hxy with ⟨rfl, rfl⟩ | ⟨rfl, rfl⟩
    · exact .inl hdetour
    · exact .inr hdetour
  · rintro (hdetour | hdetour)
    · exact h.closes_of_detour hs honce hold hnew h.ne.symm hdetour
    · exact h.closes_of_detour hs honce hnew hold h.ne hdetour

end Folds

end TaskPipeline.Graph
