import Mathlib.Data.List.Permutation
import TaskPipeline.Proofs.Graph.Integrity
import TaskPipeline.Proofs.Graph.WellFormed

/-!
# Edges that close a cycle

`Graph.tryLink` decides by a walk along inflows, from the source of the new edge upwards, while the
damage would be a cycle of outflows.  On a sound graph the two are the same thing: with one edge more
there is a cycle iff a chain of edges leads from the target of that edge to its source
(`Sound.closes_iff`), since a cycle that the old edges do not make runs through the new one.

So two tasks are linked unless this edge is there or closes a cycle, and nothing but the edge and the
time of the change is written (`tryLink_exact`).
-/

namespace TaskPipeline.Graph

open Relation

variable {tasks : TaskMap} {source target : TaskId} {now : Instant}

/-- With one edge more there is a cycle. -/
def Closes (tasks : TaskMap) (source target : TaskId) : Prop :=
  ∃ id, TransGen (fun a b => Edge tasks a b ∨ a = source ∧ b = target) id id

/-- The tasks afterwards are those before with one edge more, at the end of the lists. -/
structure Appends (before after : TaskMap) (source target : TaskId) (now : Instant) : Prop where
  source_eq : ∃ t, before.get? source = some t ∧ after.get? source =
    some { t with outflows := ⟨t.outflows.ids ++ [target]⟩, updatedAt := now }
  target_eq : ∃ t, before.get? target = some t ∧ after.get? target =
    some { t with inflows := ⟨t.inflows.ids ++ [source]⟩, updatedAt := now }
  /-- All other tasks stay as they are. -/
  others : ∀ id, id ≠ source → id ≠ target → after.get? id = before.get? id

/-! ### Cycles -/

/-- **An edge closes a cycle** iff a chain leads from its target to its source. -/
theorem Sound.closes_iff (h : Sound tasks) (hne : source ≠ target) :
    Closes tasks source target ↔ TransGen (Edge tasks) target source := by
  constructor
  · rintro ⟨id, hcycle⟩
    by_contra hchain
    have hback : ¬ ReflTransGen (Edge tasks) target source := by
      intro hback
      rcases reflTransGen_iff_eq_or_transGen.mp hback with heq | hback
      · exact hne heq
      · exact hchain hback
    exact acyclic_of_insert h.acyclic (fun _ _ hab => hab) hback id hcycle
  · intro hchain
    have hback : TransGen (fun a b => Edge tasks a b ∨ a = source ∧ b = target) target source :=
      TransGen.mono (fun _ _ hab => .inl hab) _ _ hchain
    exact ⟨target, hback.tail (.inr ⟨rfl, rfl⟩)⟩

theorem Sound.closes_iff_isAncestor (h : Sound tasks) (hne : source ≠ target) :
    Closes tasks source target ↔ isAncestor tasks target source = true := by
  rw [h.closes_iff hne, h.isAncestor_iff_chain]

/-- An edge that is there closes no cycle. -/
theorem Sound.not_closes (h : Sound tasks) (hedge : Edge tasks source target) :
    ¬ Closes tasks source target := by
  have hne : source ≠ target := by
    rintro rfl
    exact h.not_mem_outflows source hedge
  rw [h.closes_iff hne]
  exact fun hchain => h.acyclic source (hchain.head hedge)

/-! ### The edge -/

/-- **A new edge is written at the end of two lists**, and nothing else is but the time. -/
theorem Sound.appends (h : Sound tasks) (hs : tasks.has source = true)
    (ht : tasks.has target = true) (hne : source ≠ target) (hnew : ¬ Edge tasks source target) :
    Appends tasks (Graph.addEdge tasks source target now) source target now := by
  obtain ⟨s, hs⟩ := TaskMap.has_iff.mp hs
  obtain ⟨t, ht⟩ := TaskMap.has_iff.mp ht
  have hsid : s.id = source := TaskMap.id_of_get? hs
  have htid : t.id = target := TaskMap.id_of_get? ht
  have hout : target ∉ s.outflows.ids := by
    rw [← outflowsOf_of_get? hs]
    exact hnew
  have hin : source ∉ t.inflows.ids := by
    rw [← inflowsOf_of_get? ht, ← h.mem_outflows_iff]
    exact hnew
  refine ⟨⟨s, hs, ?_⟩, ⟨t, ht, ?_⟩, fun id hids hidt => ?_⟩
  · rw [get?_addEdge, hs, Option.map_some]
    unfold withHalf
    rw [if_pos hsid, Flows.add_of_not_mem hout]
  · rw [get?_addEdge, ht, Option.map_some]
    unfold withHalf
    rw [if_neg (by rw [htid]; exact hne.symm), if_pos htid, Flows.add_of_not_mem hin]
  · rw [get?_addEdge]
    cases hu : tasks.get? id with
    | none => rfl
    | some u =>
      have huid : u.id = id := TaskMap.id_of_get? hu
      rw [Option.map_some]
      unfold withHalf
      rw [if_neg (by rw [huid]; exact hids), if_neg (by rw [huid]; exact hidt)]

/-! ### The answer -/

/-- What is answered about two tasks that are there. -/
theorem tryLink_eq (hne : source ≠ target) (hs : tasks.has source = true)
    (ht : tasks.has target = true) :
    tryLink tasks source target now =
      if hasEdge tasks source target then (.ok false, tasks)
      else if isAncestor tasks target source then (.error (.cycle source target), tasks)
      else (.ok true, addEdge tasks source target now) := by
  have hcheck : checkEdge tasks source target =
      if isAncestor tasks target source then .error (.cycle source target) else .ok () := by
    unfold checkEdge
    rw [if_neg hne, hs, ht]
    simp
  unfold tryLink
  rw [hcheck]
  cases isAncestor tasks target source <;> rfl

/-- **Linking refuses exactly the edges that close a cycle.**  Two different tasks of a well-formed
graph are to be linked.  The answer is that there would be a cycle iff with this edge there would be
one, that the edge is not new iff it is there, and that it is new in all other cases.  Then the edge
stands at the end of the source's outflows and of the target's inflows, and nothing else changes but
the time at which these two were changed; otherwise nothing changes at all.  The graph stays
well-formed. -/
theorem tryLink_exact (tasks : TaskMap) (source target : TaskId) (now : Instant)
    (hwf : WellFormed tasks) (hne : source ≠ target) (hs : tasks.has source = true)
    (ht : tasks.has target = true) :
    ∃ answer after, tryLink tasks source target now = (answer, after) ∧ WellFormed after ∧
      (answer = .error (.cycle source target) ↔ Closes tasks source target) ∧
      (answer = .ok false ↔ Edge tasks source target) ∧
      (answer = .ok true ↔ ¬ Closes tasks source target ∧ ¬ Edge tasks source target) ∧
      (∀ e, answer = .error e → e = .cycle source target) ∧
      (answer = .ok true → Appends tasks after source target now) ∧
      (answer ≠ .ok true → after = tasks) := by
  have hsound : Sound tasks := hwf.sound
  have hcloses := hsound.closes_iff_isAncestor hne
  rw [tryLink_eq hne hs ht]
  by_cases hedge : hasEdge tasks source target = true
  · -- the edge is there
    have hthere : Edge tasks source target := hsound.hasEdge_iff.mp hedge
    have hopen : ¬ Closes tasks source target := hsound.not_closes hthere
    rw [if_pos hedge]
    exact ⟨_, _, rfl, hwf, iff_of_false (by simp) hopen, iff_of_true rfl hthere,
      iff_of_false (by simp) fun h => h.2 hthere, by simp, by simp, fun _ => rfl⟩
  · have hnew : ¬ Edge tasks source target := fun h => hedge (hsound.hasEdge_iff.mpr h)
    rw [if_neg hedge]
    by_cases hanc : isAncestor tasks target source = true
    · -- the edge would close a cycle
      have hclosed : Closes tasks source target := hcloses.mpr hanc
      rw [if_pos hanc]
      exact ⟨_, _, rfl, hwf, iff_of_true rfl hclosed, iff_of_false (by simp) hnew,
        iff_of_false (by simp) fun h => h.1 hclosed, fun _ he => (Except.error.inj he).symm,
        by simp, fun _ => rfl⟩
    · have hopen : ¬ Closes tasks source target := fun h => hanc (hcloses.mp h)
      have hcheck : checkEdge tasks source target = .ok () :=
        checkEdge_eq_ok_iff.mpr ⟨hne, hs, ht, by simpa using hanc⟩
      have happends : Appends tasks (addEdge tasks source target now) source target now :=
        hsound.appends hs ht hne hnew
      rw [if_neg hanc]
      exact ⟨_, _, rfl, hwf.addEdge hcheck, iff_of_false (by simp) hopen, iff_of_false (by simp) hnew,
        iff_of_true rfl ⟨hopen, hnew⟩, by simp, fun _ => happends, fun h => absurd rfl h⟩

namespace Sample

def first : TaskId := ⟨"first", by decide, by decide⟩

def second : TaskId := ⟨"second", by decide, by decide⟩

def third : TaskId := ⟨"third", by decide, by decide⟩

def linker : UserId := ⟨"linker", by decide, by decide⟩

/-- Three tasks, each of which depends on the one in front of it. -/
def line : TaskMap :=
  .ofList [{ Task.create first "" "" linker (.midnight .epoch) with outflows := ⟨[second]⟩ },
    { Task.create second "" "" linker (.midnight .epoch) with
      inflows := ⟨[first]⟩, outflows := ⟨[third]⟩ },
    { Task.create third "" "" linker (.midnight .epoch) with inflows := ⟨[second]⟩ }]

theorem wellFormed_line : WellFormed line := wellFormed_of_violations (by cbv) (by decide)

end Sample

/-- The last task of the line cannot be linked to the first, since two edges lead back to it; the
first can be linked to the last. -/
theorem tryLink_line :
    tryLink Sample.line Sample.third Sample.first (.midnight .epoch) =
      (.error (.cycle Sample.third Sample.first), Sample.line) ∧
    ∃ after, tryLink Sample.line Sample.first Sample.third (.midnight .epoch) = (.ok true, after) ∧
      WellFormed after ∧
      Appends Sample.line after Sample.first Sample.third (.midnight .epoch) := by
  have hwf : WellFormed Sample.line := Sample.wellFormed_line
  constructor
  · obtain ⟨answer, after, heq, -, hcycle, -, -, -, -, hsame⟩ :=
      tryLink_exact Sample.line Sample.third Sample.first (.midnight .epoch) hwf (by decide)
        (by decide) (by decide)
    have hcloses : Closes Sample.line Sample.third Sample.first :=
      (hwf.sound.closes_iff_isAncestor (by decide)).mpr (by cbv)
    have herror : answer = .error (.cycle Sample.third Sample.first) := hcycle.mpr hcloses
    have hafter : after = Sample.line := hsame (by simp [herror])
    rw [heq, herror, hafter]
  · obtain ⟨answer, after, heq, hafter, -, -, hnew, -, happends, -⟩ :=
      tryLink_exact Sample.line Sample.first Sample.third (.midnight .epoch) hwf (by decide)
        (by decide) (by decide)
    have hopen : ¬ Closes Sample.line Sample.first Sample.third := by
      have hapart : isAncestor Sample.line Sample.third Sample.first = false := by cbv
      rw [hwf.sound.closes_iff_isAncestor (by decide), hapart]
      exact Bool.false_ne_true
    have hedge : Sample.third ∉ outflowsOf Sample.line Sample.first := by decide
    have htrue : answer = .ok true := hnew.mpr ⟨hopen, hedge⟩
    exact ⟨after, by rw [heq, htrue], hafter, happends htrue⟩

end TaskPipeline.Graph
