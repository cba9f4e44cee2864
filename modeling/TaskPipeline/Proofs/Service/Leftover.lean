import TaskPipeline.Proofs.Graph.Integrity
import TaskPipeline.Proofs.Service.Turn

/-!
# References that are left behind

A merge and a split each remove a task, and put another one in its place in all lists.  A list that
was read from a file may have the task more than once; only its first entry is replaced, so the
removed task stays listed there (`Graph.Retires`).  The scan does not see it coming, because it does
not count entries, but it sees the dangling reference afterwards.

`violations_after_iff`: after a merge or a split of a task of a graph that passed the scan, the graph
passes the scan again iff no list had the task more than once.
-/

namespace TaskPipeline

namespace Graph

variable {tasks tasks' : TaskMap} {id : TaskId}

/-- A task has gone away.  It is still listed exactly where it was listed more than once, and if it
is listed nowhere then the graph is sound. -/
structure Retires (tasks tasks' : TaskMap) (id : TaskId) : Prop where
  gone : tasks'.get? id = none
  mem_inflows_iff : ∀ x, id ∈ inflowsOf tasks' x ↔ 2 ≤ (inflowsOf tasks x).count id
  mem_outflows_iff : ∀ x, id ∈ outflowsOf tasks' x ↔ 2 ≤ (outflowsOf tasks x).count id
  sound : OnceAtMost tasks id → Sound tasks'

/-- **A scan finds what is left behind**, and nothing else. -/
theorem Retires.violations_iff (h : Retires tasks tasks' id) :
    violations tasks' = [] ↔ OnceAtMost tasks id := by
  rw [violations_eq_nil_iff]
  constructor
  · intro hsound x
    have hno : tasks'.has id = false := TaskMap.get?_eq_none_iff.mp h.gone
    -- a list that had the task more than once still has it, and it would have to exist
    refine ⟨Nat.le_of_not_lt fun hin => ?_, Nat.le_of_not_lt fun hout => ?_⟩
    · have hhas := hsound.has_inflow ((h.mem_inflows_iff x).mpr hin)
      rw [hno] at hhas
      cases hhas
    · have hhas := hsound.has_outflow ((h.mem_outflows_iff x).mpr hout)
      rw [hno] at hhas
      cases hhas
  · exact h.sound

theorem Retires.of_flows_eq {tasks'' : TaskMap} (h : Retires tasks tasks' id)
    (hgone : tasks''.get? id = none)
    (hflows : ∀ x, inflowsOf tasks'' x = inflowsOf tasks' x ∧
      outflowsOf tasks'' x = outflowsOf tasks' x) : Retires tasks tasks'' id where
  gone := hgone
  mem_inflows_iff x := by rw [(hflows x).1]; exact h.mem_inflows_iff x
  mem_outflows_iff x := by rw [(hflows x).2]; exact h.mem_outflows_iff x
  sound honce := (h.sound honce).of_flows_eq (fun x => (hflows x).1) fun x => (hflows x).2

end Graph

namespace TaskMap

variable {tasks tasks' : TaskMap} {source target : TaskId} {now : Instant}
  {collision : TagCollision}

/-- **A merge removes the task that is folded in.** -/
theorem retires_merged (hsound : Graph.Sound tasks) (hne : source ≠ target)
    (h : tasks.merged source target now collision = .ok tasks') :
    Graph.Retires tasks tasks' source := by
  obtain ⟨-, -, -, -, -, -, -, hgone, -⟩ := get?_merged hne h
  obtain ⟨s, t, hs, ht, -, hcycle, rfl⟩ := merged_eq_ok_iff.mp h
  have hfolds : Graph.Folds tasks (tasks.absorbed source (t.absorb s now collision)) source target :=
    folds_merge hsound hs ht hne.symm
  refine ⟨hgone, hfolds.mem_old_inflowsOf hsound, hfolds.mem_old_outflowsOf hsound, fun honce => ?_⟩
  -- the only chain that could close passes through the task that remains
  refine hsound.contract hfolds honce fun hchain => ?_
  rw [(Graph.hasCycleThrough_iff target).mpr hchain] at hcycle
  cases hcycle

/-- **A split removes the task** if the parts are new tasks. -/
theorem retires_splitInto {task : Task} {parts : List Task} (hsound : Graph.Sound tasks)
    (htask : tasks.get? task.id = some task) (hparts : parts ≠ [])
    (hfresh : ∀ p ∈ parts, tasks.get? p.id = none)
    (hin : ∀ p ∈ parts, p.inflows = .empty) (hout : ∀ p ∈ parts, p.outflows = .empty)
    (h : tasks.splitInto task parts now = .ok tasks') : Graph.Retires tasks tasks' task.id := by
  have hnodup := nodup_of_splitInto hout h
  cases parts with
  | nil => exact absurd rfl hparts
  | cons first rest =>
    have hgone : tasks'.get? task.id = none := by
      rw [get?_eq_none_iff, (rewires_splitInto h).has_eq, ← get?_eq_none_iff]
      exact get?_parted_self htask hfresh
    have hfolds := folds_split hsound htask hfresh hnodup
      (fun p hp => hin p (List.mem_cons_of_mem _ hp))
      (fun p hp => hout p (List.mem_cons_of_mem _ hp))
    rw [splitInto_cons] at h
    -- the parts are linked to each other, so the task is not listed anew
    have hpart : ∀ id ∈ first.id :: rest.map Task.id, id ≠ task.id := by
      intro id hid
      obtain ⟨p, hp, rfl⟩ := List.mem_map.mp (show id ∈ (first :: rest).map Task.id from hid)
      exact ne_of_get? (hfresh p hp) htask
    have hlinked := mem_linkedAll_of_ne task.id (fun e he =>
      ⟨hpart _ (List.of_mem_zip he).1, hpart _ (List.mem_cons_of_mem _ (List.of_mem_zip he).2)⟩) h
    have hfirst := hfresh first List.mem_cons_self
    refine ⟨hgone, fun x => ?_, fun x => ?_, fun honce => ?_⟩
    · rw [hlinked.1, hfolds.mem_old_inflowsOf hsound]
    · rw [hlinked.2, hfolds.mem_old_outflowsOf hsound]
    · exact sound_linkedAll (hsound.contract_of_isolated hfolds honce
        (Graph.inflowsOf_of_none hfirst) (Graph.outflowsOf_of_none hfirst)) h

end TaskMap

namespace Operation

variable {policy : Policy} {op : Operation} {ambient : Ambient} {store before store' : TaskMap}
  {edited committed : Edited} {id : TaskId}

/-- The operation merges the task into another one, or splits it. -/
def Removes (op : Operation) (id : TaskId) : Prop :=
  (∃ target, op = .merge id target) ∨ ∃ names descriptions, op = .split id names descriptions

theorem Removes.scope_eq (h : op.Removes id) : op.scope = .whole := by
  rcases h with ⟨target, rfl⟩ | ⟨names, descriptions, rfl⟩ <;> rfl

theorem Performed.retires (h : Performed policy op ambient store before edited committed store')
    (hargs : op.checkArguments = .ok ()) (hop : op.Removes id) (hsound : Graph.Sound store) :
    Graph.Retires store store' id := by
  have hscope := hop.scope_eq
  have hedits := edits_of_edit h.edits
  have hfresh := h.get?_created hargs
  have hbefore := h.whole hscope
  have hretires : Graph.Retires store edited.1 id := by
    rw [hbefore] at hedits
    rcases hop with ⟨target, rfl⟩ | ⟨names, descriptions, rfl⟩
    · exact TaskMap.retires_merged hsound (checkArguments_merge hargs) hedits.of_merge.1
    · cases hedits with
      | one _ hchange => cases hchange
      | split htask _ hsplit =>
        exact TaskMap.retires_splitInto hsound htask (parts_ne_nil hargs)
          (fun p hp => hfresh p.id (List.mem_map_of_mem hp)) (fun p hp => (parts_spec hp).1)
          (fun p hp => (parts_spec hp).2.1) hsplit
  refine hretires.of_flows_eq ?_ (h.flows_of_whole hscope)
  rw [h.get?_of_all hscope, hretires.gone, Option.map_none]

end Operation

/-- **What a scan finds after a merge or a split** of a graph that passed it: the removed task is
still listed where it was listed more than once, and the graph passes again iff that is nowhere. -/
theorem violations_after_iff {tasks : TaskMap} {turn : Turn} {id : TaskId}
    {r : List Task × List Job} (hclean : Graph.violations tasks = []) (hop : turn.op.Removes id)
    (hok : turn.outcome tasks = .ok r) :
    (∀ x, id ∈ Graph.inflowsOf (turn.after tasks) x ↔ 2 ≤ (Graph.inflowsOf tasks x).count id) ∧
    (∀ x, id ∈ Graph.outflowsOf (turn.after tasks) x ↔ 2 ≤ (Graph.outflowsOf tasks x).count id) ∧
    (Graph.violations (turn.after tasks) = [] ↔ Graph.OnceAtMost tasks id) := by
  rcases turn.outcome_cases tasks with ⟨e, he, -⟩ | ⟨n, before, edited, committed, hargs, hp, -⟩
  · rw [hok] at he
    cases he
  · have hretires := hp.retires hargs hop (Graph.violations_eq_nil_iff.mp hclean)
    exact ⟨hretires.mem_inflows_iff, hretires.mem_outflows_iff, hretires.violations_iff⟩

namespace Sample

/-- Three tasks; the third lists the first one twice. -/
def repeating : TaskMap :=
  .ofList [{ Task.create first "first" "" user (.midnight .epoch) with inflows := ⟨[third]⟩ },
    .create second "second" "" user (.midnight .epoch),
    { Task.create third "third" "" user (.midnight .epoch) with outflows := ⟨[first, first]⟩ }]

end Sample

/-- The scan finds nothing, the first task is merged into the second, and the third still lists it. -/
theorem dangling_after_merging : Graph.violations Sample.repeating = [] ∧
    Sample.first ∈ Graph.outflowsOf (Sample.merging.after Sample.repeating) Sample.third ∧
      Graph.violations (Sample.merging.after Sample.repeating) ≠ [] := by
  have hclean : Graph.violations Sample.repeating = [] := by cbv
  obtain ⟨r, hr⟩ : ∃ r, Sample.merging.outcome Sample.repeating = .ok r := isOk_iff.mp (by cbv)
  have htwice : (Graph.outflowsOf Sample.repeating Sample.third).count Sample.first = 2 := by decide
  obtain ⟨-, hout, hscan⟩ := violations_after_iff hclean (.inl ⟨Sample.second, rfl⟩) hr
  refine ⟨hclean, (hout Sample.third).mpr (Nat.le_of_eq htwice.symm), fun hagain => ?_⟩
  have honce := (hscan.mp hagain Sample.third).2
  rw [htwice] at honce
  omega

end TaskPipeline
