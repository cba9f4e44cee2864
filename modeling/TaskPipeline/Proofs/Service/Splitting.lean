import TaskPipeline.Proofs.Engine.Split
import TaskPipeline.Proofs.Service.Merging

/-!
# Splitting keeps the order

A task that is not being worked on can be split in any well-formed graph, as long as the inbox has room
for the parts, if it is there.  The parts form a chain in the place of the task, and whatever depended
on anything else still does (`split_keeps_order`).
-/

namespace TaskPipeline

open Operation Turn

variable {tasks : TaskMap} {task : Task} {names descriptions : List String}

namespace Graph

variable {tasks' later : TaskMap} {id : TaskId} {f : Nat → TaskId} {n : Nat}

/-- Only the flows count, and which tasks are there. -/
theorem Splits.of_flows (h : Splits tasks tasks' id f n) (hhas : ∀ x, later.has x = tasks'.has x)
    (hflows : ∀ x, inflowsOf later x = inflowsOf tasks' x ∧ outflowsOf later x = outflowsOf tasks' x) :
    Splits tasks later id f n where
  has_iff x := by rw [hhas, h.has_iff]
  inflows_other x hx hid := by rw [(hflows x).1, h.inflows_other x hx hid]
  outflows_other x hx hid := by rw [(hflows x).2, h.outflows_other x hx hid]
  inflows_first := by rw [(hflows (f 0)).1, h.inflows_first]
  outflows_first := by rw [(hflows (f 0)).2, h.outflows_first]
  inflows_later i hi := by rw [(hflows (f (i + 1))).1, h.inflows_later i hi]
  outflows_later i hi := by rw [(hflows (f (i + 1))).2, h.outflows_later i hi]

end Graph

/-- **A split succeeds and keeps the order of everything else.**  A task of a well-formed graph can be
split, and is, in time and with a store that does not fail, into parts with identifiers that are new
and different.  It never fails; the parts are returned and stored, and form a chain in the place of
the task: the others list the first part where they listed the task, the first part has the inflows
of the task and its outflows, and each part has the next one as an outflow at the end.  A task is an
ancestor of another one afterwards iff it was before, and the ancestors of the first part are those
that the task had. -/
theorem split_keeps_order (turn : Turn) (hop : turn.op = .split task.id names descriptions)
    (hundisturbed : turn.Undisturbed) (hwf : Graph.WellFormed tasks)
    (htask : tasks.get? task.id = some task)
    (hsplittable : Splittable turn.setup.policy tasks task names descriptions)
    (hfresh : ∀ i < names.length, tasks.has ((turn.ambients 0).fresh i) = false)
    (hinj : ∀ i < names.length, ∀ j < names.length,
      (turn.ambients 0).fresh i = (turn.ambients 0).fresh j → i = j) :
    ∃ parts jobs, turn.outcome tasks = .ok (parts, jobs) ∧
      parts.map Task.id = (List.range names.length).map (turn.ambients 0).fresh ∧
      (∀ p ∈ parts, (turn.after tasks).get? p.id = some p) ∧
      Graph.Splits tasks (turn.after tasks) task.id (turn.ambients 0).fresh names.length ∧
      (∀ x y, tasks.has x = true → x ≠ task.id → tasks.has y = true → y ≠ task.id →
        Graph.isAncestor (turn.after tasks) x y = Graph.isAncestor tasks x y) ∧
      ∀ x, Graph.isAncestor (turn.after tasks) x ((turn.ambients 0).fresh 0) =
        Graph.isAncestor tasks x task.id := by
  have hadd : ∀ name description owner, turn.op ≠ .add name description owner := by
    rw [hop]
    exact nofun
  have hargs : turn.op.checkArguments = .ok () := by
    rw [hop]
    exact hsplittable.checkArguments task.id
  have hscope : turn.op.scope = .whole := by rw [hop]; rfl
  obtain ⟨tasks', hedit, hsplits⟩ := edit_split hsplittable hwf htask hfresh hinj
  rw [← hop] at hedit
  have hnew : ∀ id ∈ (List.range names.length).map (turn.ambients 0).fresh, tasks.get? id = none := by
    intro id hid
    obtain ⟨i, hi, rfl⟩ := List.mem_map.mp hid
    exact TaskMap.get?_eq_none_iff.mpr (hfresh i (List.mem_range.mp hi))
  obtain ⟨committed, hp, houtcome⟩ := performed_of_edit_ok hundisturbed hadd hargs hscope hedit (by
    rw [hop]
    exact hnew)
  obtain ⟨parts, hparts⟩ := hp.results_ok hargs (TaskMap.nodup_map_range hinj)
  have hafter : Graph.Splits tasks (turn.after tasks) task.id (turn.ambients 0).fresh
      names.length := hsplits.of_flows (hp.has_of_whole hscope) (hp.flows_of_whole hscope)
  have hfirst : tasks.has ((turn.ambients 0).fresh 0) = false :=
    hfresh 0 (List.length_pos_iff.mpr hsplittable.names_ne_nil)
  have hids := TaskMap.map_id_of_map_get? (results_eq_ok_iff.mp hparts).2
  rw [hp.returned] at hids
  have hstored := hp.get?_results hargs (retags_of_whole hscope) hparts
  exact ⟨parts, _, houtcome.trans (turn.answer_of_results hparts), hids, hstored, hafter,
    fun x y hx hxid hy hyid => hafter.isAncestor_eq hwf hfirst hx hxid hy hyid,
    hafter.isAncestor_first hwf (TaskMap.has_iff.mpr ⟨task, htask⟩)⟩

namespace Sample

/-- Identifiers for two parts. -/
def half (i : Nat) : TaskId := if i = 0 then ⟨"half", by decide, by decide⟩ else
  ⟨"half'", by decide, by decide⟩

/-- The task in the middle of the triangle is split in two. -/
def splitting : Turn :=
  .plain ⟨fun _ => .midnight .epoch, half⟩ (.split first ["one", "two"] ["", ""])

end Sample

/-- The task between two others is split in two: the one before it lists the first part in its place,
and the first part lists the one behind it and then the second part. -/
theorem halved_by_splitting :
    Graph.outflowsOf (Sample.splitting.after Sample.triangle) Sample.third =
        [Sample.half 0, Sample.second] ∧
      Graph.outflowsOf (Sample.splitting.after Sample.triangle) (Sample.half 0) =
        [Sample.second, Sample.half 1] ∧
      Graph.isAncestor (Sample.splitting.after Sample.triangle) Sample.third Sample.second =
        Graph.isAncestor Sample.triangle Sample.third Sample.second := by
  obtain ⟨t, ht, hid, hstage⟩ : ∃ t, Sample.triangle.get? Sample.first = some t ∧ t.id = Sample.first ∧
      t.stage = .pending := ⟨_, rfl, rfl, rfl⟩
  have hsplittable : Operation.Splittable .default Sample.triangle t ["one", "two"] ["", ""] :=
    { not_active := by rw [hstage]; decide
      has_room := fun hinbox => by rw [hstage] at hinbox; cases hinbox
      names_ne_nil := List.cons_ne_nil _ _
      length_eq := rfl
      not_blank := by decide }
  obtain ⟨parts, jobs, -, -, -, hsplits, hsame, -⟩ :=
    split_keeps_order Sample.splitting (by rw [hid]; rfl) ⟨rfl, fun _ _ => rfl⟩
      Sample.wellFormed_triangle (by rw [hid]; exact ht) hsplittable (by decide) (by decide)
  rw [hid] at hsplits hsame
  refine ⟨?_, ?_, ?_⟩
  · have hout : Graph.outflowsOf Sample.triangle Sample.third = [Sample.first, Sample.second] := by cbv
    rw [hsplits.outflows_other Sample.third (by decide) (by decide), hout]
    decide
  · have hout : Graph.outflowsOf Sample.triangle Sample.first = [Sample.second] := by cbv
    have hfirst := hsplits.outflows_first
    rw [hout] at hfirst
    exact hfirst
  · exact hsame Sample.third Sample.second (by decide) (by decide) (by decide) (by decide)

end TaskPipeline
