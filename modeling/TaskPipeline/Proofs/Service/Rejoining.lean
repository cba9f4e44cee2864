import TaskPipeline.Proofs.Engine.Rejoin
import TaskPipeline.Proofs.Service.Splitting

/-!
# Merging undoes a split

A task was split, and its parts are merged into the first of them, one after the other.  Each merge
takes the second task out of the chain that is left (`Parts.merged`), so none of them closes a cycle
and at the end the first part stands where the task stood (`rejoined_by_merging`).
-/

namespace TaskPipeline

open Operation Turn

variable {tasks store : TaskMap} {id : TaskId} {f : Nat → TaskId} {n : Nat} {turn : Turn}

/-! ### A merge that closes no cycle -/

section Merge

variable {source target : TaskId} {s t : Task}

/-- What a merge of two tasks at one place does if no longer path joins them. -/
theorem Turn.performed_of_merge (hop : turn.op = .merge source target)
    (hundisturbed : turn.Undisturbed) (hwf : Graph.WellFormed tasks) (hne : source ≠ target)
    (hs : tasks.get? source = some s) (ht : tasks.get? target = some t)
    (hplace : s.location = t.location)
    (hno : ¬ (Graph.Detour tasks source target ∨ Graph.Detour tasks target source)) :
    ∃ now collision committed,
      tasks.merged source target now collision =
        .ok (Graph.rename (tasks.absorbed source (t.absorb s now collision)) source target now) ∧
      Performed turn.setup.policy turn.op (turn.ambients 0) tasks tasks
        (Graph.rename (tasks.absorbed source (t.absorb s now collision)) source target now, [target])
        committed (turn.after tasks) ∧
      ∃ r, turn.outcome tasks = .ok r := by
  have hadd : ∀ name description owner, turn.op ≠ .add name description owner := by
    rw [hop]
    exact nofun
  have hargs : turn.op.checkArguments = .ok () := by
    rw [hop]
    exact if_neg hne
  have hscope : turn.op.scope = .whole := by rw [hop]; rfl
  obtain ⟨now, hnow⟩ : ∃ now, (turn.ambients 0).now 0 = now := ⟨_, rfl⟩
  obtain ⟨collision, hcollision⟩ :
      ∃ collision, turn.setup.policy.tagCollision = collision := ⟨_, rfl⟩
  have hmerged : tasks.merged source target now collision =
      .ok (Graph.rename (tasks.absorbed source (t.absorb s now collision)) source target now) :=
    (TaskMap.merged_of_detour hwf hne hs ht hplace).2 hno
  have hedit : turn.op.edit turn.setup.policy (turn.ambients 0) tasks =
      (tasks.merged source target now collision).map fun tasks => (tasks, [target]) := by
    rw [hop, ← hnow, ← hcollision]
    rfl
  rw [hmerged] at hedit
  obtain ⟨committed, hp, houtcome⟩ :=
    performed_of_creates_none hundisturbed hadd hargs hscope hedit (by rw [hop]; rfl)
  exact ⟨now, collision, committed, hmerged, hp, exists_outcome_of_merge hop hargs hp houtcome⟩

theorem TaskMap.location_merged (ht : tasks.get? target = some t) {x : TaskId} (hx : x ≠ source)
    (now : Instant) (collision : TagCollision) :
    ((Graph.rename (tasks.absorbed source (t.absorb s now collision)) source target now).get? x).map
      Task.location = (tasks.get? x).map Task.location := by
  have htid : (t.absorb s now collision).id = target := show t.id = target from id_of_get? ht
  rw [Graph.get?_rename, get?_absorbed, if_neg hx.symm, htid, Option.map_map]
  have hrenamed : Task.location ∘ Graph.renamed source target now = Task.location :=
    funext fun u => by
      unfold Function.comp Graph.renamed
      split <;> rfl
  rw [hrenamed]
  split
  · next heq =>
    rw [← heq, ht]
    rfl
  · rfl

end Merge

/-! ### The chain of the parts -/

/-- A chain of new tasks that stand at one place. -/
structure Parts (tasks store : TaskMap) (id : TaskId) (f : Nat → TaskId) (n : Nat) : Prop extends
    Graph.NewChain tasks store id f n where
  /-- They stand at one place. -/
  together : ∃ location, ∀ i < n, (store.get? (f i)).map Task.location = some location

/-- What an operation over the whole store leaves in the edited tasks it leaves in the store. -/
theorem Parts.of_performed {policy : Policy} {op : Operation} {ambient : Ambient}
    {before store' : TaskMap} {edited committed : Edited} (h : Parts tasks edited.1 id f n)
    (hp : Performed policy op ambient store before edited committed store')
    (hscope : op.scope = .whole) : Parts tasks store' id f n where
  toSplits := h.toSplits.of_flows (hp.has_of_whole hscope) (hp.flows_of_whole hscope)
  wellFormed := wellFormed_of_flows h.wellFormed (hp.flows_of_whole hscope)
  fresh := h.fresh
  distinct := h.distinct
  together := by
    obtain ⟨location, htogether⟩ := h.together
    exact ⟨location, fun i hi => (hp.location_of_whole hscope _).trans (htogether i hi)⟩

/-! ### A split that succeeds -/

namespace Operation

variable {policy : Policy} {ambient : Ambient} {names descriptions : List String} {edited : Edited}

theorem checkArguments_split
    (h : (Operation.split id names descriptions).checkArguments = .ok ()) :
    names ≠ [] ∧ names.length = descriptions.length ∧
      ∀ name ∈ names, Text.isBlankText name = false := by
  unfold checkArguments at h
  dsimp only at h
  split at h
  · cases h
  · next hnames =>
    split at h
    · cases h
    · next hlength =>
      split at h
      · cases h
      · next hblank =>
        exact ⟨fun hnil => hnames (hnil ▸ rfl), not_not.mp hlength, by simpa using hblank⟩

/-- A split that succeeds was possible, and its parts have fresh identifiers. -/
theorem Edits.splittable (h : Edits policy ambient tasks (.split id names descriptions) edited)
    (hargs : (Operation.split id names descriptions).checkArguments = .ok ()) :
    ∃ task, tasks.get? id = some task ∧ Splittable policy tasks task names descriptions ∧
      edited.2 = (List.range names.length).map ambient.fresh := by
  obtain ⟨hnames, hlength, hblank⟩ := checkArguments_split hargs
  cases h with
  | one _ hchange => cases hchange
  | @split task _ _ _ htask hcheck hsplit =>
    obtain ⟨hactive, hroom⟩ := TaskMap.checkSplit_eq_ok_iff.mp hcheck
    exact ⟨task, htask, ⟨hactive, hroom, hnames, hlength, hblank⟩,
      map_id_parts task ambient hlength⟩

/-- The parts stand where the task stood. -/
theorem Edits.location_part {task : Task} {x : TaskId}
    (h : Edits policy ambient tasks (.split id names descriptions) edited)
    (htask : tasks.get? id = some task) (hnew : tasks.get? x = none)
    (hx : edited.1.has x = true) : (edited.1.get? x).map Task.location = some task.location := by
  obtain ⟨task', htask', -, hsplit⟩ := h.of_split
  obtain rfl : task' = task := Option.some.inj (htask'.symm.trans htask)
  obtain ⟨t, ht⟩ := TaskMap.has_iff.mp hx
  rcases TaskMap.get?_splitInto hsplit ht with ⟨p, hp, hr⟩ | ⟨-, u, hu, -⟩
  · obtain ⟨_, -, rfl⟩ := List.mem_map.mp hp
    rw [ht, Option.map_some, hr.location_eq]
    rfl
  · rw [hnew] at hu
    cases hu

/-- **The edit of a split that is stored leaves the parts as a chain** in the place of the task. -/
theorem parts_of_edit
    (hedit : (Operation.split id names descriptions).edit policy ambient tasks = .ok edited)
    (hargs : (Operation.split id names descriptions).checkArguments = .ok ())
    (hwf : Graph.WellFormed tasks) (hnew : ∀ x ∈ edited.2, tasks.get? x = none) :
    tasks.has id = true ∧ edited.2 = (List.range names.length).map ambient.fresh ∧
      names ≠ [] ∧ Parts tasks edited.1 id ambient.fresh names.length := by
  have hedits := edits_of_edit hedit
  have hnodup : edited.2.Nodup := by
    rcases hedits.nodup_returned with hnodup | ⟨_, _, hstitch, -⟩
    · exact hnodup
    · cases hstitch
  obtain ⟨task, htask, hsplittable, hreturned⟩ := hedits.splittable hargs
  obtain rfl := TaskMap.id_of_get? htask
  have hwf' := hedits.wellFormed hargs hnew hwf
  -- the store has refused nothing, so the fresh identifiers are new, and they are all different
  rw [hreturned] at hnew hnodup
  have hfresh : ∀ i < names.length, tasks.get? (ambient.fresh i) = none := fun i hi =>
    hnew _ (List.mem_map_of_mem (List.mem_range.mpr hi))
  have habsent : ∀ i < names.length, tasks.has (ambient.fresh i) = false := fun i hi =>
    TaskMap.get?_eq_none_iff.mp (hfresh i hi)
  have hinj : ∀ i < names.length, ∀ j < names.length, ambient.fresh i = ambient.fresh j → i = j :=
    fun i hi j hj =>
      List.inj_on_of_nodup_map hnodup (List.mem_range.mpr hi) (List.mem_range.mpr hj)
  obtain ⟨tasks', hedit', hsplits⟩ := edit_split hsplittable hwf htask habsent hinj
  obtain rfl : (tasks', _) = edited := Except.ok.inj (hedit'.symm.trans hedit)
  refine ⟨TaskMap.has_iff.mpr ⟨task, htask⟩, rfl, hsplittable.names_ne_nil,
    ⟨hsplits, hwf', habsent, hinj⟩, task.location, fun i hi => ?_⟩
  exact hedits.location_part htask (hfresh i hi) ((hsplits.has_iff _).mpr (.inr ⟨i, hi, rfl⟩))

end Operation

theorem Turn.map_id_of_answer {committed : Edited} {ts : List Task} {jobs : List Job}
    (h : turn.answer committed = .ok (ts, jobs)) : ts.map Task.id = committed.2 := by
  unfold answer at h
  cases hresults : results committed with
  | error e =>
    rw [hresults] at h
    cases h
  | ok ts' =>
    rw [hresults] at h
    cases h
    exact TaskMap.map_id_of_map_get? (results_eq_ok_iff.mp hresults).2

/-- **A split that succeeds leaves its parts as a chain** in the place of the task. -/
theorem Turn.parts_of_split {names descriptions : List String} {parts : List Task} {jobs : List Job}
    (hop : turn.op = .split id names descriptions) (hwf : Graph.WellFormed tasks)
    (hok : turn.outcome tasks = .ok (parts, jobs)) :
    tasks.has id = true ∧ ∃ f n, parts.map Task.id = (List.range (n + 1)).map f ∧
      Parts tasks (turn.after tasks) id f (n + 1) := by
  obtain ⟨k, before, edited, committed, hargs, hp, hanswer⟩ := performed_of_ok hok
  have hscope : turn.op.scope = .whole := by rw [hop]; rfl
  obtain rfl := hp.whole hscope
  have hnew := hp.get?_created hargs
  have hedit := hp.edits
  rw [hop] at hargs hnew hedit
  obtain ⟨hid, hreturned, hnames, hparts⟩ := parts_of_edit hedit hargs hwf hnew
  obtain ⟨n, hn⟩ : ∃ n, names.length = n + 1 :=
    Nat.exists_eq_succ_of_ne_zero (List.length_eq_zero_iff.not.mpr hnames)
  rw [hn] at hreturned hparts
  refine ⟨hid, (turn.ambients k).fresh, n, ?_, hparts.of_performed hp hscope⟩
  rw [← hreturned, ← hp.returned]
  exact turn.map_id_of_answer hanswer

/-! ### Merges of the parts -/

/-- **Merging the second part into the first** succeeds and takes it out of the chain. -/
theorem Parts.merged (h : Parts tasks store id f (n + 2)) (hop : turn.op = .merge (f 1) (f 0))
    (hundisturbed : turn.Undisturbed) :
    (∃ r, turn.outcome store = .ok r) ∧
      Parts tasks (turn.after store) id (Graph.skip f) (n + 1) := by
  -- the two stand at one place, and no path but an edge joins them
  obtain ⟨location, htogether⟩ := h.together
  obtain ⟨s, hs, hsplace⟩ := Option.map_eq_some_iff.mp (htogether 1 (by omega))
  obtain ⟨t, ht, htplace⟩ := Option.map_eq_some_iff.mp (htogether 0 (by omega))
  have hne : f 1 ≠ f 0 := h.ne (by omega) (by omega) (by omega)
  obtain ⟨now, collision, committed, hmerged, hp, hr⟩ := turn.performed_of_merge hop hundisturbed
    h.wellFormed hne hs ht (hsplace.trans htplace.symm) h.not_detour
  have hwf := TaskMap.wellFormed_merged h.wellFormed hne hmerged
  -- what the edit leaves is the chain without the second, and the store holds what the edit leaves
  have hsplits : Graph.Splits tasks
      (Graph.rename (store.absorbed (f 1) (t.absorb s now collision)) (f 1) (f 0) now) id
      (Graph.skip f) (n + 1) := h.splits_merged hs ht fun x => by
    rw [TaskMap.has_contracted ht hne, Bool.and_eq_true, decide_eq_true_iff]
  have hleft : Parts tasks
      (Graph.rename (store.absorbed (f 1) (t.absorb s now collision)) (f 1) (f 0) now) id
      (Graph.skip f) (n + 1) := by
    refine ⟨⟨hsplits, hwf, fun i hi => ?_, h.distinct_skip⟩, location, fun i hi => ?_⟩
    all_goals obtain ⟨j, hj, hj₁, heq⟩ := Graph.exists_skip_eq (f := f) hi
    · rw [heq]
      exact h.fresh j hj
    · rw [heq, TaskMap.location_merged ht (h.ne hj (by omega) hj₁), htogether j hj]
  exact ⟨hr, hleft.of_performed hp (by rw [hop]; rfl)⟩

/-- **Merging all parts into the first**, one after the other, succeeds and leaves it alone. -/
theorem Parts.rejoined {rest : List TaskId} {merges : List Turn}
    (h : Parts tasks store id f (rest.length + 1))
    (hrest : rest = (List.range rest.length).map fun i => f (i + 1))
    (hmerges : List.Forall₂
      (fun part turn => turn.Undisturbed ∧ turn.op = .merge part (f 0)) rest merges) :
    (∀ done turn later, merges = done ++ turn :: later →
      ∃ r, turn.outcome (replay store done) = .ok r) ∧
    ∃ g, g 0 = f 0 ∧ Graph.Splits tasks (replay store merges) id g 1 := by
  -- on the parts that are left, with the chain that the first merge leaves behind
  induction rest generalizing store f merges with
  | nil =>
    cases hmerges
    exact ⟨fun done turn later heq => by simp at heq, f, rfl, h.toSplits⟩
  | cons part rest ih =>
    cases hmerges with
    | @cons _ turn _ merges hfirst hmerges =>
      rw [List.length_cons, List.range_succ_eq_map, List.map_cons, List.map_map] at hrest
      obtain ⟨rfl, hothers⟩ := List.cons.inj hrest
      obtain ⟨hr, hparts⟩ := h.merged hfirst.2 hfirst.1
      obtain ⟨hall, hone⟩ := ih hparts hothers hmerges
      refine ⟨fun done turn' later heq => ?_, hone⟩
      cases done with
      | nil =>
        obtain ⟨rfl, -⟩ := List.cons.inj heq
        exact hr
      | cons turn'' done =>
        obtain ⟨rfl, hlater⟩ := List.cons.inj heq
        exact hall done turn' later hlater

/-! ### What is left -/

/-- With one task in the place of another the graph is renamed. -/
theorem Graph.Splits.renamed {tasks' : TaskMap} (h : Graph.Splits tasks tasks' id f 1)
    (hwf : Graph.WellFormed tasks) (hid : tasks.has id = true) :
    (∀ x, tasks'.has x = true ↔ ∃ y, tasks.has y = true ∧ Graph.redirect id (f 0) y = x) ∧
      ∀ y, tasks.has y = true →
        Graph.inflowsOf tasks' (Graph.redirect id (f 0) y) =
          (Graph.inflowsOf tasks y).map (Graph.redirect id (f 0)) ∧
        Graph.outflowsOf tasks' (Graph.redirect id (f 0) y) =
          (Graph.outflowsOf tasks y).map (Graph.redirect id (f 0)) := by
  refine ⟨fun x => ?_, fun y hy => ⟨h.inflows_redirect hwf hy, ?_⟩⟩
  · rw [h.has_iff]
    constructor
    · rintro (⟨hx, hxid⟩ | ⟨i, hi, rfl⟩)
      · exact ⟨x, hx, if_neg hxid⟩
      · obtain rfl : i = 0 := by omega
        exact ⟨id, hid, if_pos rfl⟩
    · rintro ⟨y, hy, rfl⟩
      by_cases hyid : y = id
      · exact .inr ⟨0, Nat.one_pos, if_pos hyid⟩
      · rw [Graph.redirect, if_neg hyid]
        exact .inl ⟨hy, hyid⟩
  · by_cases hyid : y = id
    · have hout := h.outflows_first
      rw [if_neg (Nat.lt_irrefl 1), List.append_nil] at hout
      rw [hyid, Graph.redirect, if_pos rfl, hout]
      exact (Graph.map_redirect_of_not_mem (hwf.not_mem_outflows id)).symm
    · rw [Graph.redirect, if_neg hyid]
      exact h.outflows_other y hy hyid

/-- **Merging undoes a split.**  A task of a well-formed graph was split, and its parts are merged
into the first of them, one after the other, each in time and with a store that does not fail.  All
of these merges succeed.  Afterwards the graph is the one before the split, with the first part, which
is new, in the place of the task: the same tasks are there, and each has the same inflows and the same
outflows in the same order. -/
theorem rejoined_by_merging {names descriptions : List String} {parts : List Task}
    {jobs : List Job} (hwf : Graph.WellFormed tasks) (hop : turn.op = .split id names descriptions)
    (hok : turn.outcome tasks = .ok (parts, jobs)) :
    ∃ first rest, parts = first :: rest ∧ tasks.has first.id = false ∧ ∀ merges : List Turn,
      List.Forall₂ (fun part merge => merge.Undisturbed ∧ merge.op = .merge part.id first.id)
        rest merges →
      (∀ done merge later, merges = done ++ merge :: later →
        ∃ r, merge.outcome (replay (turn.after tasks) done) = .ok r) ∧
      (∀ x, (replay (turn.after tasks) merges).has x = true ↔
        ∃ y, tasks.has y = true ∧ Graph.redirect id first.id y = x) ∧
      ∀ y, tasks.has y = true →
        Graph.inflowsOf (replay (turn.after tasks) merges) (Graph.redirect id first.id y) =
          (Graph.inflowsOf tasks y).map (Graph.redirect id first.id) ∧
        Graph.outflowsOf (replay (turn.after tasks) merges) (Graph.redirect id first.id y) =
          (Graph.outflowsOf tasks y).map (Graph.redirect id first.id) := by
  obtain ⟨hid, f, n, hids, hparts⟩ := turn.parts_of_split hop hwf hok
  cases parts with
  | nil => simp at hids
  | cons first rest =>
    rw [List.range_succ_eq_map, List.map_cons, List.map_cons, List.map_map] at hids
    obtain ⟨hfirst, hrest⟩ := List.cons.inj hids
    have hlength : n = (rest.map Task.id).length := by
      rw [hrest, List.length_map, List.length_range]
    subst hlength
    refine ⟨first, rest, rfl, hfirst ▸ hparts.fresh 0 (Nat.succ_pos _), fun merges hmerges => ?_⟩
    rw [hfirst] at hmerges ⊢
    obtain ⟨hall, g, hg, hsplits⟩ :=
      hparts.rejoined hrest (List.forall₂_map_left_iff.mpr hmerges)
    rw [← hg]
    exact ⟨hall, hsplits.renamed hwf hid⟩

namespace Sample

/-- The second half is merged into the first. -/
def rejoining : Turn := .plain (ambient first) (.merge (half 1) (half 0))

theorem splitting_halves :
    (splitting.outcome triangle).map (fun r => r.1.map Task.id) = .ok [half 0, half 1] := by
  cbv

end Sample

/-- The task in the middle of the triangle is split in two, and the halves are merged again: the first
half is left between the two others. -/
theorem rejoined_triangle :
    (∃ r, Sample.rejoining.outcome (Sample.splitting.after Sample.triangle) = .ok r) ∧
      Graph.outflowsOf (Sample.rejoining.after (Sample.splitting.after Sample.triangle)) Sample.third =
        [Sample.half 0, Sample.second] ∧
      Graph.inflowsOf (Sample.rejoining.after (Sample.splitting.after Sample.triangle)) Sample.second =
        [Sample.third, Sample.half 0] := by
  obtain ⟨⟨parts, jobs⟩, hok, hids⟩ : ∃ r, Sample.splitting.outcome Sample.triangle = .ok r ∧
      r.1.map Task.id = [Sample.half 0, Sample.half 1] := by
    have hids := Sample.splitting_halves
    cases hok : Sample.splitting.outcome Sample.triangle with
    | error e =>
      rw [hok] at hids
      cases hids
    | ok r =>
      rw [hok] at hids
      exact ⟨r, rfl, Except.ok.inj hids⟩
  obtain ⟨first, rest, rfl, -, hall⟩ := rejoined_by_merging Sample.wellFormed_triangle rfl hok
  obtain ⟨hfirst, hrest⟩ := List.cons.inj hids
  obtain ⟨second, rfl, hsecond⟩ := List.map_eq_singleton_iff.mp hrest
  rw [hfirst] at hall
  obtain ⟨hr, -, hflows⟩ := hall [Sample.rejoining]
    (.cons ⟨⟨rfl, fun _ _ => rfl⟩, hsecond ▸ rfl⟩ .nil)
  have hout : Graph.outflowsOf Sample.triangle Sample.third = [Sample.first, Sample.second] := by cbv
  have hin : Graph.inflowsOf Sample.triangle Sample.second = [Sample.third, Sample.first] := by cbv
  refine ⟨hr [] Sample.rejoining [] rfl, ?_, ?_⟩
  · have hc := (hflows Sample.third (by decide)).2
    rw [hout] at hc
    exact hc
  · have hb := (hflows Sample.second (by decide)).1
    rw [hin] at hb
    exact hb

end TaskPipeline
