import TaskPipeline.Proofs.Service.Turn

/-!
# Errors without effect

An error changes nothing, and no background job is started, since jobs come with the results of a
successful operation.  Every step up to the commit works on a copy, and taking the results out of
the committed tasks fails only if a task is to be returned twice.

That happens in one case: a task is stitched to itself, which is an error unless the task lists
itself on both sides already.  Then the links to the other sources are written, with every task that
is not the same as itself, and afterwards the target is missing among the results
(`changed_by_error_iff`).  A task of a well-formed graph never lists itself.
-/

namespace TaskPipeline

open Operation

variable {tasks tasks' : TaskMap} {source target : TaskId} {now : Instant}

/-! ### Links to oneself -/

/-- No link is added from a task to itself. -/
theorem TaskMap.hasEdge_self_of_link (hlink : Graph.link tasks source target now = .ok tasks')
    {id : TaskId} (h : Graph.hasEdge tasks' id id = true) : Graph.hasEdge tasks id id = true := by
  rcases Graph.link_eq_ok_iff.mp hlink with ⟨-, rfl⟩ | ⟨-, hcheck, rfl⟩
  · exact h
  · rcases (TaskMap.hasEdge_addEdge_iff hcheck id id).mp h with hold | ⟨hs, ht⟩
    · exact hold
    · exact absurd (hs.symm.trans ht) (Graph.checkEdge_eq_ok_iff.mp hcheck).1

/-- Linking a task to itself succeeds only if it is linked to itself already. -/
theorem TaskMap.hasEdge_self_of_linkedAll {pairs : List (TaskId × TaskId)} {id : TaskId}
    (hlink : tasks.linkedAll now pairs = .ok tasks') (hmem : (id, id) ∈ pairs) :
    Graph.hasEdge tasks id id = true :=
  TaskMap.linkedAll_induction
    (p := fun after => Graph.hasEdge after id id = true → Graph.hasEdge tasks id id = true)
    (fun _ _ _ _ h hlink hself => h (TaskMap.hasEdge_self_of_link hlink hself)) (fun h => h) hlink
    (TaskMap.hasEdge_of_linkedAll hlink _ hmem)

/-- Links that are there already change nothing. -/
theorem TaskMap.linkedAll_of_hasEdge {pairs : List (TaskId × TaskId)}
    (h : ∀ e ∈ pairs, Graph.hasEdge tasks e.1 e.2 = true) :
    tasks.linkedAll now pairs = .ok tasks := by
  induction pairs with
  | nil => rfl
  | cons e rest ih =>
    have hlinked : tasks.linked e.1 e.2 now = .ok tasks :=
      TaskMap.linked_eq_ok_iff.mpr (Graph.link_eq_ok_iff.mpr (.inl ⟨h e List.mem_cons_self, rfl⟩))
    unfold TaskMap.linkedAll
    rw [hlinked]
    exact ih fun e' he' => h e' (List.mem_cons_of_mem _ he')

/-! ### Turns -/

namespace Turn

variable {turn : Turn}

/-- The pairs that a stitch links. -/
def stitchPairs (sources : List TaskId) (target : TaskId) : List (TaskId × TaskId) :=
  sources.eraseDups.map fun s => (s, target)

theorem mem_stitchPairs {sources : List TaskId} {e : TaskId × TaskId} :
    e ∈ stitchPairs sources target ↔ e.1 ∈ sources ∧ e.2 = target := by
  unfold stitchPairs
  simp only [List.mem_map, List.mem_eraseDups]
  constructor
  · rintro ⟨s, hs, rfl⟩
    exact ⟨hs, rfl⟩
  · rintro ⟨hs, rfl⟩
    exact ⟨e.1, hs, rfl⟩

/-- **An error changes nothing unless a task is stitched to itself**, which lists itself already. -/
theorem unchanged_of_error (turn : Turn) (tasks : TaskMap) {e : EngineError}
    (he : turn.outcome tasks = .error e) : turn.after tasks = tasks ∨
      ∃ sources target, turn.op = .stitch sources target ∧ target ∈ sources ∧
        Graph.hasEdge tasks target target = true := by
  rcases turn.outcome_cases tasks with ⟨_, -, heq⟩ |
    ⟨n, before, edited, committed, hargs, hp, houtcome⟩
  · exact .inl heq
  · have hedits := edits_of_edit hp.edits
    rcases hedits.nodup_returned with hnd | ⟨sources, target, hop, hmem⟩
    · obtain ⟨ts, hts⟩ := hp.results_ok hargs hnd
      rw [houtcome, turn.answer_of_results hts] at he
      cases he
    · rw [hop] at hedits
      rw [← hp.whole (by rw [hop]; rfl)]
      exact .inr ⟨sources, target, hop, hmem, TaskMap.hasEdge_self_of_linkedAll hedits.of_stitch.2.1
        (mem_stitchPairs.mpr ⟨hmem, rfl⟩)⟩

theorem checkArguments_stitch {sources : List TaskId} (h : source ∈ sources) :
    (Operation.stitch sources target).checkArguments = .ok () := by
  unfold checkArguments
  cases sources with
  | nil => cases h
  | cons _ _ => rfl

theorem edit_stitch_eq_ok {policy : Policy} {ambient : Ambient} {sources : List TaskId}
    (htarget : tasks.has target = true)
    (hlink : tasks.linkedAll (ambient.now 0) (stitchPairs sources target) = .ok tasks') :
    (Operation.stitch sources target).edit policy ambient tasks =
      .ok (tasks', sources.eraseDups ++ [target]) := by
  obtain ⟨t, ht⟩ := TaskMap.has_iff.mp htarget
  show editStitch sources target (ambient.now 0) tasks = _
  unfold editStitch
  rw [TaskMap.demand_eq_ok_iff.mpr ht]
  show (tasks.linkedAll (ambient.now 0) (stitchPairs sources target) >>= _) = _
  rw [hlink]
  rfl

/-- **When an error changes the store**: a task that lists itself is stitched to itself and to other
tasks, all of which can be linked to it, and one of them is not linked yet, or the store has a task
that is not the same as itself. -/
def HalfStitches (turn : Turn) (tasks : TaskMap) : Prop :=
  ∃ sources target tasks', turn.op = .stitch sources target ∧ target ∈ sources ∧
    tasks.linkedAll ((turn.ambients 0).now 0) (stitchPairs sources target) = .ok tasks' ∧
    ((∃ s ∈ sources, Graph.hasEdge tasks s target = false) ∨ ∃ id, tasks.Restless id)

theorem error_of_halfStitches (hundisturbed : turn.Undisturbed) (h : turn.HalfStitches tasks) :
    (∃ e, turn.outcome tasks = .error e) ∧ turn.after tasks ≠ tasks := by
  obtain ⟨sources, target, tasks', hop, hmem, hlink, hwritten⟩ := h
  have hself := TaskMap.hasEdge_self_of_linkedAll hlink (mem_stitchPairs.mpr ⟨hmem, rfl⟩)
  have htarget := Graph.has_of_mem_outflowsOf (Graph.hasEdge_iff.mp hself).1
  have hargs : turn.op.checkArguments = .ok () := by
    rw [hop]
    exact checkArguments_stitch hmem
  have hedit : turn.op.edit turn.setup.policy (turn.ambients 0) tasks =
      .ok (tasks', sources.eraseDups ++ [target]) := by
    rw [hop]
    exact edit_stitch_eq_ok htarget hlink
  have hscope : turn.op.scope = .whole := by rw [hop]; rfl
  obtain ⟨committed, hp, houtcome⟩ := performed_of_creates_none hundisturbed
    (by rw [hop]; exact nofun) hargs hscope hedit (by rw [hop]; rfl)
  constructor
  · cases htake : results committed with
    | error e => exact ⟨e, by rw [houtcome, answer, htake]; rfl⟩
    | ok ts =>
      have hnd := (results_eq_ok_iff.mp htake).1
      rw [hp.returned] at hnd
      exact absurd (List.mem_singleton_self target)
        (List.disjoint_of_nodup_append hnd (List.mem_eraseDups.mpr hmem))
  · intro hsame
    rcases hwritten with ⟨s, hs, hmissing⟩ | ⟨id, t, ht, hno⟩
    · have hedge := Graph.hasEdge_iff.mp
        (TaskMap.hasEdge_of_linkedAll hlink (s, target) (mem_stitchPairs.mpr ⟨hs, rfl⟩))
      have hflows := hp.flows_of_whole hscope
      rw [← (hflows s).2, ← (hflows target).1, ← Graph.hasEdge_iff, hsame, hmissing] at hedge
      cases hedge
    · exact hp.ne_of_restless hargs hscope ht hno (hsame.symm ▸ ht)

theorem halfStitches_of_error (hundisturbed : turn.Undisturbed) {e : EngineError}
    (he : turn.outcome tasks = .error e) (hchanged : turn.after tasks ≠ tasks) :
    turn.HalfStitches tasks := by
  rcases turn.unchanged_of_error tasks he with hsame | ⟨sources, target, hop, hmem, hself⟩
  · exact absurd hsame hchanged
  · have htarget := Graph.has_of_mem_outflowsOf (Graph.hasEdge_iff.mp hself).1
    have hadd : ∀ name description owner, turn.op ≠ .add name description owner := by
      rw [hop]
      exact nofun
    have hargs : turn.op.checkArguments = .ok () := by
      rw [hop]
      exact checkArguments_stitch hmem
    have hscope : turn.op.scope = .whole := by rw [hop]; rfl
    cases hedit : turn.op.edit turn.setup.policy (turn.ambients 0) tasks with
    | error e =>
      exact absurd (outcome_of_edit_error hundisturbed hadd hargs hscope hedit).2 hchanged
    | ok edited =>
      obtain ⟨committed, hp, -⟩ :=
        performed_of_creates_none hundisturbed hadd hargs hscope hedit (by rw [hop]; rfl)
      have hedits := edits_of_edit hedit
      rw [hop] at hedits
      refine ⟨sources, target, edited.1, hop, hmem, hedits.of_stitch.2.1, ?_⟩
      by_contra hnone
      rw [not_or, ← TaskMap.selfSame_iff] at hnone
      -- all edges are there, so the edited tasks are the stored ones, and nothing was written
      have hedges : ∀ e ∈ stitchPairs sources target, Graph.hasEdge tasks e.1 e.2 = true := by
        intro e he
        obtain ⟨hs, ht⟩ := mem_stitchPairs.mp he
        by_contra hmissing
        exact hnone.1 ⟨e.1, hs, ht ▸ Bool.eq_false_iff.mpr hmissing⟩
      have hlinked : tasks.linkedAll ((turn.ambients 0).now 0) (stitchPairs sources target) =
          .ok edited.1 := hedits.of_stitch.2.1
      rw [TaskMap.linkedAll_of_hasEdge hedges] at hlinked
      injection hlinked with hlinked
      exact hchanged (hp.store_eq_of_unchanged hscope hlinked.symm (by rw [hop]; rfl) hnone.2)

end Turn

/-- **Errors change nothing, with one exception.**  Whatever the store holds, whatever the
arguments, and whichever calls to the store fail, an error leaves the tasks as they were unless a
task that lists itself was stitched to itself; and an undisturbed turn changes the tasks and ends
with an error exactly if it half stitches. -/
theorem changed_by_error_iff (tasks : TaskMap) (turn : Turn) :
    (∀ e, turn.outcome tasks = .error e → turn.after tasks = tasks ∨
      ∃ sources target, turn.op = .stitch sources target ∧ target ∈ sources ∧
        Graph.hasEdge tasks target target = true) ∧
    (turn.Undisturbed →
      ((∃ e, turn.outcome tasks = .error e) ∧ turn.after tasks ≠ tasks ↔
        turn.HalfStitches tasks)) :=
  ⟨fun _ he => turn.unchanged_of_error tasks he, fun hundisturbed =>
    ⟨fun ⟨⟨_, he⟩, hchanged⟩ => Turn.halfStitches_of_error hundisturbed he hchanged,
      Turn.error_of_halfStitches hundisturbed⟩⟩

namespace Sample

/-- The second task lists itself on both sides. -/
def looped : TaskMap :=
  .ofList [.create first "first" "" user (.midnight .epoch),
    { Task.create second "second" "" user (.midnight .epoch) with
      inflows := ⟨[second]⟩, outflows := ⟨[second]⟩ }]

/-- Both tasks are to be linked to the second one. -/
def stitching : Turn := .plain (ambient first) (.stitch [first, second] second)

theorem halfStitches : stitching.HalfStitches looped := by
  obtain ⟨tasks', hlink⟩ : ∃ tasks',
      looped.linkedAll (.midnight .epoch) (Turn.stitchPairs [first, second] second) = .ok tasks' :=
    isOk_iff.mp (by cbv)
  exact ⟨[first, second], second, tasks', rfl, List.mem_cons_of_mem _ List.mem_cons_self, hlink,
    .inl ⟨first, List.mem_cons_self, by decide⟩⟩

end Sample

/-- A task that lists itself is stitched to itself: the error comes after the write.  A task
without a name is an error before anything is read. -/
theorem changed_by_error_of_loop :
    ((∃ e, Sample.stitching.outcome Sample.looped = .error e) ∧
      Sample.stitching.after Sample.looped ≠ Sample.looped) ∧
    ((Turn.plain (Sample.ambient Sample.first) (.add "" "" Sample.user)).after Sample.tasks =
        Sample.tasks ∨
      ∃ sources target,
        Operation.add "" "" Sample.user = .stitch sources target ∧ target ∈ sources ∧
        Graph.hasEdge Sample.tasks target target = true) :=
  ⟨((changed_by_error_iff Sample.looped Sample.stitching).2 ⟨rfl, fun _ _ => rfl⟩).mpr
      Sample.halfStitches,
    (changed_by_error_iff Sample.tasks
      (Turn.plain (Sample.ambient Sample.first) (.add "" "" Sample.user))).1 _ rfl⟩

end TaskPipeline
