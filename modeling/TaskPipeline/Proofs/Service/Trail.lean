import TaskPipeline.Proofs.Service.Leftover
import TaskPipeline.Proofs.Service.OpenWork
import TaskPipeline.Proofs.Service.Starting

/-!
# The audit trail

An edit may rewrite tasks that its operation does not name: the neighbours of a task that is merged
or split, or the tasks that are linked.  What it makes of a task always `Task.Follows` the task:
identity stays, the stage changes along one of six moves if it changes at all, and history entries
are only added (`Operation.Origin.follows`).

The store gives a task that an operation has changed one version more, however often the edit has
changed it on the way, and leaves all others alone (`Operation.Performed.next`).  What counts as changed
is what `Task.same` tells apart, so a task that is not the same as itself gets one version more even if
nothing has touched it, and that is the only way in which versions do not count changes
(`Task.Next.counted_iff`).  Over a run an archived task stays archived, and the history of a task that
is still there is the old one with entries added (`trail_of_runs`).

A version is a 64-bit word, which must have room for one more (`TaskMap.HasRoom`).
-/

namespace TaskPipeline

/-- The stage changes that an operation makes. -/
inductive Stage.Moves : Stage → Stage → Prop where
  /-- A pending task is staged. -/
  | stagedPending : Moves .pending .staging
  /-- A task leaves the inbox. -/
  | stagedInbox : Moves .inbox .staging
  /-- Work begins on a pending task. -/
  | startedPending : Moves .pending .active
  /-- Work begins on a task in staging. -/
  | startedStaging : Moves .staging .active
  /-- Work stops before all is done. -/
  | stopped : Moves .active .staging
  /-- The work is done. -/
  | archived : Moves .active .archived

/-! ### What an edit makes of a task -/

namespace Task

variable {t t' u : Task}

/-- What an edit leaves of a task. -/
structure Follows (t t' : Task) : Prop where
  /-- It stays in its stage, or makes one move. -/
  stage : t'.stage = t.stage ∨ t.stage.Moves t'.stage
  /-- History entries are only added. -/
  history : t.history <+: t'.history
  id : t'.id = t.id
  owner : t'.owner = t.owner
  name : t'.name = t.name
  createdAt : t'.createdAt = t.createdAt

theorem Follows.refl (t : Task) : t.Follows t := ⟨.inl rfl, List.prefix_rfl, rfl, rfl, rfl, rfl⟩

/-- Rewiring does not matter, neither before nor after. -/
theorem Rewired.follows (hr : t.Rewired t') (h : t'.Follows u) : t.Follows u := by
  rw [hr] at h
  exact { h with }

theorem Follows.rewired (h : t.Follows t') (hr : t'.Rewired u) : t.Follows u := by
  rw [hr]
  exact { h with }

theorem follows_staged (hcan : t.canStage = .ok ()) (now : Instant) (location : List String)
    (points : List Point) (tags : Tags) : t.Follows (t.staged now location points tags) := by
  have hmove : t.stage.Moves .staging := by
    rcases canStage_eq_ok_iff.mp hcan with h | h
    · rw [h]
      exact .stagedPending
    · rw [h]
      exact .stagedInbox
  unfold staged
  cases tags.isEmpty <;> exact ⟨.inr hmove, List.prefix_append _ _, rfl, rfl, rfl, rfl⟩

theorem follows_started (hcan : t.canStart = .ok ()) (now : Instant) :
    t.Follows (t.started now) := by
  have hmove : t.stage.Moves .active := by
    rcases (canStart_eq_ok_iff.mp hcan).1 with h | h
    · rw [h]
      exact .startedPending
    · rw [h]
      exact .startedStaging
  exact ⟨.inr hmove, List.prefix_append _ _, rfl, rfl, rfl, rfl⟩

/-- Work that ends puts an active task to staging or to the archive. -/
theorem follows_settled (hactive : t.stage = .active) (now : Instant) (zeroIsComplete : Bool) :
    t.Follows (t.settled now zeroIsComplete) := by
  unfold settled
  split
  · exact ⟨.inr (hactive ▸ .archived), List.prefix_append _ _, rfl, rfl, rfl, rfl⟩
  · exact ⟨.inr (hactive ▸ .stopped), List.prefix_append _ _, rfl, rfl, rfl, rfl⟩

/-- The history of the task that is folded in, and a note, are added to that of the task that
remains. -/
theorem follows_absorb (t s : Task) (now : Instant) (collision : TagCollision) :
    t.Follows (t.absorb s now collision) := by
  refine ⟨.inl rfl, ?_, rfl, rfl, rfl, rfl⟩
  show t.history <+: (t.history ++ s.history) ++ [_]
  rw [List.append_assoc]
  exact List.prefix_append _ _

end Task

namespace Operation

variable {policy : Policy} {op : Operation} {ambient : Ambient} {tasks : TaskMap}
  {created : List TaskId} {t t' u : Task}

theorem Change.follows (h : Change policy ambient tasks op t t') : t.Follows t' := by
  cases h with
  | staged hcan => exact Task.follows_staged hcan _ _ _ _
  | started hcan _ => exact Task.follows_started hcan _
  | stopped hcan hclose =>
    obtain ⟨s, -, rfl⟩ := keeps_closeInterval hclose
    have hactive := (Task.canStop_eq_ok_iff.mp hcan).1
    -- the interval that was closed is no part of what `Follows` speaks of
    have hsettled := Task.follows_settled
      (t := { t with schedule := s, updatedAt := ambient.now 0 }) hactive (ambient.now 0)
      policy.zeroPointsComplete
    exact { hsettled with }
  | completed hcan hclose =>
    obtain ⟨s, -, rfl⟩ := keeps_closeInterval hclose
    have hactive := (Task.canComplete_eq_ok_iff.mp hcan).1
    exact ⟨.inr (hactive ▸ .archived), List.prefix_append _ _, rfl, rfl, rfl, rfl⟩
  | tagged => exact ⟨.inl rfl, List.prefix_rfl, rfl, rfl, rfl, rfl⟩
  | dueSet => exact ⟨.inl rfl, List.prefix_append _ _, rfl, rfl, rfl, rfl⟩
  | eventRecorded => exact ⟨.inl rfl, List.prefix_rfl, rfl, rfl, rfl, rfl⟩

/-- **What an edit makes of a task follows it.** -/
theorem Origin.follows (h : Origin policy ambient tasks created op u)
    (ht : tasks.get? u.id = some t) (hid : u.id ∉ created) : t.Follows u := by
  cases h with
  | kept ht' hr =>
    rw [hr.id_eq, ht'] at ht
    cases ht
    exact (Task.Follows.refl _).rewired hr
  | changed ht' hchange =>
    rw [hchange.keeps.1, ht'] at ht
    cases ht
    exact hchange.follows
  | @stagedBehind t₀ t₁ o _ points tags ht' hcan _ hr =>
    rw [(keeps_staged t₁ _ _ _ _).1, hr.id_eq, ht'] at ht
    cases ht
    have hcan₁ : t₁.canStage = .ok () := hr.canStage_eq.trans hcan
    exact hr.follows (Task.follows_staged hcan₁ _ _ _ _)
  | added hnew => exact absurd hnew hid
  | @absorbed source s t₀ _ _ ht' _ hr =>
    rw [show u.id = t₀.id from hr.id_eq, ht'] at ht
    cases ht
    exact (Task.follows_absorb _ _ _ _).rewired hr
  | part _ _ _ _ hnew => exact absurd hnew hid

end Operation

/-! ### What an operation makes of a task -/

/-- A task before and after an operation: it is as it was, or the version has grown by one and the rest
is not the same. -/
structure Task.Next (t t' : Task) : Prop extends t.Follows t' where
  version : t' = t ∨
    t'.version = t.version + 1 ∧ t.same { t' with version := t.version } = false

/-- Versions count changes: the version is one higher if anything else has changed, and the same
otherwise. -/
def Task.Counted (t t' : Task) : Prop :=
  t'.version = if { t' with version := t.version } = t then t.version else t.version + 1

/-- A task that is not the same as itself was written as it was. -/
structure Task.RewrittenTo (t t' : Task) : Prop where
  /-- The task is not the same as itself. -/
  restless : t.same t = false
  /-- Nothing but its version has changed. -/
  written : t' = { t with version := t.version + 1 }

namespace Task.Next

variable {t t' : Task}

theorem refl (t : Task) : t.Next t := ⟨.refl t, .inl rfl⟩

/-- **Versions count changes, unless a task that is not the same as itself was written as it was.** -/
theorem counted_iff (h : t.Next t') : t.Counted t' ↔ ¬ t.RewrittenTo t' := by
  unfold Counted
  rcases h.version with rfl | ⟨hversion, hdiffers⟩
  · rw [if_pos rfl]
    refine iff_of_true rfl fun hrewritten => ?_
    have hnext := congrArg Task.version hrewritten.written
    dsimp only at hnext
    omega
  · by_cases hsame : { t' with version := t.version } = t
    · -- only the version has changed
      rw [if_pos hsame]
      refine iff_of_false (by omega) (not_not_intro ⟨hsame ▸ hdiffers, ?_⟩)
      rw [← hsame, ← hversion]
    · rw [if_neg hsame]
      refine iff_of_true hversion fun hrewritten => hsame ?_
      rw [hrewritten.written]

theorem version_le (h : t.Next t') : t.version ≤ t'.version := by
  rcases h.version with rfl | ⟨hversion, -⟩ <;> omega

theorem version_le_succ (h : t.Next t') : t'.version ≤ t.version + 1 := by
  rcases h.version with rfl | ⟨hversion, -⟩ <;> omega

end Task.Next

namespace Operation

variable {policy : Policy} {op : Operation} {ambient : Ambient} {store before store' : TaskMap}
  {edited committed : Edited} {id : TaskId} {t t' : Task}

/-- A task that is there before and after an operation is as it was, or the edit has made of it one that
is not the same, and its version is one higher. -/
theorem Performed.eq_or_changed
    (h : Performed policy op ambient store before edited committed store')
    (hargs : op.checkArguments = .ok ()) (ht : store.get? id = some t)
    (ht' : store'.get? id = some t') :
    t' = t ∨ ∃ u, Origin policy ambient before (op.created edited) op u ∧
      before.get? u.id = some t ∧ u.id ∉ op.created edited ∧ t.same u = false ∧
      t' = { u with version := u.version + 1 } := by
  rw [h.get?_store] at ht'
  split at ht'
  · obtain ⟨u, hu, rfl⟩ := Option.map_eq_some_iff.mp ht'
    obtain rfl := TaskMap.id_of_get? hu
    have horigin := (edits_of_edit h.edits).origin hargs hu
    have hold : u.id ∉ op.created edited := fun hnew => by
      rw [h.get?_created hargs _ hnew] at ht
      cases ht
    obtain ⟨t₀, hread, -⟩ := horigin.version hold
    -- what was read of it is what is stored
    obtain rfl : t₀ = t := Option.some.inj ((h.upToDate _ t₀ hread).symm.trans ht)
    rcases ChangeSet.stored_cases before (op.created edited) u with
      ⟨-, ⟨s, hs, -, hst⟩, -⟩ | ⟨hwritten, hst⟩
    · rw [hread] at hs
      cases hs
      exact .inl hst
    · have hholds := hwritten.resolve_left hold
      have hchanged := (TaskMap.holds_eq hread).symm.trans hholds
      exact .inr ⟨u, horigin, hread, hold, hchanged,
        hst.trans (ChangeSet.versioned_of_changed hold hholds)⟩
  · rw [ht] at ht'
    exact .inl (Option.some.inj ht').symm

/-- **What a performed operation makes of a task.** -/
theorem Performed.next (h : Performed policy op ambient store before edited committed store')
    (hargs : op.checkArguments = .ok ()) (ht : store.get? id = some t)
    (ht' : store'.get? id = some t') : t.Next t' := by
  rcases h.eq_or_changed hargs ht ht' with rfl | ⟨u, horigin, hread, hold, hchanged, rfl⟩
  · exact .refl _
  · have hfollows := horigin.follows hread hold
    obtain ⟨t₀, hread', hversion⟩ := horigin.version hold
    rw [hread] at hread'
    cases hread'
    -- but for the version it is the edited task, and that is not the same
    have hdiffers : t.same { { u with version := u.version + 1 } with version := t.version } =
        false := by
      rw [← hversion]
      exact hchanged
    exact { hfollows with version := .inr ⟨congrArg (· + 1) hversion, hdiffers⟩ }

end Operation

theorem Turn.next {tasks : TaskMap} {id : TaskId} {t t' : Task} (turn : Turn)
    (ht : tasks.get? id = some t) (ht' : (turn.after tasks).get? id = some t') : t.Next t' := by
  rcases turn.outcome_cases tasks with ⟨e, -, heq⟩ | ⟨n, before, edited, committed, hargs, hp, -⟩
  · rw [heq, ht] at ht'
    cases ht'
    exact .refl t
  · exact hp.next hargs ht ht'

theorem System.Inv.next {sys sys' : System} {i : Nat} {s : Session} {id : TaskId} {t t' : Task}
    (h : sys.Inv) (hnew : sys.IsNew (some (.operation i s)))
    (hstep : sys.Step (some (.operation i s)) sys') (ht : sys.shared.tasks.get? id = some t)
    (ht' : sys'.shared.tasks.get? id = some t') : t.Next t' := by
  rcases h.performed hnew hstep with hsame | ⟨n, before, edited, committed, hargs, hp⟩
  · rw [hsame, ht] at ht'
    cases ht'
    exact .refl t
  · exact hp.next hargs ht ht'

/-! ### What a run makes of a task -/

open Relation

/-- A task in two states of a run. -/
structure Task.Descends (t t' : Task) : Prop where
  /-- It has made any number of moves. -/
  stage : ReflTransGen Stage.Moves t.stage t'.stage
  /-- The archive is not left. -/
  archived : t.stage = .archived → t'.stage = .archived
  /-- History entries are only added. -/
  history : t.history <+: t'.history
  id : t'.id = t.id
  owner : t'.owner = t.owner
  name : t'.name = t.name
  createdAt : t'.createdAt = t.createdAt
  version : t.version ≤ t'.version

theorem Task.Descends.refl (t : Task) : t.Descends t :=
  ⟨.refl, fun h => h, List.prefix_rfl, rfl, rfl, rfl, rfl, le_rfl⟩

theorem Task.Descends.next {t t' t'' : Task} (h : t.Descends t') (hn : t'.Next t'') :
    t.Descends t'' where
  stage := by
    rcases hn.stage with hstage | hmove
    · rw [hstage]
      exact h.stage
    · exact h.stage.tail hmove
  archived ht := by
    have ht' := h.archived ht
    rcases hn.stage with hstage | hmove
    · rw [hstage, ht']
    · -- no move begins in the archive
      rw [ht'] at hmove
      cases hmove
  history := h.history.trans hn.history
  id := hn.id.trans h.id
  owner := hn.owner.trans h.owner
  name := hn.name.trans h.name
  createdAt := hn.createdAt.trans h.createdAt
  version := h.version.trans hn.version_le

/-- **A task that is there all the time descends from what it was**, and no turn raises its version by
more than one. -/
theorem descends_replay {tasks : TaskMap} {turns : List Turn} {id : TaskId} {t : Task}
    (ht : tasks.get? id = some t)
    (hthere : ∀ done rest, turns = done ++ rest → (replay tasks done).has id = true) :
    ∀ done rest, turns = done ++ rest → ∃ t', (replay tasks done).get? id = some t' ∧
      t.Descends t' ∧ t'.version ≤ t.version + done.length := by
  refine replay_prefix_induction (p := fun done tasks => ∃ t', tasks.get? id = some t' ∧
    t.Descends t' ∧ t'.version ≤ t.version + done.length) ⟨t, ht, .refl t, le_rfl⟩ ?_
  rintro done turn rest hturns ⟨t', ht', hdescends, hversion⟩
  have hnext := hthere (done ++ [turn]) rest (by rw [hturns, List.append_assoc]; rfl)
  rw [replay_concat] at hnext
  obtain ⟨t'', ht''⟩ := TaskMap.has_iff.mp hnext
  have hstep := turn.next ht' ht''
  refine ⟨t'', ht'', hdescends.next hstep, ?_⟩
  rw [List.length_append, List.length_singleton]
  exact hstep.version_le_succ.trans (Nat.succ_le_succ hversion)

/-- **A task stays until it is merged into another or split.** -/
theorem has_replay {tasks : TaskMap} {turns : List Turn} {id : TaskId} (h : tasks.has id = true)
    (hnot : ∀ turn ∈ turns, ¬ turn.op.Removes id) :
    ∀ done rest, turns = done ++ rest → (replay tasks done).has id = true := by
  refine replay_prefix_induction (p := fun _ tasks => tasks.has id = true) h ?_
  intro done turn rest hturns hhas
  rcases turn.outcome_cases (replay tasks done) with
    ⟨e, -, heq⟩ | ⟨n, before, edited, committed, hargs, hp, -⟩
  · rw [heq]
    exact hhas
  · obtain ⟨t, ht⟩ := TaskMap.has_iff.mp hhas
    have hmem : turn ∈ turns := by
      rw [hturns]
      exact List.mem_append_right _ List.mem_cons_self
    rcases hp.fate hargs ht with hsame | ⟨-, ⟨u, v, -, -, -, hget⟩ | ⟨-, hgone⟩⟩
    · exact TaskMap.has_iff.mpr ⟨t, hsame⟩
    · exact TaskMap.has_iff.mpr ⟨_, hget⟩
    · exact absurd hgone (hnot turn hmem)

/-- **Stages and audit trails.**  A task that is there before and after a turn, whatever the turn
does and whether or not it succeeds, is as it was or its next version: it has made at most one move,
its history has at most grown, and its version counts the change, unless it is not the same as itself
and was written as it was; a turn over the whole store that succeeds writes every task of that kind.  So
it is with every commit of an operation among other writers, if no identifier of a deleted task is used
again.  Over a run, a task that is never missing has made moves only, has never left the archive, and no
entry of its history is lost.  Versions stay 64-bit words if they have room for the turns. -/
theorem trail_of_runs (tasks : TaskMap) (id : TaskId) (t : Task) (ht : tasks.get? id = some t) :
    (∀ (turn : Turn) (t' : Task), tasks.HasRoom 1 → (turn.after tasks).get? id = some t' →
      t.Next t' ∧ (t.Counted t' ↔ ¬ t.RewrittenTo t') ∧ t'.version < UInt64.size) ∧
    (∀ turn : Turn, (∃ r, turn.outcome tasks = .ok r) → turn.op.scope = .whole →
      t.same t = false → (turn.after tasks).get? id ≠ some t) ∧
    (∀ (start sys sys' : System) (log : List Write) (i : Nat) (s : Session) (t' : Task),
      start.shared.Versioned → (∀ i, start.sessions i = none) → System.Run start log sys →
      NoneReturns start.shared.retired (log ++ [.operation i s]) →
      sys.Step (some (.operation i s)) sys' → sys.shared.tasks = tasks → tasks.HasRoom 1 →
      sys'.shared.tasks.get? id = some t' →
      t.Next t' ∧ (t.Counted t' ↔ ¬ t.RewrittenTo t') ∧ t'.version < UInt64.size) ∧
    ∀ (turns : List Turn) (t' : Task), tasks.HasRoom turns.length →
      (∀ done rest, turns = done ++ rest → (replay tasks done).has id = true) →
      (replay tasks turns).get? id = some t' → t.Descends t' ∧ t'.version < UInt64.size := by
  refine ⟨?_, fun turn ⟨r, hr⟩ hscope => turn.ne_of_restless hr hscope ht, ?_, ?_⟩
  · intro turn t' hroom ht'
    have hnext := turn.next ht ht'
    exact ⟨hnext, hnext.counted_iff,
      hnext.version_le_succ.trans_lt (hroom t (TaskMap.mem_of_get? ht))⟩
  · intro start sys sys' log i s t' hv hidle hrun hlog hstep htasks hroom ht'
    have hnext := (hrun.inv hv hidle hlog.of_append).next (hrun.isNew hlog) hstep (htasks ▸ ht) ht'
    exact ⟨hnext, hnext.counted_iff,
      hnext.version_le_succ.trans_lt (hroom t (TaskMap.mem_of_get? ht))⟩
  · intro turns t' hroom hthere ht'
    obtain ⟨u, hu, hdescends, hversion⟩ :=
      descends_replay ht hthere turns [] (List.append_nil _).symm
    rw [ht'] at hu
    cases hu
    exact ⟨hdescends, hversion.trans_lt (hroom t (TaskMap.mem_of_get? ht))⟩

namespace Sample

/-- Work on the second task is begun and ended. -/
def shift : List Turn := [.plain (ambient first) (.start second), stopping]

theorem has_of_shift : ∀ done rest, shift = done ++ rest → (replay tasks done).has second = true := by
  refine has_replay (by decide) ?_
  intro turn hturn hremoves
  have hcases : turn = .plain (ambient first) (.start second) ∨ turn = stopping := by
    simpa [shift] using hturn
  rcases hcases with rfl | rfl <;> simp [Operation.Removes, stopping, Turn.plain] at hremoves

end Sample

/-- Two active tasks are merged: the one that remains keeps its history entry, and its version grows
by one.  A pending task is worked on and ends in the archive.  A start that is committed among
other writers makes one move.  The version of a task beside merged ones whose place is not a number
grows though nothing has changed. -/
theorem trail_of_shift :
    (∃ t t', Sample.working.get? Sample.second = some t ∧
      (Sample.merging.after Sample.working).get? Sample.second = some t' ∧ t.Next t' ∧
      t.history.length = 1 ∧ t'.history.length = 3 ∧ t'.version = t.version + 1) ∧
    (∃ t t', Sample.tasks.get? Sample.second = some t ∧ t.stage = .pending ∧
      (replay Sample.tasks Sample.shift).get? Sample.second = some t' ∧ t'.stage = .archived ∧
      t.Descends t') ∧
    (∃ s sys' t t', Sample.started.2.Step (some (.operation 0 s)) sys' ∧
      Sample.started.2.shared.tasks.get? Sample.second = some t ∧ t.stage = .staging ∧
      sys'.shared.tasks.get? Sample.second = some t' ∧ t'.stage = .active ∧ t.Next t') ∧
    ∃ t t', Sample.unmapped.get? Sample.third = some t ∧
      (Sample.merging.after Sample.unmapped).get? Sample.third = some t' ∧ ¬ t.Counted t' := by
  refine ⟨?_, ?_, ?_, ?_⟩
  · have hview : (Sample.working.get? Sample.second).map
        (fun t => (t.history.length, t.version)) = some (1, 0) := by cbv
    have hview' : ((Sample.merging.after Sample.working).get? Sample.second).map
        (fun t => (t.history.length, t.version)) = some (3, 1) := by cbv
    obtain ⟨t, ht, heq⟩ := Option.map_eq_some_iff.mp hview
    obtain ⟨t', ht', heq'⟩ := Option.map_eq_some_iff.mp hview'
    injection heq with hlength hversion
    injection heq' with hlength' hversion'
    obtain ⟨hturn, -, -, -⟩ := trail_of_runs Sample.working _ t ht
    have hnext := hturn Sample.merging t' (by decide) ht'
    refine ⟨t, t', ht, ht', hnext.1, hlength, hlength', ?_⟩
    rw [hversion, hversion']
  · have hview : ((replay Sample.tasks Sample.shift).get? Sample.second).map Task.stage =
        some .archived := by cbv
    obtain ⟨t', ht', hstage⟩ := Option.map_eq_some_iff.mp hview
    refine ⟨_, t', rfl, rfl, ht', hstage, ?_⟩
    obtain ⟨-, -, -, hturns⟩ := trail_of_runs Sample.tasks Sample.second _ rfl
    exact (hturns Sample.shift t' (by decide) Sample.has_of_shift ht').1
  · obtain ⟨s, sys', t, t', hadvance, ht, hstage, ht', hactive, hroom, hlog⟩ : ∃ s sys' t t',
        Sample.started.2.advance 0 = some (some (.operation 0 s), sys') ∧
          Sample.started.2.shared.tasks.get? Sample.second = some t ∧ t.stage = .staging ∧
          sys'.shared.tasks.get? Sample.second = some t' ∧ t'.stage = .active ∧
          Sample.started.2.shared.tasks.HasRoom 1 ∧
          NoneReturns [] (Sample.started.1 ++ [.operation 0 s]) :=
      ⟨_, _, _, _, rfl, rfl, rfl, rfl, rfl, by decide, by simp, by decide⟩
    have hstep := System.step_of_advance hadvance
    obtain ⟨-, -, hcommit, -⟩ := trail_of_runs _ _ t ht
    have hnext := hcommit _ _ sys' _ 0 s t' Sample.versioned_ready (fun _ => rfl)
      Sample.run_started hlog hstep rfl hroom ht'
    exact ⟨s, sys', t, t', hstep, ht, hstage, ht', hactive, hnext.1⟩
  · obtain ⟨t, ht⟩ : ∃ t, Sample.unmapped.get? Sample.third = some t := ⟨_, rfl⟩
    have ht' : (Sample.merging.after Sample.unmapped).get? Sample.third =
        some { t with version := t.version + 1 } := by
      obtain rfl := Option.some.inj ht
      cbv
    have hno : t.same t = false := by
      obtain rfl := Option.some.inj ht
      decide
    obtain ⟨hturn, -, -, -⟩ := trail_of_runs Sample.unmapped Sample.third t ht
    obtain ⟨-, hcounted, -⟩ := hturn Sample.merging _ (by decide) ht'
    exact ⟨t, _, ht, ht', fun h => hcounted.mp h ⟨hno, rfl⟩⟩

end TaskPipeline
