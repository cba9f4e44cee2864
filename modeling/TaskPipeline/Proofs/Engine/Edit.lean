import TaskPipeline.Engine.Operation
import TaskPipeline.Proofs.Engine.Structure
import TaskPipeline.Proofs.Task.Same
import TaskPipeline.Proofs.Task.Transition

/-!
# What an edit can do

`Operation.Change` lists what an operation does to a single task, and `Operation.Edits` what it
does to a set of tasks; a successful edit is one of these (`Operation.edits_of_edit`).  Everything
else about edits follows by cases: where the tasks come from (`Operation.Edits.origin`), that
tasks keep their versions (`Operation.Origin.version`), that the tasks to return are there
(`Operation.Edits.has_returned`), and that a well-formed graph stays well-formed
(`Operation.Edits.wellFormed`).
-/

namespace TaskPipeline

/-- A sequence of steps succeeds if each of them does. -/
theorem bind_eq_ok_iff {ε α β : Type} {x : Except ε α} {f : α → Except ε β} {b : β} :
    x >>= f = .ok b ↔ ∃ a, x = .ok a ∧ f a = .ok b := by
  cases x with
  | error e => simp [bind, Except.bind]
  | ok a => simp [bind, Except.bind]

theorem map_eq_ok_iff {ε α β : Type} {x : Except ε α} {f : α → β} {b : β} :
    x.map f = .ok b ↔ ∃ a, x = .ok a ∧ f a = b := by
  cases x <;> simp [Except.map]

theorem isOk_iff {ε α : Type} {x : Except ε α} : x.isOk = true ↔ ∃ a, x = .ok a := by
  cases x <;> simp [Except.isOk, Except.toBool]

theorem refusing_eq_ok_iff {α : Type} {x : Except TransitionError α} {a : α} :
    refusing x = .ok a ↔ x = .ok a := by
  unfold refusing
  cases x <;> simp [Except.mapError]

/-- Rewiring does not matter for whether a task can be moved to staging. -/
theorem Task.Rewired.canStage_eq {t t' : Task} (h : t.Rewired t') : t'.canStage = t.canStage := by
  rw [h]
  rfl

namespace Operation

variable {policy : Policy} {ambient : Ambient} {tasks : TaskMap} {op : Operation} {edited : Edited}
  {t t' : Task} {id : TaskId}

/-! ### One task -/

/-- What an operation on a single task makes of it. -/
inductive Change (policy : Policy) (ambient : Ambient) (tasks : TaskMap) :
    Operation → Task → Task → Prop where
  /-- The task is moved to staging at a location. -/
  | staged {t : Task} {location : List String} {points : List Point} {tags : Tags}
      (h : t.canStage = .ok ()) :
      Change policy ambient tasks (.stage t.id (.location location) points tags) t
        (t.staged (ambient.now 0) location points tags)
  /-- Work is begun. -/
  | started {t : Task} (h : t.canStart = .ok ())
      (hinflows : t.checkInflows tasks t.inflows.ids = .ok ()) :
      Change policy ambient tasks (.start t.id) t (t.started (ambient.now 0))
  /-- Work is stopped. -/
  | stopped {t t' : Task} {points : List Point} (h : t.canStop = .ok ())
      (hclose : t.closeInterval? (ambient.now 0) points = some t') :
      Change policy ambient tasks (.stop t.id points) t
        (t'.settled (ambient.now 0) policy.zeroPointsComplete)
  /-- The task is marked complete. -/
  | completed {t t' : Task} (h : t.canComplete = .ok ())
      (hclose : t.closeInterval? (ambient.now 0) t.outstanding = some t') :
      Change policy ambient tasks (.complete t.id) t
        (Task.note { t' with stage := .archived, status := .completed } (ambient.now 0)
          "Marked complete")
  /-- The task gets tags. -/
  | tagged {t : Task} {tags : Tags} :
      Change policy ambient tasks (.tag t.id tags) t (t.mergeTags (ambient.now 0) tags true)
  /-- The due time is set or cleared. -/
  | dueSet {t : Task} {due : Option Instant} :
      Change policy ambient tasks (.setDue t.id due) t (t.withDue (ambient.now 0) due)
  /-- The task gets a calendar event. -/
  | eventRecorded {t : Task} {event : String} :
      Change policy ambient tasks (.recordEvent t.id event) t (t.withEvent event)

/-- A task keeps its identifier, its version and its neighbours when it is moved to staging. -/
theorem keeps_staged (t : Task) (now : Instant) (location : List String) (points : List Point)
    (tags : Tags) : (t.staged now location points tags).id = t.id ∧
      (t.staged now location points tags).version = t.version ∧
      (t.staged now location points tags).inflows = t.inflows ∧
      (t.staged now location points tags).outflows = t.outflows := by
  unfold Task.staged
  cases tags.isEmpty <;> exact ⟨rfl, rfl, rfl, rfl⟩

theorem keeps_closeInterval {now : Instant} {points : List Point}
    (h : t.closeInterval? now points = some t') :
    ∃ s, t.schedule.closeInterval? now points = some s ∧
      t' = { t with schedule := s, updatedAt := now } := by
  unfold Task.closeInterval? at h
  obtain ⟨s, hs, rfl⟩ := Option.map_eq_some_iff.mp h
  exact ⟨s, hs, rfl⟩

theorem keeps_settled (t : Task) (now : Instant) (zeroIsComplete : Bool) :
    (t.settled now zeroIsComplete).id = t.id ∧ (t.settled now zeroIsComplete).version = t.version ∧
      (t.settled now zeroIsComplete).inflows = t.inflows ∧
      (t.settled now zeroIsComplete).outflows = t.outflows := by
  unfold Task.settled
  cases t.isComplete zeroIsComplete <;> exact ⟨rfl, rfl, rfl, rfl⟩

/-- **A task keeps its identifier, its version and its neighbours** in every change. -/
theorem Change.keeps (h : Change policy ambient tasks op t t') : t'.id = t.id ∧
    t'.version = t.version ∧ t'.inflows = t.inflows ∧ t'.outflows = t.outflows := by
  cases h with
  | staged _ => exact keeps_staged t _ _ _ _
  | started _ _ => exact ⟨rfl, rfl, rfl, rfl⟩
  | stopped _ hclose =>
    obtain ⟨s, -, rfl⟩ := keeps_closeInterval hclose
    exact keeps_settled { t with schedule := s, updatedAt := ambient.now 0 } _ _
  | completed _ hclose =>
    obtain ⟨s, -, rfl⟩ := keeps_closeInterval hclose
    exact ⟨rfl, rfl, rfl, rfl⟩
  | tagged => exact ⟨rfl, rfl, rfl, rfl⟩
  | dueSet => exact ⟨rfl, rfl, rfl, rfl⟩
  | eventRecorded => exact ⟨rfl, rfl, rfl, rfl⟩

/-! ### All tasks -/

/-- What an operation makes of a set of tasks, and the tasks that it returns. -/
inductive Edits (policy : Policy) (ambient : Ambient) (tasks : TaskMap) : Operation → Edited → Prop
  where
  /-- One task is changed. -/
  | one {op : Operation} {t t' : Task} {returned : List TaskId} (ht : tasks.get? t.id = some t)
      (hchange : Change policy ambient tasks op t t')
      (hreturned : returned = [t.id] ∨ returned = []) :
      Edits policy ambient tasks op (tasks.insert t', returned)
  /-- A task is created. -/
  | added {name description : String} {owner : UserId}
      (hroom : tasks.inboxCount < policy.maxInbox) :
      Edits policy ambient tasks (.add name description owner)
        (tasks.insert
          (Task.added (ambient.fresh 0) (Text.trim name) description owner (ambient.now 0)),
          [ambient.fresh 0])
  /-- A task is linked to another and moved to staging at its location. -/
  | stagedBehind {t t₁ o : Task} {tasks₁ : TaskMap} {other : TaskId} {points : List Point}
      {tags : Tags}
      (ht : tasks.get? t.id = some t) (h : t.canStage = .ok ()) (ho : tasks.get? other = some o)
      (hlink : Graph.link tasks other t.id (ambient.now 0) = .ok tasks₁)
      (ht₁ : tasks₁.get? t.id = some t₁) :
      Edits policy ambient tasks (.stage t.id (.behind other) points tags)
        (tasks₁.insert (t₁.staged (ambient.now 0) o.location points tags), [t.id])
  /-- A task is linked to several others. -/
  | advertised {source : TaskId} {targets : List TaskId} {tasks' : TaskMap}
      (hsource : tasks.has source = true)
      (hlink : tasks.linkedAll (ambient.now 0) (targets.eraseDups.map fun t => (source, t)) =
        .ok tasks') :
      Edits policy ambient tasks (.advertise source targets) (tasks', [source])
  /-- Several tasks are linked to one. -/
  | stitched {sources : List TaskId} {target : TaskId} {tasks' : TaskMap}
      (htarget : tasks.has target = true)
      (hlink : tasks.linkedAll (ambient.now 0) (sources.eraseDups.map fun s => (s, target)) =
        .ok tasks') :
      Edits policy ambient tasks (.stitch sources target) (tasks', sources.eraseDups ++ [target])
  /-- A task is folded into another. -/
  | merged {source target : TaskId} {tasks' : TaskMap}
      (hmerge : tasks.merged source target (ambient.now 0) policy.tagCollision = .ok tasks') :
      Edits policy ambient tasks (.merge source target) (tasks', [target])
  /-- A task is replaced with a chain of parts. -/
  | split {task : Task} {names descriptions : List String} {tasks' : TaskMap}
      (htask : tasks.get? task.id = some task)
      (hcheck : tasks.checkSplit task names.length policy.maxInbox = .ok ())
      (hsplit : tasks.splitInto task (parts task ambient names descriptions)
        (ambient.now names.length) = .ok tasks') :
      Edits policy ambient tasks (.split task.id names descriptions)
        (tasks', (parts task ambient names descriptions).map Task.id)

theorem editTask_eq_ok_iff {f : Task → Except EngineError Task} :
    editTask tasks id f = .ok edited ↔ ∃ t t', tasks.get? id = some t ∧ f t = .ok t' ∧
      edited = (tasks.insert t', [id]) := by
  unfold editTask
  simp only [bind_eq_ok_iff, TaskMap.demand_eq_ok_iff]
  constructor
  · rintro ⟨t, ht, t', ht', hedited⟩
    cases hedited
    exact ⟨t, t', ht, ht', rfl⟩
  · rintro ⟨t, t', ht, ht', rfl⟩
    exact ⟨t, ht, t', ht', rfl⟩

/-- **What an edit can do.** -/
theorem edits_of_edit (h : op.edit policy ambient tasks = .ok edited) :
    Edits policy ambient tasks op edited := by
  cases op with
  | add name description owner =>
    simp only [edit, editAdd] at h
    split at h
    · cases h
    · next hroom =>
      cases h
      exact .added (Nat.lt_of_not_le hroom)
  | stage id destination points tags =>
    cases destination with
    | location location =>
      simp only [edit, editStageAt, editTask_eq_ok_iff, bind_eq_ok_iff, refusing_eq_ok_iff] at h
      obtain ⟨t, t', ht, ⟨_, hcan, ht'⟩, rfl⟩ := h
      obtain rfl := TaskMap.id_of_get? ht
      cases ht'
      exact .one ht (.staged hcan) (.inl rfl)
    | behind other =>
      simp only [edit, editStageBehind, editTask_eq_ok_iff, bind_eq_ok_iff, refusing_eq_ok_iff,
        TaskMap.demand_eq_ok_iff, TaskMap.linked_eq_ok_iff] at h
      obtain ⟨t, ht, _, hcan, o, ho, tasks₁, hlink, t₁, t', ht₁, ht', rfl⟩ := h
      obtain rfl := TaskMap.id_of_get? ht
      cases ht'
      exact .stagedBehind ht hcan ho hlink ht₁
  | start id =>
    simp only [edit, editStart, editTask_eq_ok_iff, bind_eq_ok_iff, refusing_eq_ok_iff] at h
    obtain ⟨t, t', ht, ⟨_, hcan, _, hinflows, ht'⟩, rfl⟩ := h
    obtain rfl := TaskMap.id_of_get? ht
    cases ht'
    exact .one ht (.started hcan hinflows) (.inl rfl)
  | stop id points =>
    simp only [edit, editStop, editTask_eq_ok_iff, bind_eq_ok_iff, refusing_eq_ok_iff,
      Task.stopped?] at h
    obtain ⟨t, t', ht, ⟨_, hcan, ht'⟩, rfl⟩ := h
    obtain rfl := TaskMap.id_of_get? ht
    split at ht'
    · cases ht'
    · next hclose =>
      cases ht'
      exact .one ht (.stopped hcan hclose) (.inl rfl)
  | complete id =>
    simp only [edit, editComplete, editTask_eq_ok_iff, bind_eq_ok_iff, refusing_eq_ok_iff,
      Task.completed?] at h
    obtain ⟨t, t', ht, ⟨_, hcan, ht'⟩, rfl⟩ := h
    obtain rfl := TaskMap.id_of_get? ht
    split at ht'
    · cases ht'
    · next hclose =>
      cases ht'
      exact .one ht (.completed hcan hclose) (.inl rfl)
  | tag id tags =>
    simp only [edit, editTask_eq_ok_iff] at h
    obtain ⟨t, t', ht, ht', rfl⟩ := h
    obtain rfl := TaskMap.id_of_get? ht
    cases ht'
    exact .one ht .tagged (.inl rfl)
  | setDue id due =>
    simp only [edit, editTask_eq_ok_iff] at h
    obtain ⟨t, t', ht, ht', rfl⟩ := h
    obtain rfl := TaskMap.id_of_get? ht
    cases ht'
    exact .one ht .dueSet (.inl rfl)
  | advertise source targets =>
    simp only [edit, editAdvertise, bind_eq_ok_iff, TaskMap.demand_eq_ok_iff] at h
    obtain ⟨t, ht, tasks', hlink, hedited⟩ := h
    cases hedited
    exact .advertised (TaskMap.has_iff.mpr ⟨t, ht⟩) hlink
  | stitch sources target =>
    simp only [edit, editStitch, bind_eq_ok_iff, TaskMap.demand_eq_ok_iff] at h
    obtain ⟨t, ht, tasks', hlink, hedited⟩ := h
    cases hedited
    exact .stitched (TaskMap.has_iff.mpr ⟨t, ht⟩) hlink
  | merge source target =>
    simp only [edit, map_eq_ok_iff] at h
    obtain ⟨tasks', hmerge, rfl⟩ := h
    exact .merged hmerge
  | split id names descriptions =>
    simp only [edit, editSplit, bind_eq_ok_iff, TaskMap.demand_eq_ok_iff] at h
    obtain ⟨task, htask, _, hcheck, tasks', hsplit, hedited⟩ := h
    obtain rfl := TaskMap.id_of_get? htask
    cases hedited
    exact .split htask hcheck hsplit
  | recordEvent id event =>
    simp only [edit, map_eq_ok_iff, editTask_eq_ok_iff] at h
    obtain ⟨_, ⟨t, t', ht, ht', rfl⟩, rfl⟩ := h
    obtain rfl := TaskMap.id_of_get? ht
    cases ht'
    exact .one ht .eventRecorded (.inr rfl)

/-- A merge that succeeds has merged. -/
theorem Edits.of_merge {source target : TaskId}
    (h : Edits policy ambient tasks (.merge source target) edited) :
    tasks.merged source target (ambient.now 0) policy.tagCollision = .ok edited.1 ∧
      edited.2 = [target] := by
  cases h with
  | one _ hchange => cases hchange
  | merged hmerge => exact ⟨hmerge, rfl⟩

/-- A split that succeeds was permitted, and has split. -/
theorem Edits.of_split {names descriptions : List String}
    (h : Edits policy ambient tasks (.split id names descriptions) edited) :
    ∃ task, tasks.get? id = some task ∧
      tasks.checkSplit task names.length policy.maxInbox = .ok () ∧
      tasks.splitInto task (parts task ambient names descriptions) (ambient.now names.length) =
        .ok edited.1 := by
  cases h with
  | one _ hchange => cases hchange
  | split htask hcheck hsplit => exact ⟨_, htask, hcheck, hsplit⟩

/-- A stitch that succeeds has linked. -/
theorem Edits.of_stitch {sources : List TaskId} {target : TaskId}
    (h : Edits policy ambient tasks (.stitch sources target) edited) :
    tasks.has target = true ∧
      tasks.linkedAll (ambient.now 0) (sources.eraseDups.map fun s => (s, target)) = .ok edited.1 ∧
      edited.2 = sources.eraseDups ++ [target] := by
  cases h with
  | one _ hchange => cases hchange
  | stitched htarget hlink => exact ⟨htarget, hlink, rfl⟩

/-! ### Where tasks come from -/

/-- Where a task comes from that is there after an edit with these created tasks. -/
inductive Origin (policy : Policy) (ambient : Ambient) (tasks : TaskMap) (created : List TaskId) :
    Operation → Task → Prop where
  /-- It was there and is at most rewired. -/
  | kept {op : Operation} {t t' : Task} (ht : tasks.get? t.id = some t) (hr : t.Rewired t') :
      Origin policy ambient tasks created op t'
  /-- It is the task that the operation changes. -/
  | changed {op : Operation} {t t' : Task} (ht : tasks.get? t.id = some t)
      (h : Change policy ambient tasks op t t') : Origin policy ambient tasks created op t'
  /-- It was linked to another task and moved to staging at its location. -/
  | stagedBehind {t t₁ o : Task} {other : TaskId} {points : List Point} {tags : Tags}
      (ht : tasks.get? t.id = some t) (h : t.canStage = .ok ()) (ho : tasks.get? other = some o)
      (hr : t.Rewired t₁) :
      Origin policy ambient tasks created (.stage t.id (.behind other) points tags)
        (t₁.staged (ambient.now 0) o.location points tags)
  /-- It is new. -/
  | added {name description : String} {owner : UserId} (hnew : ambient.fresh 0 ∈ created) :
      Origin policy ambient tasks created (.add name description owner)
        (Task.added (ambient.fresh 0) (Text.trim name) description owner (ambient.now 0))
  /-- It has absorbed another task. -/
  | absorbed {source : TaskId} {s t t' : Task} (hs : tasks.get? source = some s)
      (ht : tasks.get? t.id = some t) (hne : source ≠ t.id)
      (hr : (t.absorb s (ambient.now 0) policy.tagCollision).Rewired t') :
      Origin policy ambient tasks created (.merge source t.id) t'
  /-- It is a part of a task. -/
  | part {task p t' : Task} {names descriptions : List String}
      (htask : tasks.get? task.id = some task)
      (hcheck : tasks.checkSplit task names.length policy.maxInbox = .ok ())
      (hp : p ∈ parts task ambient names descriptions) (hr : p.Rewired t')
      (hnew : t'.id ∈ created) :
      Origin policy ambient tasks created (.split task.id names descriptions) t'

variable {created : List TaskId}

theorem Origin.of_get? (h : tasks.get? id = some t) : Origin policy ambient tasks created op t :=
  .kept (TaskMap.get?_id_of_mem (TaskMap.mem_of_get? h)) (.refl t)

theorem Origin.of_rewires {tasks' : TaskMap} (h : tasks.Rewires tasks')
    (ht' : tasks'.get? id = some t') : Origin policy ambient tasks created op t' := by
  obtain ⟨t, ht, hr⟩ := h.get?_of_some' ht'
  exact .kept (TaskMap.get?_id_of_mem (TaskMap.mem_of_get? ht)) hr

theorem checkArguments_merge {source target : TaskId}
    (h : (Operation.merge source target).checkArguments = .ok ()) : source ≠ target := by
  intro heq
  simp only [checkArguments, heq, if_true] at h
  cases h

/-- **Every task after an edit has an origin.** -/
theorem Edits.origin (h : Edits policy ambient tasks op edited) (hargs : op.checkArguments = .ok ())
    (ht' : edited.1.get? id = some t') :
    Origin policy ambient tasks (op.created edited) op t' := by
  cases h with
  | one ht hchange _ =>
    rw [TaskMap.get?_insert] at ht'
    split at ht'
    · cases ht'
      exact .changed ht hchange
    · exact .of_get? ht'
  | added _ =>
    rw [TaskMap.get?_insert] at ht'
    split at ht'
    · cases ht'
      exact .added List.mem_cons_self
    · exact .of_get? ht'
  | stagedBehind ht h ho hlink ht₁ =>
    have hrewires := Graph.rewires_link hlink
    rw [TaskMap.get?_insert] at ht'
    split at ht'
    · cases ht'
      obtain ⟨t₀, ht₀, hr⟩ := hrewires.get?_of_some' ht₁
      rw [ht] at ht₀
      cases ht₀
      exact .stagedBehind ht h ho hr
    · exact .of_rewires hrewires ht'
  | advertised _ hlink => exact .of_rewires (TaskMap.rewires_linkedAll hlink) ht'
  | stitched _ hlink => exact .of_rewires (TaskMap.rewires_linkedAll hlink) ht'
  | @merged source target _ hmerge =>
    -- the source is gone, the target has absorbed it, and the others are rewired
    have hne := checkArguments_merge hargs
    obtain ⟨s, t, u, hs, ht, hu, hr, hgone, hothers⟩ := TaskMap.get?_merged hne hmerge
    by_cases hids : id = source
    · rw [hids, hgone] at ht'
      cases ht'
    · by_cases hidt : id = target
      · rw [hidt, hu] at ht'
        cases ht'
        obtain rfl := TaskMap.id_of_get? ht
        exact .absorbed hs ht hne hr
      · obtain ⟨t, ht, hr⟩ := Task.Rewired.of_rel_some' (hothers id hids hidt) ht'
        exact .kept (TaskMap.get?_id_of_mem (TaskMap.mem_of_get? ht)) hr
  | split htask hcheck hsplit =>
    rcases TaskMap.get?_splitInto hsplit ht' with ⟨p, hp, hr⟩ | ⟨-, t, ht, hr⟩
    · exact .part htask hcheck hp hr (hr.id_eq ▸ List.mem_map_of_mem hp)
    · exact .kept (TaskMap.get?_id_of_mem (TaskMap.mem_of_get? ht)) hr

/-- **A task that is not created keeps its version.** -/
theorem Origin.version (h : Origin policy ambient tasks created op t') (hid : t'.id ∉ created) :
    ∃ t, tasks.get? t'.id = some t ∧ t'.version = t.version := by
  cases h with
  | kept ht hr => exact ⟨_, hr.id_eq ▸ ht, hr.version_eq⟩
  | changed ht hchange => exact ⟨_, hchange.keeps.1 ▸ ht, hchange.keeps.2.1⟩
  | @stagedBehind t t₁ o _ points tags ht _ _ hr =>
    have hkeeps := keeps_staged t₁ (ambient.now 0) o.location points tags
    exact ⟨t, by rw [hkeeps.1, hr.id_eq, ht], hkeeps.2.1.trans hr.version_eq⟩
  | added hnew => exact absurd hnew hid
  | @absorbed _ s t _ _ ht _ hr =>
    have hid' : t'.id = t.id := hr.id_eq
    exact ⟨t, by rw [hid', ht], hr.version_eq⟩
  | part _ _ _ _ hnew => exact absurd hnew hid

/-! ### What shows of an edit -/

/-- Whether the operation gives a task tags and does nothing else to it. -/
def retags : Operation → Bool
  | tag _ _ => true
  | _ => false

theorem retags_of_whole (h : op.scope = .whole) : op.retags = false := by
  cases op with
  | tag id tags => cases h
  | _ => rfl

/-- A change of a task shows, unless it changes nothing but tags.  What shows of most of them is the
stage that the task is put in. -/
theorem Change.eq_of_same (h : Change policy ambient tasks op t t') (hop : op.retags = false)
    (hsame : t.same t' = true) : t = t' := by
  have hstage := Task.stage_of_same hsame
  cases h with
  | @staged t location points tags hcan =>
    have hcases := Task.canStage_eq_ok_iff.mp hcan
    rw [hstage, Task.stage_staged] at hcases
    simp at hcases
  | started hcan _ =>
    have hcases := (Task.canStart_eq_ok_iff.mp hcan).1
    rw [hstage] at hcases
    simp [Task.started, Task.note, Task.openInterval] at hcases
  | @stopped t t₁ points hcan _ =>
    have hactive := (Task.canStop_eq_ok_iff.mp hcan).1
    rw [hstage] at hactive
    rcases Task.stage_settled t₁ (ambient.now 0) policy.zeroPointsComplete with hs | hs <;>
      cases hs.symm.trans hactive
  | completed hcan _ =>
    have hactive := (Task.canComplete_eq_ok_iff.mp hcan).1
    cases hstage.symm.trans hactive
  | tagged => cases hop
  | dueSet => exact Task.eq_of_same hsame rfl
  | eventRecorded => exact Task.eq_of_same hsame rfl

/-- **What an edit does to a task shows**, unless it changes nothing but tags: a task that was not
created and is the same as it was read is the one that was read. -/
theorem Origin.eq_of_same {s : Task} (h : Origin policy ambient tasks created op t')
    (hop : op.retags = false) (hid : t'.id ∉ created) (hs : tasks.get? t'.id = some s)
    (hsame : s.same t' = true) : s = t' := by
  have hread : ∀ {t : Task}, tasks.get? t.id = some t → t'.id = t.id → s = t :=
    fun {t} ht hid => Option.some.inj (hs.symm.trans (hid ▸ ht))
  cases h with
  | kept ht hr =>
    obtain rfl := hread ht hr.id_eq
    exact Task.eq_of_same hsame (by rw [hr])
  | changed ht hchange =>
    obtain rfl := hread ht hchange.keeps.1
    exact hchange.eq_of_same hop hsame
  | @stagedBehind t t₁ o _ points tags ht hcan _ hr =>
    obtain ⟨hkeeps, -⟩ := keeps_staged t₁ (ambient.now 0) o.location points tags
    obtain rfl := hread ht (hkeeps.trans hr.id_eq)
    have hcases := Task.canStage_eq_ok_iff.mp hcan
    rw [Task.stage_of_same hsame, Task.stage_staged] at hcases
    simp at hcases
  | added hnew => exact absurd hnew hid
  | @absorbed _ u t _ _ ht _ hr =>
    -- the history has grown
    obtain rfl := hread ht hr.id_eq
    obtain ⟨entry, hhistory⟩ : ∃ entry, t'.history = s.history ++ u.history ++ [entry] :=
      ⟨_, by rw [hr]; rfl⟩
    rw [Task.history_of_same hsame] at hhistory
    have hlength := congrArg List.length hhistory
    simp at hlength
  | part _ _ _ _ hnew => exact absurd hnew hid

/-- An edit leaves the versions of tasks alone, but for those that it creates. -/
theorem version_of_edit (hargs : op.checkArguments = .ok ())
    (h : op.edit policy ambient tasks = .ok edited) : ∀ id t', edited.1.get? id = some t' →
      id ∉ op.created edited → ∃ t, tasks.get? id = some t ∧ t'.version = t.version := by
  intro id t' ht' hid
  obtain rfl := TaskMap.id_of_get? ht'
  exact ((edits_of_edit h).origin hargs ht').version hid

/-- **A task goes away only when it is merged into another or split.** -/
theorem Edits.has_of_has (h : Edits policy ambient tasks op edited)
    (hargs : op.checkArguments = .ok ())
    (hid : tasks.has id = true) : edited.1.has id = true ∨ (∃ target, op = .merge id target) ∨
      ∃ names descriptions, op = .split id names descriptions := by
  have hinsert : ∀ (tasks : TaskMap) (t : Task), tasks.has id = true →
      TaskMap.has (tasks.insert t) id = true := by
    intro tasks t hid
    obtain ⟨u, hu⟩ := TaskMap.has_iff.mp hid
    rw [TaskMap.has_iff, TaskMap.get?_insert]
    split
    · exact ⟨t, rfl⟩
    · exact ⟨u, hu⟩
  cases h with
  | one _ _ _ => exact .inl (hinsert _ _ hid)
  | added _ => exact .inl (hinsert _ _ hid)
  | stagedBehind _ _ _ hlink _ =>
    exact .inl (hinsert _ _ ((Graph.rewires_link hlink).has_eq id ▸ hid))
  | advertised _ hlink => exact .inl ((TaskMap.rewires_linkedAll hlink).has_eq id ▸ hid)
  | stitched _ hlink => exact .inl ((TaskMap.rewires_linkedAll hlink).has_eq id ▸ hid)
  | @merged source target _ hmerge =>
    obtain ⟨s, t, t', -, -, ht', -, -, hothers⟩ :=
      TaskMap.get?_merged (checkArguments_merge hargs) hmerge
    by_cases hids : id = source
    · exact .inr (.inl ⟨target, by rw [hids]⟩)
    · by_cases hidt : id = target
      · exact .inl (TaskMap.has_iff.mpr ⟨t', by rw [hidt, ht']⟩)
      · obtain ⟨u, hu⟩ := TaskMap.has_iff.mp hid
        obtain ⟨u', hu', -⟩ := Task.Rewired.of_rel_some (hothers id hids hidt) hu
        exact .inl (TaskMap.has_iff.mpr ⟨u', hu'⟩)
  | @split task names descriptions _ _ _ hsplit =>
    by_cases hidt : id = task.id
    · exact .inr (.inr ⟨names, descriptions, by rw [hidt]⟩)
    · exact .inl (TaskMap.has_splitInto_of_ne hsplit hid hidt)

/-! ### The tasks to return -/

theorem nodup_eraseDups (ids : List TaskId) : ids.eraseDups.Nodup := by
  induction hn : ids.length using Nat.strong_induction_on generalizing ids with
  | _ n ih =>
    cases ids with
    | nil => exact List.nodup_nil
    | cons id ids =>
      rw [List.eraseDups_cons, List.nodup_cons, List.mem_eraseDups, List.mem_filter]
      refine ⟨by simp, ih _ ?_ _ rfl⟩
      rw [← hn, List.length_cons]
      exact Nat.lt_succ_of_le (List.length_filter_le _ _)

/-- **The tasks to return are there.** -/
theorem Edits.has_returned (h : Edits policy ambient tasks op edited)
    (hargs : op.checkArguments = .ok ()) : ∀ id ∈ edited.2, edited.1.has id = true := by
  cases h with
  | @one _ t t' returned ht hchange hreturned =>
    intro id hid
    have hidt : id = t'.id := by
      rcases hreturned with rfl | rfl
      · rw [List.mem_singleton.mp hid, hchange.keeps.1]
      · cases hid
    rw [hidt]
    exact TaskMap.has_iff.mpr ⟨t', TaskMap.get?_insert_self tasks t'⟩
  | added _ =>
    intro id hid
    rw [List.mem_singleton.mp hid]
    exact TaskMap.has_iff.mpr
      ⟨_, TaskMap.get?_insert_self tasks (Task.added (ambient.fresh 0) _ _ _ _)⟩
  | @stagedBehind t t₁ o tasks₁ _ points tags _ _ _ _ ht₁ =>
    intro id hid
    have hkeeps := keeps_staged t₁ (ambient.now 0) o.location points tags
    rw [List.mem_singleton.mp hid, ← TaskMap.id_of_get? ht₁, ← hkeeps.1]
    exact TaskMap.has_iff.mpr ⟨_, TaskMap.get?_insert_self tasks₁ _⟩
  | advertised hsource hlink =>
    intro id hid
    rw [List.mem_singleton.mp hid]
    exact (TaskMap.rewires_linkedAll hlink).has_eq _ ▸ hsource
  | stitched htarget hlink =>
    -- a source is there because its edge is
    intro id hid
    rcases List.mem_append.mp hid with hid | hid
    · have hedge := TaskMap.hasEdge_of_linkedAll hlink _ (List.mem_map_of_mem hid)
      exact Graph.has_of_mem_outflowsOf (Graph.hasEdge_iff.mp hedge).1
    · rw [List.mem_singleton.mp hid]
      exact (TaskMap.rewires_linkedAll hlink).has_eq _ ▸ htarget
  | merged hmerge =>
    intro id hid
    rw [List.mem_singleton.mp hid]
    obtain ⟨s, t, t', -, -, ht', -⟩ := TaskMap.get?_merged (checkArguments_merge hargs) hmerge
    exact TaskMap.has_iff.mpr ⟨t', ht'⟩
  | split _ _ hsplit =>
    intro id hid
    obtain ⟨p, hp, rfl⟩ := List.mem_map.mp hid
    exact TaskMap.has_splitInto hsplit hp

theorem parts_spec {p task : Task} {names descriptions : List String}
    (hp : p ∈ parts task ambient names descriptions) : p.inflows = .empty ∧ p.outflows = .empty ∧
      p.stage = task.stage ∧ p.schedule = .empty := by
  unfold parts at hp
  obtain ⟨⟨⟨name, description⟩, i⟩, -, rfl⟩ := List.mem_map.mp hp
  exact ⟨rfl, rfl, rfl, rfl⟩

theorem parts_ne_nil {task : Task} {names descriptions : List String}
    (h : (Operation.split id names descriptions).checkArguments = .ok ()) :
    parts task ambient names descriptions ≠ [] := by
  simp only [checkArguments] at h
  split at h
  · cases h
  · next hnames =>
    split at h
    · cases h
    · next hlength =>
      rw [List.isEmpty_iff] at hnames
      unfold parts
      cases names with
      | nil => exact absurd rfl hnames
      | cons name names =>
        cases descriptions with
        | nil => exact absurd (by simp) hlength
        | cons description descriptions => simp

/-- **The tasks to return are all different**, unless a task is stitched to itself. -/
theorem Edits.nodup_returned (h : Edits policy ambient tasks op edited) : edited.2.Nodup ∨
    ∃ sources target, op = .stitch sources target ∧ target ∈ sources := by
  cases h with
  | one _ _ hreturned =>
    rcases hreturned with rfl | rfl
    · exact .inl (List.nodup_singleton _)
    · exact .inl List.nodup_nil
  | added _ => exact .inl (List.nodup_singleton _)
  | stagedBehind _ _ _ _ _ => exact .inl (List.nodup_singleton _)
  | advertised _ _ => exact .inl (List.nodup_singleton _)
  | @stitched sources target _ _ _ =>
    by_cases hmem : target ∈ sources
    · exact .inr ⟨sources, target, rfl, hmem⟩
    · refine .inl ((nodup_eraseDups sources).append (List.nodup_singleton target) ?_)
      rwa [List.disjoint_singleton, List.mem_eraseDups]
  | merged _ => exact .inl (List.nodup_singleton _)
  | split _ _ hsplit =>
    exact .inl (TaskMap.nodup_of_splitInto (fun p hp => (parts_spec hp).2.1) hsplit)

/-! ### The graph -/

/-- Putting in a task changes no flows if it has the neighbours that stand under its identifier. -/
theorem flows_insert (hin : t'.inflows.ids = Graph.inflowsOf tasks t'.id)
    (hout : t'.outflows.ids = Graph.outflowsOf tasks t'.id) (id : TaskId) :
    Graph.inflowsOf (tasks.insert t') id = Graph.inflowsOf tasks id ∧
      Graph.outflowsOf (tasks.insert t') id = Graph.outflowsOf tasks id := by
  by_cases hid : t'.id = id
  · subst hid
    have hget := TaskMap.get?_insert_self tasks t'
    rw [Graph.inflowsOf_of_get? hget, hin, Graph.outflowsOf_of_get? hget, hout]
    exact ⟨rfl, rfl⟩
  · have hget : TaskMap.get? (tasks.insert t') id = tasks.get? id := TaskMap.get?_insert_of_ne hid
    unfold Graph.inflowsOf Graph.outflowsOf
    rw [hget]
    exact ⟨rfl, rfl⟩

theorem flows_insert_changed (ht : tasks.get? t'.id = some t) (hin : t'.inflows = t.inflows)
    (hout : t'.outflows = t.outflows) (id : TaskId) :
    Graph.inflowsOf (tasks.insert t') id = Graph.inflowsOf tasks id ∧
      Graph.outflowsOf (tasks.insert t') id = Graph.outflowsOf tasks id :=
  flows_insert (by rw [Graph.inflowsOf_of_get? ht, hin])
    (by rw [Graph.outflowsOf_of_get? ht, hout]) id

theorem flows_insert_new (ht : tasks.get? t'.id = none) (hin : t'.inflows = .empty)
    (hout : t'.outflows = .empty) (id : TaskId) :
    Graph.inflowsOf (tasks.insert t') id = Graph.inflowsOf tasks id ∧
      Graph.outflowsOf (tasks.insert t') id = Graph.outflowsOf tasks id :=
  flows_insert (by rw [Graph.inflowsOf_of_none ht, hin]; rfl)
    (by rw [Graph.outflowsOf_of_none ht, hout]; rfl) id

theorem wellFormed_of_flows {tasks' : TaskMap} (hwf : Graph.WellFormed tasks)
    (h : ∀ id, Graph.inflowsOf tasks' id = Graph.inflowsOf tasks id ∧
      Graph.outflowsOf tasks' id = Graph.outflowsOf tasks id) : Graph.WellFormed tasks' :=
  hwf.of_flows_eq (fun id => (h id).1) fun id => (h id).2

/-- An operation that does not read the whole store changes one task. -/
theorem Edits.one_of_scope (h : Edits policy ambient tasks op edited) (hscope : op.scope ≠ .whole) :
    ∃ t t', tasks.get? t.id = some t ∧ Change policy ambient tasks op t t' ∧
      edited.1 = tasks.insert t' := by
  cases h with
  | one ht hchange _ => exact ⟨_, _, ht, hchange, rfl⟩
  | added _ => exact absurd rfl hscope
  | stagedBehind _ _ _ _ _ => exact absurd rfl hscope
  | advertised _ _ => exact absurd rfl hscope
  | stitched _ _ => exact absurd rfl hscope
  | merged _ => exact absurd rfl hscope
  | split _ _ _ => exact absurd rfl hscope

/-- **Every edit keeps the graph well-formed** if what it creates is new. -/
theorem Edits.wellFormed (h : Edits policy ambient tasks op edited)
    (hargs : op.checkArguments = .ok ())
    (hfresh : ∀ id ∈ op.created edited, tasks.get? id = none) (hwf : Graph.WellFormed tasks) :
    Graph.WellFormed edited.1 := by
  cases h with
  | one ht hchange _ =>
    obtain ⟨hid, -, hin, hout⟩ := hchange.keeps
    exact wellFormed_of_flows hwf (flows_insert_changed (hid ▸ ht) hin hout)
  | added _ =>
    exact wellFormed_of_flows hwf (flows_insert_new (hfresh _ List.mem_cons_self) rfl rfl)
  | @stagedBehind t t₁ o tasks₁ _ points tags _ _ _ hlink ht₁ =>
    obtain ⟨hid, -, hin, hout⟩ := keeps_staged t₁ (ambient.now 0) o.location points tags
    refine wellFormed_of_flows (hwf.link hlink) (flows_insert_changed ?_ hin hout)
    rw [hid, TaskMap.id_of_get? ht₁, ht₁]
  | advertised _ hlink => exact TaskMap.wellFormed_linkedAll hwf hlink
  | stitched _ hlink => exact TaskMap.wellFormed_linkedAll hwf hlink
  | merged hmerge => exact TaskMap.wellFormed_merged hwf (checkArguments_merge hargs) hmerge
  | split htask _ hsplit =>
    exact TaskMap.wellFormed_splitInto hwf htask (parts_ne_nil hargs)
      (fun p hp => hfresh p.id (List.mem_map_of_mem hp)) (fun p hp => (parts_spec hp).1)
      (fun p hp => (parts_spec hp).2.1) hsplit

end Operation

end TaskPipeline
