import Mathlib.Data.List.Perm.Subperm
import TaskPipeline.Proofs.Engine.Edit
import TaskPipeline.Proofs.Task.Transition

/-!
# Where an edit puts tasks

A task after an edit stands where it stood before, unless the edit has moved it: to staging, to the
archive, or to work, which only the start of a task does.  A new task stands in the inbox, or where
the task stood of which it is a part.  `Operation.Origin.placed` says so with all that the edit has
checked before, and `Operation.Edits.inboxCount` what follows for the inbox.
-/

namespace TaskPipeline

namespace Operation

variable {policy : Policy} {op : Operation} {ambient : Ambient} {tasks : TaskMap}
  {created : List TaskId} {edited : Edited} {t u : Task}

/-- Why a task stands in its stage after an edit. -/
inductive Placed (policy : Policy) (tasks : TaskMap) : Operation → Task → Prop where
  /-- It stood there before. -/
  | stays {op : Operation} {t u : Task} (ht : tasks.get? u.id = some t)
      (hstage : u.stage = t.stage) : Placed policy tasks op u
  /-- It was moved to staging or to the archive. -/
  | moved {op : Operation} {u : Task} (hstage : u.stage = .staging ∨ u.stage = .archived) :
      Placed policy tasks op u
  /-- Work on it was started. -/
  | started {t u : Task} (ht : tasks.get? u.id = some t) (hcan : t.canStart = .ok ())
      (hinflows : t.checkInflows tasks t.inflows.ids = .ok ()) (hstage : u.stage = .active) :
      Placed policy tasks (.start u.id) u
  /-- It is new in the inbox. -/
  | added {name description : String} {owner : UserId} {u : Task} (hstage : u.stage = .inbox) :
      Placed policy tasks (.add name description owner) u
  /-- It is a part of a task that stood there. -/
  | part {task u : Task} {names descriptions : List String} (htask : tasks.get? task.id = some task)
      (hcheck : tasks.checkSplit task names.length policy.maxInbox = .ok ())
      (hstage : u.stage = task.stage) : Placed policy tasks (.split task.id names descriptions) u

theorem Change.placed (h : Change policy ambient tasks op t u) (ht : tasks.get? t.id = some t) :
    Placed policy tasks op u := by
  have hid : u.id = t.id := h.keeps.1
  have hget : tasks.get? u.id = some t := by rw [hid, ht]
  cases h with
  | staged _ => exact .moved (.inl (Task.stage_staged _ _ _ _ _))
  | started hcan hinflows =>
    exact .started (u := t.started (ambient.now 0)) ht hcan hinflows rfl
  | stopped _ _ => exact .moved (Task.stage_settled _ _ _).symm
  | completed _ _ => exact .moved (.inr rfl)
  | tagged => exact .stays hget rfl
  | dueSet => exact .stays hget rfl
  | eventRecorded => exact .stays hget rfl

/-- **Why a task stands in its stage after an edit.** -/
theorem Origin.placed (h : Origin policy ambient tasks created op u) :
    Placed policy tasks op u := by
  cases h with
  | kept ht hr => exact .stays (hr.id_eq ▸ ht) hr.stage_eq
  | changed ht hchange => exact hchange.placed ht
  | stagedBehind _ _ _ _ => exact .moved (.inl (Task.stage_staged _ _ _ _ _))
  | added _ => exact .added rfl
  | @absorbed source s t _ _ ht _ hr =>
    have hget : tasks.get? u.id = some t := by rw [hr.id_eq]; exact ht
    exact .stays hget hr.stage_eq
  | part htask hcheck hp hr _ =>
    exact .part htask hcheck (hr.stage_eq.trans (parts_spec hp).2.2.1)

end Operation

/-! ### The inbox -/

namespace TaskMap

variable {tasks tasks' : TaskMap} {id : TaskId} {ids : List TaskId}

def inbox (tasks : TaskMap) : List TaskId :=
  (tasks.toList.filter (·.stage = .inbox)).map Task.id

theorem mem_inbox : id ∈ tasks.inbox ↔ ∃ t, tasks.get? id = some t ∧ t.stage = .inbox := by
  unfold inbox
  simp [get?_eq_some_iff, and_right_comm]

theorem length_inbox (tasks : TaskMap) : tasks.inbox.length = tasks.inboxCount := List.length_map _

theorem inboxCount_le (h : ∀ id ∈ tasks.inbox, id ∈ ids) : tasks.inboxCount ≤ ids.length := by
  have hnd : tasks.inbox.Nodup := (nodup_ids tasks).sublist (List.filter_sublist.map _)
  rw [← length_inbox]
  exact (List.Nodup.subperm hnd h).length_le

theorem inboxCount_mono (h : ∀ id ∈ tasks.inbox, id ∈ tasks'.inbox) :
    tasks.inboxCount ≤ tasks'.inboxCount := by
  rw [← length_inbox tasks']
  exact inboxCount_le h

end TaskMap

namespace Operation

variable {policy : Policy} {op : Operation} {ambient : Ambient} {tasks : TaskMap}
  {edited : Edited} {id : TaskId}

/-- A task is added only if there is room for it. -/
theorem Edits.inboxCount_of_add {name description : String} {owner : UserId}
    (h : Edits policy ambient tasks (.add name description owner) edited) :
    edited.1.inboxCount ≤ policy.maxInbox := by
  cases h with
  | one _ hchange => cases hchange
  | added hroom =>
    -- in the inbox are the new task, and those that were there
    have hle : TaskMap.inboxCount (tasks.insert (Task.added (ambient.fresh 0) (Text.trim name)
        description owner (ambient.now 0))) ≤ (ambient.fresh 0 :: tasks.inbox).length := by
      refine TaskMap.inboxCount_le fun id hid => ?_
      obtain ⟨t, ht, hstage⟩ := TaskMap.mem_inbox.mp hid
      rw [TaskMap.get?_insert] at ht
      split at ht
      · next hnew => exact hnew ▸ List.mem_cons_self
      · exact List.mem_cons_of_mem _ (TaskMap.mem_inbox.mpr ⟨t, ht, hstage⟩)
    rw [List.length_cons, TaskMap.length_inbox] at hle
    exact hle.trans hroom

/-- A task in the inbox is split only if there is room for its parts. -/
theorem Edits.inboxCount_of_split {task : Task} {names descriptions : List String}
    (h : Edits policy ambient tasks (.split task.id names descriptions) edited)
    (htask : tasks.get? task.id = some task) (hinbox : task.stage = .inbox) :
    edited.1.inboxCount ≤ policy.maxInbox := by
  obtain ⟨task', htask', hcheck, hsplit⟩ := h.of_split
  rw [htask] at htask'
  cases htask'
  have hroom := (TaskMap.checkSplit_eq_ok_iff.mp hcheck).2 hinbox
  have hparts : (parts task ambient names descriptions).length ≤ names.length := by
    unfold parts
    rw [List.length_map, List.length_zipIdx, List.length_zip]
    exact Nat.min_le_left _ _
  have hle : edited.1.inboxCount ≤ ((parts task ambient names descriptions).map Task.id ++
      (tasks.remove task.id).inbox).length := by
    refine TaskMap.inboxCount_le fun id hmem => ?_
    obtain ⟨t', ht', hstage⟩ := TaskMap.mem_inbox.mp hmem
    -- it is a part, or one of the other tasks
    rcases TaskMap.get?_splitInto hsplit ht' with ⟨p, hp, hr⟩ | ⟨hne, t, ht, hr⟩
    · refine List.mem_append_left _ (List.mem_map.mpr ⟨p, hp, ?_⟩)
      rw [← hr.id_eq, TaskMap.id_of_get? ht']
    · refine List.mem_append_right _ (TaskMap.mem_inbox.mpr ⟨t, ?_, hr.stage_eq ▸ hstage⟩)
      rw [TaskMap.get?_remove, if_neg hne.symm, ht]
  rw [List.length_append, List.length_map, TaskMap.length_inbox] at hle
  omega

/-- **What an edit does to the inbox**: it has looked at all tasks and leaves no more in the inbox
than there may be, or it puts nothing there. -/
theorem Edits.inbox (h : Edits policy ambient tasks op edited) (hargs : op.checkArguments = .ok ()) :
    (op.scope = .whole ∧ edited.1.inboxCount ≤ policy.maxInbox) ∨
      ∀ id ∈ edited.1.inbox, id ∈ tasks.inbox := by
  by_cases hroom : op.scope = .whole ∧ edited.1.inboxCount ≤ policy.maxInbox
  · exact .inl hroom
  · refine .inr fun id hid => ?_
    obtain ⟨u, hu, hinbox⟩ := TaskMap.mem_inbox.mp hid
    have huid := TaskMap.id_of_get? hu
    -- what could fill the inbox has looked at all tasks
    cases (h.origin hargs hu).placed with
    | stays ht hstage => exact TaskMap.mem_inbox.mpr ⟨_, huid ▸ ht, hstage ▸ hinbox⟩
    | moved hstage => simp [hinbox] at hstage
    | started _ _ _ hstage => simp [hinbox] at hstage
    | added _ => exact absurd ⟨rfl, h.inboxCount_of_add⟩ hroom
    | part htask _ hstage =>
      exact absurd ⟨rfl, h.inboxCount_of_split htask (hstage ▸ hinbox)⟩ hroom

end Operation

end TaskPipeline
