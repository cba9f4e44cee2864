import TaskPipeline.Proofs.Engine.Edit
import TaskPipeline.Proofs.Engine.Race
import TaskPipeline.Proofs.Engine.Interleaving
import TaskPipeline.Proofs.Store.Refusal

/-!
# The tasks of a request

`Operation.named` lists the tasks that a request names.  An edit misses no other task
(`Operation.missesOnly_edit`), and what an operation on the graph writes anew or deletes is named
unless it merges or splits, which rewire the neighbours too, or the task is not the same as itself
(`Operation.named_of_mem_replaced`).
-/

namespace TaskPipeline

namespace Operation

/-- The tasks that a request names. -/
def named : Operation → List TaskId
  | add _ _ _ => []
  | stage id (.behind other) _ _ => [id, other]
  | stage id (.location _) _ _ => [id]
  | start id => [id]
  | stop id _ => [id]
  | complete id => [id]
  | tag id _ => [id]
  | setDue id _ => [id]
  | advertise source targets => source :: targets
  | stitch sources target => target :: sources
  | merge source target => [source, target]
  | split id _ _ => [id]
  | recordEvent id _ => [id]

/-- The error, if there is one, reports no missing task but one of these. -/
def MissesOnly {α : Type} (ids : List TaskId) (x : Except EngineError α) : Prop :=
  ∀ id, x = .error (.taskNotFound id) → id ∈ ids

theorem taskNotFound_inj {a b : TaskId} (h : EngineError.taskNotFound a = .taskNotFound b) :
    a = b := by
  unfold EngineError.taskNotFound at h
  injection h with _ h
  exact Ident.ext h

section MissesOnly

variable {α β : Type} {ids : List TaskId} {x : Except EngineError α} {tasks : TaskMap}
  {id source target : TaskId} {now : Instant} {pairs : List (TaskId × TaskId)}

theorem missesOnly_iff :
    MissesOnly ids x ↔ FailsOnly (fun e => ∀ id, e = .taskNotFound id → id ∈ ids) x := by
  constructor
  · rintro h _ he id rfl
    exact h id he
  · exact fun h id he => h _ he id rfl

theorem missesOnly_ok (a : α) : MissesOnly ids (.ok a : Except EngineError α) :=
  missesOnly_iff.mpr (failsOnly_ok a)

theorem missesOnly_error {e : EngineError} (h : ∀ id, e ≠ .taskNotFound id) :
    MissesOnly ids (.error e : Except EngineError α) :=
  missesOnly_iff.mpr (failsOnly_error fun id he => absurd he (h id))

theorem MissesOnly.bind {f : α → Except EngineError β} (hx : MissesOnly ids x)
    (hf : ∀ a, x = .ok a → MissesOnly ids (f a)) : MissesOnly ids (x >>= f) :=
  missesOnly_iff.mpr ((missesOnly_iff.mp hx).bind fun a ha => missesOnly_iff.mp (hf a ha))

theorem MissesOnly.map (hx : MissesOnly ids x) (f : α → β) : MissesOnly ids (x.map f) :=
  missesOnly_iff.mpr ((missesOnly_iff.mp hx).map f)

theorem missesOnly_refusing (x : Except TransitionError α) : MissesOnly ids (refusing x) :=
  missesOnly_iff.mpr (failsOnly_refusing (fun _ _ => nofun) x)

theorem missesOnly_demand (h : id ∈ ids) : MissesOnly ids (tasks.demand id) :=
  missesOnly_iff.mpr (failsOnly_demand fun _ he => taskNotFound_inj he ▸ h)

theorem missesOnly_linked (hs : source ∈ ids ∨ tasks.has source = true)
    (ht : target ∈ ids ∨ tasks.has target = true) :
    MissesOnly ids (tasks.linked source target now) := by
  unfold TaskMap.linked
  rw [Graph.link_eq]
  unfold Graph.checkEdge
  split
  · exact missesOnly_ok _
  · by_cases hne : source = target
    · rw [if_pos hne]
      exact missesOnly_error fun _ => nofun
    · rw [if_neg hne]
      by_cases hhas : tasks.has source = true
      · by_cases hhas' : tasks.has target = true
        · simp only [hhas, hhas', Bool.not_true, Bool.false_eq_true, if_false]
          split
          · exact missesOnly_error fun _ => nofun
          · exact missesOnly_ok _
        · simp only [hhas, hhas', Bool.not_true, Bool.false_eq_true, if_false, Bool.not_false, if_true]
          intro id he
          injection he with he
          exact taskNotFound_inj he ▸ ht.resolve_right hhas'
      · simp only [hhas, Bool.not_false, if_true]
        intro id he
        injection he with he
        exact taskNotFound_inj he ▸ hs.resolve_right hhas

theorem missesOnly_linkedAll (h : ∀ e ∈ pairs, (e.1 ∈ ids ∨ tasks.has e.1 = true) ∧
    (e.2 ∈ ids ∨ tasks.has e.2 = true)) : MissesOnly ids (tasks.linkedAll now pairs) := by
  induction pairs generalizing tasks with
  | nil => exact missesOnly_ok tasks
  | cons e rest ih =>
    obtain ⟨hs, ht⟩ := h e List.mem_cons_self
    have hlinked : MissesOnly ids (tasks.linked e.1 e.2 now) := missesOnly_linked hs ht
    unfold TaskMap.linkedAll
    cases hlink : tasks.linked e.1 e.2 now with
    | error e =>
      rw [hlink] at hlinked
      exact hlinked
    | ok tasks' =>
      -- a link neither adds nor removes tasks
      have hrewires := Graph.rewires_link (TaskMap.linked_eq_ok_iff.mp hlink)
      refine ih fun e' he' => ?_
      rw [hrewires.has_eq, hrewires.has_eq]
      exact h e' (List.mem_cons_of_mem _ he')

/-- The parts of a split are linked to each other, and they are there. -/
theorem missesOnly_splitInto (task : Task) (parts : List Task) :
    MissesOnly ids (tasks.splitInto task parts now) := by
  cases parts with
  | nil => exact missesOnly_ok _
  | cons first rest =>
    rw [TaskMap.splitInto_cons]
    have hthere : ∀ id ∈ first.id :: rest.map Task.id,
        (Graph.rename (tasks.parted task first rest) task.id first.id now).has id = true := by
      intro id hid
      rw [(Graph.rewires_rename _ _ _ _).has_eq, TaskMap.has_iff]
      rcases TaskMap.get?_parted tasks task first rest id with ⟨p, -, -, hget⟩ | ⟨hno, hget⟩
      · exact ⟨p, hget⟩
      · rcases List.mem_cons.mp hid with rfl | hid
        · rw [if_pos rfl] at hget
          exact ⟨_, hget⟩
        · obtain ⟨p, hp, rfl⟩ := List.mem_map.mp hid
          exact absurd rfl (hno p hp)
    refine missesOnly_linkedAll fun e he => ⟨.inr (hthere e.1 ?_), .inr (hthere e.2 ?_)⟩
    · exact (List.of_mem_zip he).1
    · exact List.mem_cons_of_mem _ (List.of_mem_zip he).2

end MissesOnly

variable {policy : Policy} {op : Operation} {ambient : Ambient} {tasks : TaskMap} {edited : Edited}
  {id : TaskId}

/-- **An edit of the graph misses no task but one that the request names.** -/
theorem missesOnly_edit (hscope : op.scope = .whole) :
    MissesOnly op.named (op.edit policy ambient tasks) := by
  cases op with
  | add name description owner =>
    show MissesOnly _ (editAdd policy name description owner ambient tasks)
    unfold editAdd
    dsimp only
    split
    · exact missesOnly_error fun _ => nofun
    · exact missesOnly_ok _
  | stage id destination points tags =>
    cases destination with
    | location location => cases hscope
    | behind other =>
      have hid : id ∈ [id, other] := by simp
      have hother : other ∈ [id, other] := by simp
      refine (missesOnly_demand hid).bind fun t _ => (missesOnly_refusing _).bind fun _ _ =>
        (missesOnly_demand hother).bind fun o _ => ?_
      refine (missesOnly_linked (.inl hother) (.inl hid)).bind fun tasks' _ => ?_
      exact (missesOnly_demand hid).bind fun t _ => missesOnly_ok _
  | advertise source targets =>
    have hsource : source ∈ source :: targets := List.mem_cons_self
    refine (missesOnly_demand hsource).bind fun t _ =>
      (missesOnly_linkedAll fun e he => ?_).bind fun _ _ => missesOnly_ok _
    obtain ⟨t, ht, rfl⟩ := List.mem_map.mp he
    exact ⟨.inl hsource, .inl (List.mem_cons_of_mem _ (List.mem_eraseDups.mp ht))⟩
  | stitch sources target =>
    have htarget : target ∈ target :: sources := List.mem_cons_self
    refine (missesOnly_demand htarget).bind fun t _ =>
      (missesOnly_linkedAll fun e he => ?_).bind fun _ _ => missesOnly_ok _
    obtain ⟨s, hs, rfl⟩ := List.mem_map.mp he
    exact ⟨.inl (List.mem_cons_of_mem _ (List.mem_eraseDups.mp hs)), .inl htarget⟩
  | merge source target =>
    have hsource : source ∈ [source, target] := by simp
    have htarget : target ∈ [source, target] := by simp
    refine MissesOnly.map ((missesOnly_demand hsource).bind fun s _ =>
      (missesOnly_demand htarget).bind fun t _ => ?_) _
    dsimp only
    split
    · exact missesOnly_error fun _ => nofun
    · split
      · exact missesOnly_error fun _ => nofun
      · exact missesOnly_ok _
  | split id names descriptions =>
    refine (missesOnly_demand List.mem_cons_self).bind fun task _ => ?_
    refine MissesOnly.bind ?_ fun _ _ =>
      (missesOnly_splitInto task _).bind fun _ _ => missesOnly_ok _
    unfold TaskMap.checkSplit
    split
    · exact missesOnly_error fun _ => nofun
    · dsimp only
      split
      · exact missesOnly_error fun _ => nofun
      · exact missesOnly_ok ()
  | start id => cases hscope
  | stop id points => cases hscope
  | complete id => cases hscope
  | tag id tags => cases hscope
  | setDue id due => cases hscope
  | recordEvent id event => cases hscope

/-! ### What is written -/

theorem get?_link_of_ne {tasks' : TaskMap} {source target : TaskId} {now : Instant}
    (hlink : Graph.link tasks source target now = .ok tasks') (hs : id ≠ source) (ht : id ≠ target) :
    tasks'.get? id = tasks.get? id := by
  rcases Graph.link_eq_ok_iff.mp hlink with ⟨-, rfl⟩ | ⟨-, -, rfl⟩
  · rfl
  · rw [Graph.get?_addEdge]
    cases hget : tasks.get? id with
    | none => rfl
    | some t =>
      have hid := TaskMap.id_of_get? hget
      rw [Option.map_some, Graph.withHalf, if_neg (hid ▸ hs), if_neg (hid ▸ ht)]

theorem get?_linkedAll_of_ne {tasks' : TaskMap} {pairs : List (TaskId × TaskId)} {now : Instant}
    (hlink : tasks.linkedAll now pairs = .ok tasks') (h : ∀ e ∈ pairs, id ≠ e.1 ∧ id ≠ e.2) :
    tasks'.get? id = tasks.get? id :=
  TaskMap.linkedAll_induction (p := fun later => later.get? id = tasks.get? id)
    (fun _ _ e he hlater hlink => (get?_link_of_ne hlink (h e he).1 (h e he).2).trans hlater) rfl
    hlink

/-- **An edit leaves a task alone** that the request does not name, unless it creates the task, or
merges or splits. -/
theorem get?_edit_of_not_named (hscope : op.scope = .whole)
    (h : op.edit policy ambient tasks = .ok edited) (hid : id ∉ op.named)
    (hnew : id ∉ op.created edited) :
    edited.1.get? id = tasks.get? id ∨ (∃ source target, op = .merge source target) ∨
      ∃ task names descriptions, op = .split task names descriptions := by
  cases edits_of_edit h with
  | one _ hchange _ => cases hchange <;> cases hscope
  | added _ =>
    left
    rw [TaskMap.get?_insert, if_neg]
    rintro rfl
    exact hnew List.mem_cons_self
  | @stagedBehind t t₁ o tasks₁ other points tags ht hcan ho hlink ht₁ =>
    left
    have hne : id ≠ t.id ∧ id ≠ other := by simpa [named] using hid
    have hkeeps := keeps_staged t₁ (ambient.now 0) o.location points tags
    rw [TaskMap.get?_insert, if_neg, get?_link_of_ne hlink hne.2 hne.1]
    rw [hkeeps.1, TaskMap.id_of_get? ht₁]
    exact hne.1.symm
  | @advertised source targets _ _ hlink =>
    left
    refine get?_linkedAll_of_ne hlink fun e he => ?_
    obtain ⟨t, ht, rfl⟩ := List.mem_map.mp he
    have hmem := List.mem_eraseDups.mp ht
    constructor
    · rintro rfl
      exact hid List.mem_cons_self
    · rintro rfl
      exact hid (List.mem_cons_of_mem _ hmem)
  | @stitched sources target _ _ hlink =>
    left
    refine get?_linkedAll_of_ne hlink fun e he => ?_
    obtain ⟨s, hs, rfl⟩ := List.mem_map.mp he
    have hmem := List.mem_eraseDups.mp hs
    constructor
    · rintro rfl
      exact hid (List.mem_cons_of_mem _ hmem)
    · rintro rfl
      exact hid List.mem_cons_self
  | merged _ => exact .inr (.inl ⟨_, _, rfl⟩)
  | split _ _ _ => exact .inr (.inr ⟨_, _, _, rfl⟩)

/-- What a batch writes anew or deletes was read, and the edit has changed it or it is not the same as
itself. -/
theorem of_mem_replaced {p : TaskId × Nat} (hargs : op.checkArguments = .ok ())
    (h : op.edit policy ambient tasks = .ok edited) (hp : p ∈ (op.batch tasks edited).replaced) :
    tasks.has p.1 = true ∧ p.1 ∉ op.created edited ∧
      (edited.1.get? p.1 ≠ tasks.get? p.1 ∨ tasks.Restless p.1) := by
  rcases List.mem_append.mp hp with hp | hp
  · obtain ⟨t, ht, rfl⟩ := List.mem_map.mp hp
    obtain ⟨hafter, hcreated, hbefore⟩ := ChangeSet.mem_updates_between.mp ht
    obtain ⟨u, hu, -⟩ := version_of_edit hargs h t.id t hafter hcreated
    refine ⟨TaskMap.has_iff.mpr ⟨u, hu⟩, hcreated, ?_⟩
    by_cases hsame : edited.1.get? t.id = tasks.get? t.id
    · have ht := hsame.symm.trans hafter
      exact .inr ⟨t, ht, (TaskMap.holds_eq ht).symm.trans hbefore⟩
    · exact .inl hsame
  · obtain ⟨t, ht, hgone, rfl⟩ := ChangeSet.mem_deletes_between.mp hp
    refine ⟨TaskMap.has_iff.mpr ⟨t, ht⟩, fun hcreated => ?_, ?_⟩
    · -- what is created is there afterwards
      have hthere := (edits_of_edit h).has_returned hargs t.id (mem_returned_of_mem_created hcreated)
      rw [hgone] at hthere
      cases hthere
    · rw [ht, TaskMap.get?_eq_none_iff.mpr hgone]
      exact .inl nofun

/-- **What an operation on the graph replaces is named** by the request, unless it merges or splits,
which rewires the neighbours too, or the task is not the same as itself. -/
theorem named_of_mem_replaced {p : TaskId × Nat} (hscope : op.scope = .whole)
    (hargs : op.checkArguments = .ok ()) (h : op.edit policy ambient tasks = .ok edited)
    (hp : p ∈ (op.batch tasks edited).replaced) :
    p.1 ∈ op.named ∨ ((∃ source target, op = .merge source target) ∨
      ∃ task names descriptions, op = .split task names descriptions) ∨ tasks.Restless p.1 := by
  obtain ⟨-, hnew, hchanged | hrestless⟩ := of_mem_replaced hargs h hp
  · by_cases hnamed : p.1 ∈ op.named
    · exact .inl hnamed
    · exact .inr (.inl ((get?_edit_of_not_named hscope h hnamed hnew).resolve_left hchanged))
  · exact .inr (.inr hrestless)

end Operation

end TaskPipeline
