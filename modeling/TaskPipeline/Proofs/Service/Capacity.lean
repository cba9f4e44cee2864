import TaskPipeline.Proofs.Engine.Placement
import TaskPipeline.Proofs.Service.Serial

/-!
# Inbox capacity

Two operations put tasks into the inbox, and each has counted the inbox before.  The count may be
out of date when the operation commits, but then the store refuses the batch: a batch that was
computed from the whole store is accepted only if the store holds nothing else
(`Shared.get?_of_admits_whole`).  So no commit takes the inbox beyond the capacity
(`Operation.delivers_capacity`), and operations on one shared store that agree on the capacity
keep to it, however their calls are interleaved (`System.inboxCount_le_of_run`).

Tasks that were never written through a commit are allowed here.  They have no version, and a
reader does not notice when one of them goes away; that leaves fewer tasks than were counted.
What must not happen is that a deleted identifier comes back (`NoneReturns`): a task that was counted
outside the inbox can then be inside, with the same version, and the inbox is overfull
(`overfull_of_returning`).
-/

namespace TaskPipeline

namespace Operation

open TaskMap

variable {policy : Policy} {op : Operation} {ambients : Nat → Ambient} {shared : Shared}

/-- **A commit keeps to the capacity of the inbox**, or takes nothing there. -/
theorem delivers_capacity (hargs : op.checkArguments = .ok ()) :
    Delivers policy op ambients (fun _ => True) fun _ tasks tasks' _ =>
      tasks'.inboxCount ≤ max tasks.inboxCount policy.maxInbox := by
  intro n ambient before edited shared hread _ _ hedit _ hadmits
  have hversion := version_of_edit hargs hedit
  rcases (edits_of_edit hedit).inbox hargs with ⟨hscope, hroom⟩ | hkeeps
  · -- the batch leaves nothing in the inbox that the edit has not counted there
    refine Nat.le_trans ?_ (hroom.trans (Nat.le_max_right _ _))
    refine inboxCount_mono fun id hid => ?_
    obtain ⟨t, ht, hinbox⟩ := mem_inbox.mp hid
    rcases Shared.get?_write_of_admits hversion hread hadmits ht with
      ⟨hstored, hwanted⟩ | ⟨u, hu, rfl, -⟩
    · -- what the batch does not touch had been read, and counted
      unfold batch at hadmits
      rw [decide_eq_true hscope] at hadmits
      have hbefore := Shared.get?_of_admits_whole hversion hread hadmits hstored
      obtain ⟨u, hu, hsame⟩ := hwanted t hbefore
      exact mem_inbox.mpr ⟨u, hu, (Task.stage_of_same hsame).symm.trans hinbox⟩
    · rw [stage_versioned] at hinbox
      exact mem_inbox.mpr ⟨u, hu, hinbox⟩
  · -- the edit puts nothing into the inbox, and neither does the batch
    refine Nat.le_trans ?_ (Nat.le_max_left _ _)
    refine inboxCount_mono fun id hid => ?_
    obtain ⟨t, ht, hinbox⟩ := mem_inbox.mp hid
    rcases Shared.get?_write_of_admits hversion hread hadmits ht with
      ⟨hstored, -⟩ | ⟨u, hu, rfl, hstored⟩
    · exact mem_inbox.mpr ⟨t, hstored, hinbox⟩
    · rw [stage_versioned] at hinbox
      obtain ⟨b, hb, hbinbox⟩ := mem_inbox.mp (hkeeps id (mem_inbox.mpr ⟨u, hu, hinbox⟩))
      exact mem_inbox.mpr ⟨b, hstored b hb, hbinbox⟩

end Operation

namespace System

variable {start sys sys' : System} {log : List Write} {capacity : Nat}

/-- An operation keeps to its capacity of the inbox, or takes nothing there. -/
def capacityGoal : Goal := fun policy _ _ _ tasks tasks' _ =>
  tasks'.inboxCount ≤ max tasks.inboxCount policy.maxInbox

theorem Run.upheld_capacity (h : Run start log sys) (hidle : ∀ i, start.sessions i = none)
    (hlog : NoneReturns start.shared.retired log) : sys.Upheld capacityGoal := by
  induction h with
  | nil => exact .of_idle hidle
  | snoc hrun hstep ih =>
    refine (ih hlog.of_append).step (fun policy op ambients => ?_) (hrun.isNew hlog) hstep
    exact Operation.upholds_script_of (p := fun _ => True) (fun _ _ _ _ _ => trivial)
      Operation.delivers_capacity fun _ _ _ _ _ h => h

/-- **Inbox capacity under interleaving.**  If the tasks in the inbox are within the capacity at the
start, everything that is written is written by operations with this capacity, and no identifier of a
deleted task is used again, then they are within the capacity after every commit, and so in every state
that is reached. -/
theorem inboxCount_le_of_run (hstart : start.shared.tasks.inboxCount ≤ capacity)
    (hidle : ∀ i, start.sessions i = none) (hrun : Run start log sys)
    (hops : ∀ w ∈ log, ∃ i s, w = .operation i s ∧ s.policy.maxInbox = capacity)
    (hlog : NoneReturns start.shared.retired log) :
    sys.shared.tasks.inboxCount ≤ capacity := by
  induction hrun with
  | nil => exact hstart
  | @snoc log sys sys' w hrun hstep ih =>
    have hsys := ih (fun w hw => hops w (List.mem_append_left _ hw)) hlog.of_append
    cases w with
    | none =>
      rw [hstep.shared_eq]
      exact hsys
    | some w =>
      obtain ⟨i, s, rfl, hcapacity⟩ := hops w (List.mem_append_right _ List.mem_cons_self)
      obtain ⟨_, -, hle⟩ := (hrun.upheld_capacity hidle hlog.of_append).result (hrun.isNew hlog) hstep
      unfold capacityGoal at hle
      rw [hcapacity] at hle
      omega

end System

namespace Sample

/-- Settings with room for one task in the inbox. -/
def narrow : Policy := { Policy.default with maxInbox := 1 }

/-- Two operations that each create a task, with room for one of them. -/
def crowding : System :=
  (idle.put 0 (some (.begin narrow (.add "first" "" user) fun _ => ambient first))).put 1
    (some (.begin narrow (.add "second" "" user) fun _ => ambient second))

/-- Both count an empty inbox, the second commits, the first is refused and counts again. -/
def crowded : List Write × System := (crowding.schedule [0, 1, 1, 0, 0]).get rfl

theorem run_crowded : idle.Run crowded.1 crowded.2 := by
  have hcrowding : idle.Run [] crowding :=
    .snoc (.snoc .nil (.begin 0 _ _ _ rfl)) (.begin 1 _ _ _ rfl)
  exact System.run_of_schedule hcrowding
    (Option.some_get (x := crowding.schedule [0, 1, 1, 0, 0]) rfl).symm

end Sample

/-- Of two operations that create tasks at the same time, only one finds room. -/
theorem inboxCount_le_of_crowding :
    Sample.crowded.2.shared.tasks.inboxCount ≤ 1 ∧
      Sample.crowded.2.shared.tasks.ids = [Sample.second] := by
  have hstart : Sample.idle.shared.tasks.inboxCount ≤ 1 := by decide
  have hlog : NoneReturns [] Sample.crowded.1 := ⟨by simp, by decide⟩
  refine ⟨System.inboxCount_le_of_run hstart (fun _ => rfl) Sample.run_crowded (fun w hw => ?_) hlog,
    rfl⟩
  obtain rfl := List.mem_singleton.mp hw
  exact ⟨_, _, rfl, rfl⟩

namespace Sample

/-- A task in staging, and nobody to use the store. -/
def staged : System :=
  ⟨⟨.ofList [{ Task.create first "first" "" user (.midnight .epoch) with
    stage := .staging, version := 1 }], []⟩, fun _ => none⟩

/-- A task is to be created.  Meanwhile another one is created, the first task is folded into it, and it
is split into one part, which gets the identifier that has become free. -/
def returning : System :=
  (((staged.put 0 (some (.begin narrow (.add "late" "" user) fun _ => ambient third))).put 1
    (some (.begin narrow (.add "second" "" user) fun _ => ambient second))).put 2
    (some (.begin narrow (.merge first second) fun _ => ambient first))).put 3
    (some (.begin narrow (.split second ["again"] [""]) fun _ => ambient first))

/-- The room in the inbox that the writer goes by, if it is an operation. -/
def room? : Write → Option Nat
  | .operation _ s => some s.policy.maxInbox
  | .batch _ => none

/-- The store is read with the first task in staging.  When that is committed, the part stands in its
place, in the inbox and with the same version.  All of them have room for one task. -/
theorem schedule_returning : ∃ log sys,
    returning.schedule [0, 1, 1, 2, 2, 3, 3, 0] = some (log, sys) ∧
      (∀ w ∈ log, ∃ i s, w = .operation i s ∧ s.policy.maxInbox = 1) ∧
      sys.shared.tasks.inboxCount = 2 := by
  have hview : (returning.schedule [0, 1, 1, 2, 2, 3, 3, 0]).map (fun reached =>
      (reached.1.all (room? · == some 1), reached.2.shared.tasks.inboxCount)) = some (true, 2) := by
    cbv
  obtain ⟨⟨log, sys⟩, hschedule, heq⟩ := Option.map_eq_some_iff.mp hview
  injection heq with hrooms hcount
  refine ⟨log, sys, hschedule, fun w hw => ?_, hcount⟩
  have hroom : room? w = some 1 := eq_of_beq (List.all_eq_true.mp hrooms w hw)
  cases w with
  | operation i s => exact ⟨i, s, rfl, Option.some.inj hroom⟩
  | batch changes => cases hroom

end Sample

/-- **The inbox is overfull if an identifier comes back.**  All writers are operations with room for one
task in the inbox, which is empty at the start; in the end two tasks are in it. -/
theorem overfull_of_returning : ∃ start sys log, System.Run start log sys ∧
    start.shared.tasks.inboxCount ≤ 1 ∧ (∀ i, start.sessions i = none) ∧
    (∀ w ∈ log, ∃ i s, w = .operation i s ∧ s.policy.maxInbox = 1) ∧
    sys.shared.tasks.inboxCount = 2 := by
  have hreturning : Sample.staged.Run [] Sample.returning :=
    .snoc (.snoc (.snoc (.snoc .nil (.begin 0 _ _ _ rfl)) (.begin 1 _ _ _ rfl))
      (.begin 2 _ _ _ rfl)) (.begin 3 _ _ _ rfl)
  obtain ⟨log, sys, hschedule, hrooms, hcount⟩ := Sample.schedule_returning
  exact ⟨Sample.staged, sys, log, System.run_of_schedule hreturning hschedule, by decide,
    fun _ => rfl, hrooms, hcount⟩

end TaskPipeline
