import TaskPipeline.Proofs.Engine.Placement
import TaskPipeline.Proofs.Service.Serial

/-!
# Starting behind what is done

The start of a task reads the task and then its inflows, at different times, and others may write in
between.  Since an operation that commits does what it does alone (`System.Inv.alone`), the store
right before the commit held what was read: the task with these inflows, and the inflows completed.
No other operation puts a task to work (`Operation.Performed.started`).
-/

namespace TaskPipeline

namespace Operation

variable {policy : Policy} {op : Operation} {ambient : Ambient} {store before store' : TaskMap}
  {edited committed : Edited} {id : TaskId} {t' : Task}

/-- **Only a start puts a task to work**, and only if the task waits for nothing. -/
theorem Performed.started (h : Performed policy op ambient store before edited committed store')
    (hargs : op.checkArguments = .ok ()) (ht' : store'.get? id = some t')
    (hactive : t'.stage = .active) (hidle : ∀ t, store.get? id = some t → t.stage ≠ .active) :
    op = .start id ∧ ∃ t, store.get? id = some t ∧ (t.stage = .pending ∨ t.stage = .staging) ∧
      ∀ inflow ∈ t.inflows.ids, ∃ p, store.get? inflow = some p ∧ p.status = .completed := by
  have hid := TaskMap.id_of_get? ht'
  rcases h.origin hargs ht' with hstored | ⟨u, v, horigin, rfl⟩
  · exact absurd hactive (hidle t' hstored)
  · have huid : u.id = id := hid
    have hu : u.stage = .active := hactive
    -- the ways to get into a stage; only a start leads to work
    cases horigin.placed with
    | stays ht hstage =>
      rw [huid] at ht
      exact absurd (hstage ▸ hu) (hidle _ (h.upToDate id _ ht))
    | moved hstage => simp [hu] at hstage
    | @started t _ ht hcan hinflows _ =>
      rw [huid] at ht
      refine ⟨by rw [huid], t, h.upToDate id t ht, (Task.canStart_eq_ok_iff.mp hcan).1, ?_⟩
      intro inflow hinflow
      obtain ⟨p, hp, hcompleted⟩ := Task.checkInflows_eq_ok_iff.mp hinflows inflow hinflow
      exact ⟨p, h.upToDate inflow p hp, hcompleted⟩
    | added hstage => simp [hu] at hstage
    | part _ hcheck hstage =>
      exact absurd (hstage ▸ hu) (TaskMap.checkSplit_eq_ok_iff.mp hcheck).1

end Operation

namespace System

variable {start sys sys' : System} {log : List Write} {i : Nat} {s : Session} {id : TaskId}
  {t' : Task}

/-- **No start behind an unfinished dependency.**  If no identifier of a deleted task is used again and a
commit puts a task to work, then the operation is the start of this task, the task was pending or in
staging, and right before the commit all its inflows were there and completed. -/
theorem started_behind_completed (hv : start.shared.Versioned)
    (hidle : ∀ i, start.sessions i = none) (hrun : Run start log sys)
    (hlog : NoneReturns start.shared.retired (log ++ [.operation i s]))
    (hstep : sys.Step (some (.operation i s)) sys') (ht' : sys'.shared.tasks.get? id = some t')
    (hactive : t'.stage = .active)
    (hbefore : ∀ t, sys.shared.tasks.get? id = some t → t.stage ≠ .active) :
    s.op = .start id ∧ ∃ t, sys.shared.tasks.get? id = some t ∧
      (t.stage = .pending ∨ t.stage = .staging) ∧
      ∀ inflow ∈ t.inflows.ids, ∃ p, sys.shared.tasks.get? inflow = some p ∧
        p.status = .completed := by
  rcases (hrun.inv hv hidle hlog.of_append).performed (hrun.isNew hlog) hstep with
    hsame | ⟨n, before, edited, committed, hargs, hperformed⟩
  · rw [hsame] at ht'
    exact absurd hactive (hbefore t' ht')
  · exact hperformed.started hargs ht' hactive hbefore

end System

namespace Sample

/-- A completed task, and one in staging that depends on it. -/
def ready : System :=
  ⟨⟨.ofList [
    { Task.create first "first" "" user (.midnight .epoch) with
      stage := .archived, status := .completed, outflows := ⟨[second]⟩, version := 1 },
    { Task.create second "second" "" user (.midnight .epoch) with
      stage := .staging, inflows := ⟨[first]⟩, version := 1 }], []⟩, fun _ => none⟩

theorem versioned_ready : ready.shared.Versioned := by
  intro id t ht
  have hall : ∀ t ∈ ready.shared.tasks.toList, 1 ≤ t.version := by decide
  exact hall t (TaskMap.mem_of_get? ht)

/-- The second task is to be started, while the first gets a due time. -/
def starting : System :=
  (ready.put 0 (some (.begin .default (.start second) fun _ => ambient first))).put 1
    (some (.begin .default (.setDue first (some (.midnight .epoch))) fun _ => ambient first))

/-- The due time is written after the second task was read, and before the first one is. -/
def started : List Write × System := (starting.schedule [0, 1, 1, 0]).get rfl

theorem run_started : ready.Run started.1 started.2 := by
  have hstarting : ready.Run [] starting :=
    .snoc (.snoc .nil (.begin 0 _ _ _ rfl)) (.begin 1 _ _ _ rfl)
  exact System.run_of_schedule hstarting
    (Option.some_get (x := starting.schedule [0, 1, 1, 0]) rfl).symm

end Sample

/-- A task is started while another operation writes the completed task that it depends on. -/
theorem started_behind_completed_of_run : ∃ s sys' t t',
    Sample.started.2.Step (some (.operation 0 s)) sys' ∧
      Sample.started.2.shared.tasks.get? Sample.second = some t ∧ t.stage = .staging ∧
      sys'.shared.tasks.get? Sample.second = some t' ∧ t'.stage = .active ∧ s.op = .start Sample.second ∧
      ∀ inflow ∈ t.inflows.ids, ∃ p, Sample.started.2.shared.tasks.get? inflow = some p ∧
        p.status = .completed := by
  obtain ⟨s, sys', t, t', hadvance, ht, hstage, ht', hactive, hlog⟩ : ∃ s sys' t t',
      Sample.started.2.advance 0 = some (some (.operation 0 s), sys') ∧
        Sample.started.2.shared.tasks.get? Sample.second = some t ∧ t.stage = .staging ∧
        sys'.shared.tasks.get? Sample.second = some t' ∧ t'.stage = .active ∧
        NoneReturns [] (Sample.started.1 ++ [.operation 0 s]) :=
    ⟨_, _, _, _, rfl, rfl, rfl, rfl, rfl, by simp, by decide⟩
  have hstep := System.step_of_advance hadvance
  have hbefore : ∀ u, Sample.started.2.shared.tasks.get? Sample.second = some u →
      u.stage ≠ .active := by
    intro u hu
    rw [ht] at hu
    cases hu
    rw [hstage]
    decide
  obtain ⟨hop, u, hu, -, hinflows⟩ := System.started_behind_completed Sample.versioned_ready
    (fun _ => rfl) Sample.run_started hlog hstep ht' hactive hbefore
  rw [ht] at hu
  cases hu
  exact ⟨s, sys', t, t', hstep, ht, hstage, ht', hactive, hop, hinflows⟩

end TaskPipeline
