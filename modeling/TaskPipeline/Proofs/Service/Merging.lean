import TaskPipeline.Proofs.Graph.Detour
import TaskPipeline.Proofs.Graph.Integrity
import TaskPipeline.Proofs.Service.Turn

/-!
# Merging is contraction

A merge of two tasks at one place looks for a cycle only through the task that remains.  That is
enough: it answers that there is a cycle exactly if a path of two or more edges joins the two tasks,
and otherwise the graph afterwards is the contraction of the graph before, which has no cycle
anywhere (`merge_cycle_iff`).
-/

namespace TaskPipeline

open Operation Turn

variable {tasks : TaskMap} {source target : TaskId} {s t : Task}

namespace TaskMap

variable {now : Instant} {collision : TagCollision}

/-- A merge of two tasks at one place contracts the graph unless that closes a cycle. -/
theorem merged_eq (hs : tasks.get? source = some s) (ht : tasks.get? target = some t)
    (hplace : s.location = t.location) :
    tasks.merged source target now collision =
      if Graph.hasCycleThrough
          (Graph.rename (tasks.absorbed source (t.absorb s now collision)) source target now) target
      then .error (.cycle source target)
      else .ok (Graph.rename (tasks.absorbed source (t.absorb s now collision)) source target now) := by
  have hchain : s.sameChain t = true := beq_iff_eq.mpr hplace
  unfold merged
  rw [demand_eq_ok_iff.mpr hs, demand_eq_ok_iff.mpr ht]
  show (if (!s.sameChain t) = true then _ else _) = _
  rw [if_neg (by rw [hchain]; exact Bool.false_ne_true)]
  rfl

/-- **When a merge answers that there is a cycle**: if a path of two or more edges joins the two
tasks.  Otherwise it contracts the graph. -/
theorem merged_of_detour (hwf : Graph.WellFormed tasks) (hne : source ≠ target)
    (hs : tasks.get? source = some s) (ht : tasks.get? target = some t)
    (hplace : s.location = t.location) :
    (Graph.Detour tasks source target ∨ Graph.Detour tasks target source →
      tasks.merged source target now collision = .error (.cycle source target)) ∧
    (¬ (Graph.Detour tasks source target ∨ Graph.Detour tasks target source) →
      tasks.merged source target now collision =
        .ok (Graph.rename (tasks.absorbed source (t.absorb s now collision)) source target now)) := by
  have hfolds : Graph.Folds tasks (tasks.absorbed source (t.absorb s now collision)) source target :=
    folds_merge hwf.sound hs ht hne.symm
  have hcycle : Graph.hasCycleThrough
      (Graph.rename (tasks.absorbed source (t.absorb s now collision)) source target now) target =
        true ↔ Graph.Detour tasks source target ∨ Graph.Detour tasks target source :=
    (Graph.hasCycleThrough_iff target).trans (hfolds.closes_iff hwf.sound (hwf.onceAtMost source))
  rw [merged_eq hs ht hplace]
  exact ⟨fun hdetour => if_pos (hcycle.mpr hdetour), fun hno => if_neg fun h => hno (hcycle.mp h)⟩

/-- Only the task that is folded in goes away. -/
theorem has_contracted (ht : tasks.get? target = some t) (hne : source ≠ target) (id : TaskId) :
    (Graph.rename (tasks.absorbed source (t.absorb s now collision)) source target now).has id =
      (tasks.has id && id ≠ source) := by
  have htid : (t.absorb s now collision).id = target := show t.id = target from id_of_get? ht
  rw [has_eq_isSome, Graph.get?_rename, Option.isSome_map, get?_absorbed, htid, has_eq_isSome]
  by_cases hids : source = id
  · simp [hids]
  · by_cases hidt : target = id
    · simp [← hidt, ht, hne, hne.symm]
    · simp [hids, hidt, Ne.symm hids]

end TaskMap

/-- **A merge is a contraction, and its check for cycles is exact.**  Two different tasks of a
well-formed graph that stand at one place are to be merged, in time and with a store that does not
fail.  The merge answers that there is a cycle iff a path of two or more edges joins them in one
direction or the other; an error is this one and changes nothing.  Without such a path it succeeds:
the edges afterwards are those before, redirected to the task that remains, without loops; only the
source is gone; and the graph is well-formed, so that there is no cycle anywhere. -/
theorem merge_cycle_iff (turn : Turn) (hop : turn.op = .merge source target)
    (hundisturbed : turn.Undisturbed) (hwf : Graph.WellFormed tasks) (hne : source ≠ target)
    (hs : tasks.get? source = some s) (ht : tasks.get? target = some t)
    (hplace : s.location = t.location) :
    ((∃ x y, turn.outcome tasks = .error (.cycle x y)) ↔
      Graph.Detour tasks source target ∨ Graph.Detour tasks target source) ∧
    (∀ e, turn.outcome tasks = .error e → e = .cycle source target ∧ turn.after tasks = tasks) ∧
    (¬ (Graph.Detour tasks source target ∨ Graph.Detour tasks target source) →
      (∃ r, turn.outcome tasks = .ok r) ∧
      (∀ x y, Graph.Edge (turn.after tasks) x y ↔ x ≠ y ∧ ∃ x₀ y₀, Graph.Edge tasks x₀ y₀ ∧
        Graph.redirect source target x₀ = x ∧ Graph.redirect source target y₀ = y) ∧
      (∀ id, (turn.after tasks).has id = true ↔ tasks.has id = true ∧ id ≠ source) ∧
      Graph.WellFormed (turn.after tasks)) := by
  have hadd : ∀ name description owner, turn.op ≠ .add name description owner := by
    rw [hop]
    exact nofun
  have hargs : turn.op.checkArguments = .ok () := by
    rw [hop]
    exact if_neg hne
  have hscope : turn.op.scope = .whole := by rw [hop]; rfl
  have hedit : turn.op.edit turn.setup.policy (turn.ambients 0) tasks =
      (tasks.merged source target ((turn.ambients 0).now 0) turn.setup.policy.tagCollision).map
        fun tasks => (tasks, [target]) := by
    rw [hop]
    rfl
  obtain ⟨hclosed, hopen⟩ := TaskMap.merged_of_detour hwf hne hs ht hplace
  by_cases hdetour : Graph.Detour tasks source target ∨ Graph.Detour tasks target source
  · rw [hclosed hdetour] at hedit
    obtain ⟨houtcome, hafter⟩ := outcome_of_edit_error hundisturbed hadd hargs hscope hedit
    refine ⟨iff_of_true ⟨source, target, houtcome⟩ hdetour, fun e he => ?_, absurd hdetour⟩
    rw [houtcome] at he
    injection he with he
    exact ⟨he.symm, hafter⟩
  · rw [hopen hdetour] at hedit
    obtain ⟨committed, hp, houtcome⟩ :=
      performed_of_creates_none hundisturbed hadd hargs hscope hedit (by rw [hop]; rfl)
    obtain ⟨r, hr⟩ := exists_outcome_of_merge hop hargs hp houtcome
    have hno : ∀ e, turn.outcome tasks ≠ .error e := by
      intro e he
      rw [hr] at he
      cases he
    refine ⟨iff_of_false (fun ⟨x, y, he⟩ => hno _ he) hdetour, fun e he => absurd he (hno e),
      fun _ => ⟨⟨r, hr⟩, fun x y => ?_, fun id => ?_, turn.wellFormed hwf⟩⟩
    · -- the edges are those of the edited tasks, which are the contraction
      unfold Graph.Edge
      rw [(hp.flows_of_whole hscope x).2]
      exact (TaskMap.folds_merge hwf.sound hs ht hne.symm).mem_outflowsOf hwf.sound
        (hwf.onceAtMost source) x y
    · rw [hp.has_of_whole hscope, TaskMap.has_contracted ht hne, Bool.and_eq_true, decide_eq_true_iff]

namespace Sample

/-- Three tasks with all edges that go forward in the order third, first, second. -/
def triangle : TaskMap :=
  .ofList [
    { Task.create first "first" "" user (.midnight .epoch) with
      inflows := ⟨[third]⟩, outflows := ⟨[second]⟩ },
    { Task.create second "second" "" user (.midnight .epoch) with inflows := ⟨[third, first]⟩ },
    { Task.create third "third" "" user (.midnight .epoch) with outflows := ⟨[first, second]⟩ }]

theorem wellFormed_triangle : Graph.WellFormed triangle :=
  Graph.wellFormed_of_violations (by cbv) (by decide)

end Sample

/-- The first of three tasks is folded into the second, which it has an edge to and shares a
neighbour with; the third keeps an edge to it.  The third cannot be folded into the second, because a
path leads from the one to the other through the first. -/
theorem contracted_by_merging :
    Graph.Edge (Sample.merging.after Sample.triangle) Sample.third Sample.second ∧
    Graph.WellFormed (Sample.merging.after Sample.triangle) ∧
      (Graph.Detour Sample.triangle Sample.third Sample.second ∨
        Graph.Detour Sample.triangle Sample.second Sample.third) := by
  obtain ⟨s, hs, hsplace⟩ : ∃ s, Sample.triangle.get? Sample.first = some s ∧ s.location = [] :=
    ⟨_, rfl, rfl⟩
  obtain ⟨t, ht, htplace⟩ : ∃ t, Sample.triangle.get? Sample.second = some t ∧ t.location = [] :=
    ⟨_, rfl, rfl⟩
  obtain ⟨u, hu, huplace⟩ : ∃ u, Sample.triangle.get? Sample.third = some u ∧ u.location = [] :=
    ⟨_, rfl, rfl⟩
  have hplain : ∀ op, (Turn.plain (Sample.ambient Sample.first) op).Undisturbed :=
    fun _ => ⟨rfl, fun _ _ => rfl⟩
  obtain ⟨hfold, -, hcontract⟩ := merge_cycle_iff Sample.merging rfl (hplain _)
    Sample.wellFormed_triangle (by decide) hs ht (hsplace.trans htplace.symm)
  obtain ⟨hcycle, -, -⟩ := merge_cycle_iff
    (.plain (Sample.ambient Sample.first) (.merge Sample.third Sample.second)) rfl (hplain _)
    Sample.wellFormed_triangle (by decide) hu ht (huplace.trans htplace.symm)
  obtain ⟨r, hr⟩ : ∃ r, Sample.merging.outcome Sample.triangle = .ok r := isOk_iff.mp (by cbv)
  have hno : ¬ ∃ x y, Sample.merging.outcome Sample.triangle = .error (.cycle x y) := by
    rintro ⟨x, y, he⟩
    rw [hr] at he
    cases he
  obtain ⟨-, hedges, -, hwf⟩ := hcontract (hfold.not.mp hno)
  refine ⟨(hedges Sample.third Sample.second).mpr
    ⟨by decide, Sample.third, Sample.first, ?_, rfl, rfl⟩, hwf,
    hcycle.mp ⟨Sample.third, Sample.second, ?_⟩⟩
  · show Sample.first ∈ Graph.outflowsOf Sample.triangle Sample.third
    have hout : Graph.outflowsOf Sample.triangle Sample.third = [Sample.first, Sample.second] := by cbv
    rw [hout]
    exact List.mem_cons_self
  · cbv

end TaskPipeline
