import TaskPipeline.Proofs.Engine.Edit
import TaskPipeline.Proofs.Task.Transition

/-!
# The graph after a split

A split puts a chain of new tasks in the place of a task (`Graph.Splits`).  It never fails with a
cycle: a part has no outflows before it is linked to, so it is nobody's ancestor, and the check of the
next link finds nothing (`TaskMap.exists_chained`).

For the other tasks a split is a renaming.  The inflows of a task that was there are sent to the inflows
that it has now, and so are its ancestors (`Graph.transGen_image`); hence a split neither makes nor
breaks a dependency between two other tasks (`Graph.Splits.isAncestor_eq`), and the first part has the
ancestors of the task (`Graph.Splits.isAncestor_first`).
-/

namespace TaskPipeline

open Relation

namespace TaskMap

variable {tasks tasks' tasks₁ : TaskMap} {now : Instant} {f : Nat → TaskId} {n : Nat}

/-! ### Linking new tasks into a chain -/

theorem linkedAll_append {pairs : List (TaskId × TaskId)} (more : List (TaskId × TaskId))
    (h : linkedAll now tasks pairs = .ok tasks₁) :
    linkedAll now tasks (pairs ++ more) = linkedAll now tasks₁ more := by
  induction pairs generalizing tasks with
  | nil =>
    obtain rfl : tasks = tasks₁ := Except.ok.inj h
    rfl
  | cons e rest ih =>
    obtain ⟨source, target⟩ := e
    rw [List.cons_append, linkedAll]
    rw [linkedAll] at h
    cases he : linked tasks source target now with
    | error e =>
      rw [he] at h
      cases h
    | ok tasks₂ =>
      rw [he] at h
      exact ih h

/-- Each of the tasks `f 0`, …, `f n` was linked to the next one, and nothing else. -/
structure Chained (f : Nat → TaskId) (n : Nat) (tasks tasks' : TaskMap) : Prop where
  sound : Graph.Sound tasks'
  has_eq : ∀ x, tasks'.has x = tasks.has x
  outflows : ∀ i < n, Graph.outflowsOf tasks' (f i) = Graph.outflowsOf tasks (f i) ++ [f (i + 1)]
  outflows_of_ne : ∀ x, (∀ i < n, x ≠ f i) → Graph.outflowsOf tasks' x = Graph.outflowsOf tasks x
  inflows : ∀ i < n, Graph.inflowsOf tasks' (f (i + 1)) = [f i]
  inflows_of_ne : ∀ x, (∀ i < n, x ≠ f (i + 1)) →
    Graph.inflowsOf tasks' x = Graph.inflowsOf tasks x

/-- **The chain grows by a task that has no neighbours yet.** -/
theorem Chained.snoc (h : Chained f n tasks tasks') (hhas : ∀ i ≤ n + 1, tasks.has (f i) = true)
    (hinj : ∀ i ≤ n + 1, ∀ j ≤ n + 1, f i = f j → i = j)
    (hin : Graph.inflowsOf tasks (f (n + 1)) = []) (hout : Graph.outflowsOf tasks (f (n + 1)) = []) :
    linked tasks' (f n) (f (n + 1)) now = .ok (Graph.addEdge tasks' (f n) (f (n + 1)) now) ∧
      Chained f (n + 1) tasks (Graph.addEdge tasks' (f n) (f (n + 1)) now) := by
  have hne : ∀ i ≤ n + 1, ∀ j ≤ n + 1, i ≠ j → f i ≠ f j := fun i hi j hj hij heq =>
    hij (hinj i hi j hj heq)
  -- nothing has been linked to the new task yet, nor it to anything
  have hin' : Graph.inflowsOf tasks' (f (n + 1)) = [] := by
    rw [h.inflows_of_ne _ fun i hi => hne _ (by omega) _ (by omega) (by omega), hin]
  have hout' : Graph.outflowsOf tasks' (f (n + 1)) = [] := by
    rw [h.outflows_of_ne _ fun i hi => hne _ (by omega) _ (by omega) (by omega), hout]
  have hlast : Graph.outflowsOf tasks' (f n) = Graph.outflowsOf tasks (f n) :=
    h.outflows_of_ne _ fun i hi => hne _ (by omega) _ (by omega) (by omega)
  have hnew : f (n + 1) ∉ Graph.outflowsOf tasks' (f n) := by
    rw [h.sound.mem_outflows_iff, hin']
    exact List.not_mem_nil
  have hadd : ((Flows.mk (Graph.outflowsOf tasks' (f n))).add (f (n + 1))).ids =
      Graph.outflowsOf tasks' (f n) ++ [f (n + 1)] := Flows.ids_add_of_not_mem hnew
  have hadd' : ((Flows.mk (Graph.inflowsOf tasks' (f (n + 1)))).add (f n)).ids = [f n] := by
    rw [hin']
    exact Flows.ids_add_of_not_mem List.not_mem_nil
  have hsource : tasks'.has (f n) = true := by rw [h.has_eq, hhas n (by omega)]
  have htarget : tasks'.has (f (n + 1)) = true := by rw [h.has_eq, hhas (n + 1) (by omega)]
  have hdiff : f n ≠ f (n + 1) := hne n (by omega) (n + 1) (by omega) (by omega)
  have hcheck : Graph.checkEdge tasks' (f n) (f (n + 1)) = .ok () :=
    Graph.checkEdge_eq_ok_iff.mpr
      ⟨hdiff, hsource, htarget, h.sound.isAncestor_of_outflows_nil hout' (f n)⟩
  have hnoEdge : Graph.hasEdge tasks' (f n) (f (n + 1)) = false := by
    rw [Bool.eq_false_iff, Ne, Graph.hasEdge_iff]
    exact fun hedge => hnew hedge.1
  refine ⟨linked_eq_ok_iff.mpr (Graph.link_eq_ok_iff.mpr (.inr ⟨hnoEdge, hcheck, rfl⟩)),
    h.sound.addEdge hcheck, fun x => ?_, fun i hi => ?_, fun x hx => ?_, fun i hi => ?_,
    fun x hx => ?_⟩
  · rw [(Graph.rewires_addEdge _ _ _ _).has_eq, h.has_eq]
  · rw [Graph.outflowsOf_addEdge hsource]
    by_cases hi' : i = n
    · rw [hi', if_pos rfl, hadd, hlast]
    · rw [if_neg (hne i (by omega) n (by omega) hi'), h.outflows i (by omega)]
  · rw [Graph.outflowsOf_addEdge hsource, if_neg (hx n (by omega)),
      h.outflows_of_ne x fun i hi => hx i (by omega)]
  · rw [Graph.inflowsOf_addEdge hdiff htarget]
    by_cases hi' : i = n
    · rw [hi', if_pos rfl, hadd']
    · rw [if_neg (hne (i + 1) (by omega) (n + 1) (by omega) (by omega)), h.inflows i (by omega)]
  · rw [Graph.inflowsOf_addEdge hdiff htarget, if_neg (hx n (by omega)),
      h.inflows_of_ne x fun i hi => hx i (by omega)]

/-- **Tasks without neighbours can be linked into a chain** behind any task. -/
theorem exists_chained (now : Instant) (hs : Graph.Sound tasks) (hhas : ∀ i ≤ n, tasks.has (f i) = true)
    (hinj : ∀ i ≤ n, ∀ j ≤ n, f i = f j → i = j)
    (hin : ∀ i < n, Graph.inflowsOf tasks (f (i + 1)) = [])
    (hout : ∀ i < n, Graph.outflowsOf tasks (f (i + 1)) = []) :
    ∃ tasks', linkedAll now tasks ((List.range n).map fun i => (f i, f (i + 1))) = .ok tasks' ∧
      Chained f n tasks tasks' := by
  induction n with
  | zero => exact ⟨tasks, rfl, hs, fun _ => rfl, nofun, fun _ _ => rfl, nofun, fun _ _ => rfl⟩
  | succ n ih =>
    obtain ⟨tasks₁, hlinked, hchained⟩ := ih (fun i hi => hhas i (by omega))
      (fun i hi j hj => hinj i (by omega) j (by omega)) (fun i hi => hin i (by omega))
      (fun i hi => hout i (by omega))
    obtain ⟨hlink, hlonger⟩ := hchained.snoc hhas hinj (hin n (by omega)) (hout n (by omega))
    refine ⟨_, ?_, hlonger⟩
    rw [List.range_succ, List.map_append, linkedAll_append _ hlinked, List.map_singleton, linkedAll,
      hlink]
    rfl

end TaskMap

namespace Graph

/-! ### Renaming a task to a new one -/

section Renaming

variable {tasks tasks' : TaskMap} {old new owner : TaskId} {ids : List TaskId} {flows : Flows}
  {lists taken : TaskId → List TaskId}

theorem map_redirect_of_not_mem (h : old ∉ ids) : ids.map (redirect old new) = ids := by
  have hsame : ∀ id ∈ ids, redirect old new id = id := by
    intro id hid
    refine if_neg ?_
    rintro rfl
    exact h hid
  rw [List.map_congr_left hsame]
  exact List.map_id' ids

/-- An identifier that is new to a list takes the place of the one that it replaces. -/
theorem ids_replace_eq_map (hnd : flows.ids.Nodup) (hnew : new ∉ flows.ids) (howner : new ≠ owner) :
    (flows.replace old new owner).ids = flows.ids.map (redirect old new) := by
  by_cases hold : old ∈ flows.ids
  · obtain ⟨l₁, l₂, heq, hl₁, ⟨hdrop, -⟩ | ⟨-, hreplaced⟩⟩ :=
      Flows.ids_replace_of_mem hold new owner
    · exact absurd hdrop (not_or.mpr ⟨howner, hnew⟩)
    · have hl₂ : old ∉ l₂ := by
        rw [heq, List.nodup_middle, List.nodup_cons, List.mem_append, not_or] at hnd
        exact hnd.1.2
      rw [hreplaced, heq, List.map_append, List.map_cons, map_redirect_of_not_mem hl₁,
        map_redirect_of_not_mem hl₂, redirect, if_pos rfl]
  · rw [Flows.replace_of_not_mem hold, map_redirect_of_not_mem hold]

/-- The lists of the other tasks after a renaming to a task that they do not know. -/
theorem TakenOver.ids_other (h : TakenOver lists taken old new) {x : TaskId} (hold : x ≠ old)
    (hx : x ≠ new) (hnew : new ∉ lists x) :
    ((Flows.mk (taken x)).replace old new x).ids = (lists x).map (redirect old new) := by
  have hnd := h.nodup x
  rw [h.of_ne x hold hx] at hnd ⊢
  exact ids_replace_eq_map hnd hnew hx.symm

/-- On one side of the graph new tasks `f 0`, …, `f n` have taken the place of a task: the first has
its neighbours, the others have none, and the other tasks list the first where they listed the task. -/
structure Replaces (tasks : TaskMap) (lists lists' : TaskId → List TaskId) (old : TaskId)
    (f : Nat → TaskId) (n : Nat) : Prop where
  other : ∀ x, tasks.has x = true → x ≠ old → lists' x = (lists x).map (redirect old (f 0))
  first : lists' (f 0) = lists old
  later : ∀ i < n, lists' (f (i + 1)) = []

/-- **For the other tasks it is a renaming.** -/
theorem TakenOver.replaces {f : Nat → TaskId} {n : Nat} (h : TakenOver lists taken old (f 0))
    (hold : tasks.has old = true) (hirr : old ∉ lists old) (hfirst : taken (f 0) = lists old)
    (hnone : ∀ x, tasks.has x = false → lists x = [])
    (hhas : ∀ x, ∀ y ∈ lists x, tasks.has y = true)
    (hfresh : ∀ i < n + 1, tasks.has (f i) = false)
    (hinj : ∀ i < n + 1, ∀ j < n + 1, f i = f j → i = j) :
    Replaces tasks lists (fun x => ((Flows.mk (taken x)).replace old (f 0) x).ids) old f n := by
  have hne : ∀ x, tasks.has x = true → ∀ i < n + 1, x ≠ f i := fun x hx i hi =>
    TaskMap.ne_of_has hx (hfresh i hi)
  -- nobody knows the first of them yet
  have hother : ∀ x, x ≠ old → x ≠ f 0 →
      ((Flows.mk (taken x)).replace old (f 0) x).ids = (lists x).map (redirect old (f 0)) :=
    fun x hxo hxf => h.ids_other hxo hxf fun hmem => hne _ (hhas x _ hmem) 0 (by omega) rfl
  refine ⟨fun x hx hxo => hother x hxo (hne x hx 0 (by omega)), ?_, fun i hi => ?_⟩
  · have hkept : (Flows.mk (lists old)).replace old (f 0) (f 0) = ⟨lists old⟩ :=
      Flows.replace_of_not_mem hirr
    show ((Flows.mk (taken (f 0))).replace old (f 0) (f 0)).ids = lists old
    rw [hfirst, hkept]
  · have hlater : f (i + 1) ≠ f 0 := fun heq => by
      have hzero := hinj (i + 1) (by omega) 0 (by omega) heq
      omega
    show ((Flows.mk (taken (f (i + 1)))).replace old (f 0) (f (i + 1))).ids = []
    rw [hother _ (hne old hold (i + 1) (by omega)).symm hlater, hnone _ (hfresh (i + 1) (by omega))]
    rfl

/-- A chain from where a node is sent leads exactly to where the chains from the node are sent. -/
theorem transGen_image {α : Type} {r r' : α → α → Prop} {p : α → Prop} {g : α → α}
    (hstep : ∀ a, p a → ∀ b', r' (g a) b' ↔ ∃ b, r a b ∧ g b = b') (hp : ∀ a b, r a b → p b)
    {a b' : α} (ha : p a) : TransGen r' (g a) b' ↔ ∃ b, TransGen r a b ∧ g b = b' := by
  constructor
  · intro h
    induction h with
    | single hb =>
      obtain ⟨b, hab, rfl⟩ := (hstep a ha _).mp hb
      exact ⟨b, .single hab, rfl⟩
    | tail _ hc ih =>
      obtain ⟨b, hab, rfl⟩ := ih
      obtain ⟨d, -, hdb⟩ := TransGen.tail'_iff.mp hab
      obtain ⟨c, hbc, rfl⟩ := (hstep b (hp d b hdb) _).mp hc
      exact ⟨c, hab.tail hbc, rfl⟩
  · rintro ⟨b, hab, rfl⟩
    induction hab with
    | single hb => exact .single ((hstep a ha _).mpr ⟨_, hb, rfl⟩)
    | @tail b c hab hbc ih =>
      obtain ⟨d, -, hdb⟩ := TransGen.tail'_iff.mp hab
      exact ih.tail ((hstep b (hp d b hdb) _).mpr ⟨c, hbc, rfl⟩)

end Renaming

/-! ### A chain in the place of a task -/

/-- The chain `f 0`, …, `f (n - 1)` has taken the place of a task. -/
structure Splits (tasks tasks' : TaskMap) (id : TaskId) (f : Nat → TaskId) (n : Nat) : Prop where
  /-- The task is gone, and the chain is there. -/
  has_iff : ∀ x, tasks'.has x = true ↔ tasks.has x = true ∧ x ≠ id ∨ ∃ i < n, x = f i
  /-- The other tasks list the first of the chain where they listed the task. -/
  inflows_other : ∀ x, tasks.has x = true → x ≠ id →
    inflowsOf tasks' x = (inflowsOf tasks x).map (redirect id (f 0))
  /-- They do so on both sides. -/
  outflows_other : ∀ x, tasks.has x = true → x ≠ id →
    outflowsOf tasks' x = (outflowsOf tasks x).map (redirect id (f 0))
  /-- The first of the chain has the inflows of the task. -/
  inflows_first : inflowsOf tasks' (f 0) = inflowsOf tasks id
  /-- It has the outflows of the task, and then the second of the chain. -/
  outflows_first : outflowsOf tasks' (f 0) = outflowsOf tasks id ++ if 1 < n then [f 1] else []
  /-- The others have the one before them as their inflow. -/
  inflows_later : ∀ i, i + 1 < n → inflowsOf tasks' (f (i + 1)) = [f i]
  /-- They have the one behind them as their outflow, if there is one. -/
  outflows_later : ∀ i, i + 1 < n →
    outflowsOf tasks' (f (i + 1)) = if i + 2 < n then [f (i + 2)] else []

namespace Splits

variable {tasks tasks' : TaskMap} {id x y : TaskId} {f : Nat → TaskId} {n : Nat}
  (h : Splits tasks tasks' id f n) (hwf : WellFormed tasks) (hfirst : tasks.has (f 0) = false)

include h hwf

/-- What the inflows of a stored task are sent to. -/
theorem inflows_redirect (hx : tasks.has x = true) :
    inflowsOf tasks' (redirect id (f 0) x) = (inflowsOf tasks x).map (redirect id (f 0)) := by
  unfold redirect
  split
  · next heq =>
    rw [h.inflows_first, heq]
    exact (map_redirect_of_not_mem (hwf.not_mem_inflows id)).symm
  · next hne => exact h.inflows_other x hx hne

/-- The ancestors of a task are sent to the ancestors of what it is sent to. -/
theorem isAncestor_redirect (hy : tasks.has y = true) :
    isAncestor tasks' x (redirect id (f 0) y) = true ↔
      ∃ x₀, isAncestor tasks x₀ y = true ∧ redirect id (f 0) x₀ = x := by
  simp only [isAncestor_iff]
  refine transGen_image (p := fun z => tasks.has z = true) (fun z hz w => ?_)
    (fun z w hw => hwf.has_inflow z w hw) hy
  rw [h.inflows_redirect hwf hz, List.mem_map]

include hfirst

/-- **A split keeps the order of the others.** -/
theorem isAncestor_eq (hx : tasks.has x = true) (hxid : x ≠ id) (hy : tasks.has y = true)
    (hyid : y ≠ id) : isAncestor tasks' x y = isAncestor tasks x y := by
  have hiff := h.isAncestor_redirect (x := x) hwf hy
  rw [redirect, if_neg hyid] at hiff
  rw [Bool.eq_iff_iff, hiff]
  constructor
  · rintro ⟨x₀, hanc, hx₀⟩
    unfold redirect at hx₀
    split at hx₀
    · exact absurd hx₀.symm (TaskMap.ne_of_has hx hfirst)
    · rwa [hx₀] at hanc
  · exact fun hanc => ⟨x, hanc, if_neg hxid⟩

omit hfirst in
/-- **The first of the chain has the ancestors of the task.** -/
theorem isAncestor_first (hid : tasks.has id = true) (x : TaskId) :
    isAncestor tasks' x (f 0) = isAncestor tasks x id := by
  have hiff := h.isAncestor_redirect (x := x) hwf hid
  rw [redirect, if_pos rfl] at hiff
  have hself : ∀ x₀, isAncestor tasks x₀ id = true → x₀ ≠ id := by
    rintro x₀ hanc rfl
    rw [hwf.sound.not_isAncestor] at hanc
    cases hanc
  rw [Bool.eq_iff_iff, hiff]
  constructor
  · rintro ⟨x₀, hanc, hx₀⟩
    rw [redirect, if_neg (hself x₀ hanc)] at hx₀
    rwa [hx₀] at hanc
  · exact fun hanc => ⟨x, hanc, if_neg (hself x hanc)⟩

end Splits

end Graph

namespace TaskMap

/-! ### The chain of the parts -/

section Parts

variable {tasks : TaskMap} {task first : Task} {rest : List Task} {now : Instant} {f : Nat → TaskId}
  {n : Nat}

theorem has_parted_iff {x : TaskId} : (tasks.parted task first rest).has x = true ↔
    tasks.has x = true ∧ x ≠ task.id ∨ x ∈ (first :: rest).map Task.id := by
  unfold parted
  rw [has_insertAll_iff, has_remove_iff]
  rfl

/-- Each is paired with the one behind it. -/
theorem zip_map_range {α : Type} (f : Nat → α) (n : Nat) :
    ((List.range (n + 1)).map f).zip ((List.range (n + 1)).map f).tail =
      (List.range n).map fun i => (f i, f (i + 1)) := by
  apply List.ext_getElem
  · simp
  · intro i h₁ h₂
    simp

theorem nodup_map_range {α : Type} {f : Nat → α} (hinj : ∀ i < n, ∀ j < n, f i = f j → i = j) :
    ((List.range n).map f).Nodup :=
  List.Nodup.map_on (fun i hi j hj => hinj i (List.mem_range.mp hi) j (List.mem_range.mp hj))
    List.nodup_range

theorem id_first (hids : (first :: rest).map Task.id = (List.range (n + 1)).map f) :
    first.id = f 0 := by
  rw [List.range_succ_eq_map] at hids
  exact List.head_eq_of_cons_eq hids

theorem get?_of_fresh (hids : (first :: rest).map Task.id = (List.range (n + 1)).map f)
    (hfresh : ∀ i < n + 1, tasks.has (f i) = false) :
    ∀ p ∈ first :: rest, tasks.get? p.id = none := by
  intro p hp
  have hmem : p.id ∈ (first :: rest).map Task.id := List.mem_map_of_mem hp
  rw [hids, List.mem_map] at hmem
  obtain ⟨i, hi, hpi⟩ := hmem
  rw [get?_eq_none_iff, ← hpi, hfresh i (List.mem_range.mp hi)]

variable (hwf : Graph.WellFormed tasks) (htask : tasks.get? task.id = some task)
  (hids : (first :: rest).map Task.id = (List.range (n + 1)).map f)
  (hfresh : ∀ i < n + 1, tasks.has (f i) = false)
  (hinj : ∀ i < n + 1, ∀ j < n + 1, f i = f j → i = j)
  (hin : ∀ p ∈ rest, p.inflows = .empty) (hout : ∀ p ∈ rest, p.outflows = .empty)

include hwf htask hids hfresh hinj hin hout

/-- **The parts take the place of the task**, on both sides, before they are linked. -/
theorem replaces_rename (now : Instant) :
    Graph.Sound (Graph.rename (tasks.parted task first rest) task.id (f 0) now) ∧
      Graph.Replaces tasks (Graph.inflowsOf tasks)
        (Graph.inflowsOf (Graph.rename (tasks.parted task first rest) task.id (f 0) now))
        task.id f n ∧
      Graph.Replaces tasks (Graph.outflowsOf tasks)
        (Graph.outflowsOf (Graph.rename (tasks.parted task first rest) task.id (f 0) now))
        task.id f n := by
  have hfirst := id_first hids
  have hnd : ((first :: rest).map Task.id).Nodup := hids ▸ nodup_map_range hinj
  have hnone := get?_of_fresh hids hfresh
  have hcontracts := contracts_split hwf htask hnone hnd hin hout
  have hsound : Graph.Sound (Graph.rename (tasks.parted task first rest) task.id first.id now) :=
    (hwf.contract_of_isolated hcontracts
      (Graph.inflowsOf_of_none (hnone first List.mem_cons_self))
      (Graph.outflowsOf_of_none (hnone first List.mem_cons_self))).sound
  rw [hfirst] at hcontracts hsound
  have hhas : tasks.has task.id = true := has_iff.mpr ⟨task, htask⟩
  refine ⟨hsound, ?_, ?_⟩
  · have hentries : Graph.inflowsOf (tasks.parted task first rest) (f 0) =
        Graph.inflowsOf tasks task.id := hfirst ▸ entries_parted htask hnd rfl
    rw [funext (Graph.inflowsOf_rename hcontracts.gone)]
    exact hcontracts.inflows.replaces hhas (hwf.not_mem_inflows task.id) hentries
      (fun x hx => Graph.inflowsOf_of_none (get?_eq_none_iff.mpr hx)) hwf.has_inflow hfresh hinj
  · have hentries : Graph.outflowsOf (tasks.parted task first rest) (f 0) =
        Graph.outflowsOf tasks task.id := hfirst ▸ entries_parted htask hnd rfl
    rw [funext (Graph.outflowsOf_rename hcontracts.gone)]
    exact hcontracts.outflows.replaces hhas (hwf.not_mem_outflows task.id) hentries
      (fun x hx => Graph.outflowsOf_of_none (get?_eq_none_iff.mpr hx)) hwf.has_outflow hfresh hinj

/-- **A split succeeds**, and puts the chain of the parts in the place of the task. -/
theorem exists_splits (now : Instant) : ∃ tasks', tasks.splitInto task (first :: rest) now = .ok tasks' ∧
    Graph.Splits tasks tasks' task.id f (n + 1) := by
  have hfirst := id_first hids
  obtain ⟨hsound, hinflows, houtflows⟩ :=
    replaces_rename hwf htask hids hfresh hinj hin hout now
  have hhas : ∀ x, (Graph.rename (tasks.parted task first rest) task.id (f 0) now).has x = true ↔
      tasks.has x = true ∧ x ≠ task.id ∨ ∃ i < n + 1, x = f i := by
    intro x
    rw [(Graph.rewires_rename _ _ _ _).has_eq, has_parted_iff, hids, List.mem_map]
    refine or_congr_right ⟨?_, ?_⟩
    · rintro ⟨i, hi, rfl⟩
      exact ⟨i, List.mem_range.mp hi, rfl⟩
    · rintro ⟨i, hi, rfl⟩
      exact ⟨i, List.mem_range.mpr hi, rfl⟩
  obtain ⟨tasks', hlinked, hchained⟩ := exists_chained now hsound
    (fun i hi => (hhas _).mpr (.inr ⟨i, by omega, rfl⟩))
    (fun i hi j hj => hinj i (by omega) j (by omega)) hinflows.later houtflows.later
  have hzip : (first.id :: rest.map Task.id).zip (rest.map Task.id) =
      (List.range n).map fun i => (f i, f (i + 1)) := by
    rw [← zip_map_range, ← hids]
    rfl
  -- a task that was there is no part, so linking leaves it alone
  have hother : ∀ x, tasks.has x = true → ∀ i < n + 1, x ≠ f i := fun x hx i hi =>
    ne_of_has hx (hfresh i hi)
  have hne : ∀ i < n + 1, ∀ j < n + 1, i ≠ j → f i ≠ f j := fun i hi j hj hij heq =>
    hij (hinj i hi j hj heq)
  refine ⟨tasks', by rw [splitInto_cons, hzip, hfirst, hlinked], fun x => ?_, fun x hx hxt => ?_,
    fun x hx hxt => ?_, ?_, ?_, fun i hi => ?_, fun i hi => ?_⟩
  · rw [hchained.has_eq, hhas]
  · rw [hchained.inflows_of_ne x fun i hi => hother x hx (i + 1) (by omega), hinflows.other x hx hxt]
  · rw [hchained.outflows_of_ne x fun i hi => hother x hx i (by omega), houtflows.other x hx hxt]
  · rw [hchained.inflows_of_ne (f 0) fun i hi => hne 0 (by omega) (i + 1) (by omega) (by omega),
      hinflows.first]
  · split
    · rw [hchained.outflows 0 (by omega), houtflows.first]
    · rw [hchained.outflows_of_ne (f 0) fun i hi => by omega, houtflows.first, List.append_nil]
  · exact hchained.inflows i (by omega)
  · split
    · rw [hchained.outflows (i + 1) (by omega), houtflows.later i (by omega)]
      rfl
    · rw [hchained.outflows_of_ne (f (i + 1)) fun j hj =>
        hne (i + 1) (by omega) j (by omega) (by omega), houtflows.later i (by omega)]

end Parts

end TaskMap

namespace Operation

variable {policy : Policy} {ambient : Ambient} {tasks : TaskMap} {task : Task}
  {names descriptions : List String}

/-- A task can be split into parts with these names and descriptions. -/
structure Splittable (policy : Policy) (tasks : TaskMap) (task : Task)
    (names descriptions : List String) : Prop where
  /-- No work on the task is under way. -/
  not_active : task.stage ≠ .active
  /-- The inbox has room for the parts if the task is there. -/
  has_room : task.stage = .inbox →
    TaskMap.inboxCount (tasks.remove task.id) + names.length ≤ policy.maxInbox
  /-- There is at least one part. -/
  names_ne_nil : names ≠ []
  /-- Each part has a name and a description. -/
  length_eq : names.length = descriptions.length
  /-- The names are not blank. -/
  not_blank : ∀ name ∈ names, Text.isBlankText name = false

theorem Splittable.checkArguments (h : Splittable policy tasks task names descriptions) (id : TaskId) :
    (Operation.split id names descriptions).checkArguments = .ok () := by
  have hany : names.any Text.isBlankText = false := by simpa using h.not_blank
  have hempty : names.isEmpty = false := by simpa using h.names_ne_nil
  unfold Operation.checkArguments
  dsimp only
  rw [if_neg (by rw [hempty]; exact Bool.false_ne_true), if_neg (not_not.mpr h.length_eq),
    if_neg (by rw [hany]; exact Bool.false_ne_true)]

/-- The parts have the fresh identifiers in their order. -/
theorem map_id_parts (task : Task) (ambient : Ambient) (h : names.length = descriptions.length) :
    (parts task ambient names descriptions).map Task.id =
      (List.range names.length).map ambient.fresh := by
  have hids : (parts task ambient names descriptions).map Task.id =
      ((names.zip descriptions).zipIdx.map Prod.snd).map ambient.fresh := by
    unfold parts
    rw [List.map_map, List.map_map]
    rfl
  rw [hids, List.zipIdx_map_snd, ← List.range_eq_range', List.length_zip, ← h, Nat.min_self]

/-- **The edit of a split succeeds**, and puts the chain of the parts in the place of the task. -/
theorem edit_split (h : Splittable policy tasks task names descriptions)
    (hwf : Graph.WellFormed tasks) (htask : tasks.get? task.id = some task)
    (hfresh : ∀ i < names.length, tasks.has (ambient.fresh i) = false)
    (hinj : ∀ i < names.length, ∀ j < names.length, ambient.fresh i = ambient.fresh j → i = j) :
    ∃ tasks', (Operation.split task.id names descriptions).edit policy ambient tasks =
        .ok (tasks', (List.range names.length).map ambient.fresh) ∧
      Graph.Splits tasks tasks' task.id ambient.fresh names.length := by
  obtain ⟨n, hn⟩ : ∃ n, names.length = n + 1 :=
    Nat.exists_eq_succ_of_ne_zero (List.length_eq_zero_iff.not.mpr h.names_ne_nil)
  have hids := map_id_parts task ambient h.length_eq
  rw [hn] at hids hfresh hinj ⊢
  have hempty := fun p (hp : p ∈ parts task ambient names descriptions) => parts_spec hp
  cases hparts : parts task ambient names descriptions with
  | nil =>
    rw [hparts] at hids
    simp at hids
  | cons first rest =>
    rw [hparts] at hids hempty
    obtain ⟨tasks', hsplit, hsplits⟩ := TaskMap.exists_splits hwf htask hids hfresh hinj
      (fun p hp => (hempty p (List.mem_cons_of_mem _ hp)).1)
      (fun p hp => (hempty p (List.mem_cons_of_mem _ hp)).2.1) (ambient.now names.length)
    refine ⟨tasks', ?_, hsplits⟩
    have hcheck : tasks.checkSplit task names.length policy.maxInbox = .ok () :=
      TaskMap.checkSplit_eq_ok_iff.mpr ⟨h.not_active, h.has_room⟩
    show editSplit policy task.id names descriptions ambient tasks = _
    unfold editSplit
    rw [TaskMap.demand_eq_ok_iff.mpr htask]
    show (tasks.checkSplit task names.length policy.maxInbox >>= fun _ => _) = _
    rw [hcheck]
    show (tasks.splitInto task (parts task ambient names descriptions) (ambient.now names.length)
      >>= fun _ => _) = _
    rw [hparts, hsplit, ← hids]
    rfl

end Operation

end TaskPipeline
