import TaskPipeline.Proofs.Order.Verdict

/-!
# Counting down

`Order.sort` counts down the open dependencies of a task once for each entry that stands for the task
that is placed.  The subtraction of `State.release` stops at zero, but it never has to: between two
rounds a counter is the number of entries that stand for unplaced tasks (`State.Valid.waiting`), so
those for the task that is placed now are among them, and the counter is not used up before the last
of them (`State.Valid.count_waiters_le`).

A task enters the ready set when its counter reaches zero.  Before that round the counter was not zero,
so the task had not entered yet, and in the round it reaches zero once (`mem_arrivals`).  Those that
have entered are at any time the ready and the placed ones (`mem_entered`).

`countdowns_of_sort` puts this together for a list of tasks, and adds that the loop stops by itself
before the rounds run out.
-/

namespace TaskPipeline.Order

variable {tasks : TaskMap} {s : State} {id p : TaskId}

/-! ### What a round does to the counters -/

/-- A counter is counted down. -/
structure Countdown where
  /-- The task whose counter it is. -/
  id : TaskId
  /-- What the counter says before. -/
  before : Nat
deriving DecidableEq

/-- A number of tasks are released, one after the other. -/
def State.countdowns (s : State) : List TaskId → List Countdown
  | [] => []
  | w :: ws => ⟨w, s.waiting w⟩ :: (s.release w).countdowns ws

/-- The tasks whose counter reaches zero. -/
def arrivals (cs : List Countdown) : List TaskId :=
  (cs.filter fun c => c.before - 1 = 0).map Countdown.id

/-- The counters that a round counts down. -/
def State.countdownsOfRound (tasks : TaskMap) (s : State) : List Countdown :=
  match s.ready with
  | [] => []
  | id :: ready => { s with ready := ready }.countdowns (waiters tasks id)

/-- The state after a number of rounds. -/
def after (tasks : TaskMap) (n : Nat) : State := State.rounds tasks n (.start tasks)

/-- The tasks that have entered the ready set by then, each as often as it has. -/
def entered (tasks : TaskMap) : Nat → List TaskId
  | 0 => (State.start tasks).ready
  | n + 1 => entered tasks n ++ arrivals ((after tasks n).countdownsOfRound tasks)

theorem waiting_release (s : State) (w id : TaskId) :
    (s.release w).waiting id = if id = w then s.waiting w - 1 else s.waiting id := rfl

/-- A counter that covers all entries covers the remaining ones. -/
theorem count_le_waiting_release {w : TaskId} {ws : List TaskId}
    (h : ∀ id, (w :: ws).count id ≤ s.waiting id) (id : TaskId) :
    ws.count id ≤ (s.release w).waiting id := by
  have hid := h id
  rw [waiting_release]
  split
  · next heq =>
    subst heq
    rw [List.count_cons_self] at hid
    omega
  · next hne =>
    rwa [List.count_cons_of_ne (Ne.symm hne)] at hid

/-- **No counter is counted down at zero** if each covers the entries of its task. -/
theorem one_le_before {ws : List TaskId} (h : ∀ id, ws.count id ≤ s.waiting id) :
    ∀ c ∈ s.countdowns ws, c.id ∈ ws ∧ 1 ≤ c.before := by
  induction ws generalizing s with
  | nil => exact nofun
  | cons w ws ih =>
    intro c hc
    rcases List.mem_cons.mp hc with rfl | hc
    · have hw := h w
      rw [List.count_cons_self] at hw
      refine ⟨List.mem_cons_self, ?_⟩
      show 1 ≤ s.waiting w
      omega
    · obtain ⟨hmem, hpos⟩ := ih (count_le_waiting_release h) c hc
      exact ⟨List.mem_cons_of_mem w hmem, hpos⟩

theorem arrivals_cons (c : Countdown) (cs : List Countdown) :
    arrivals (c :: cs) = if c.before - 1 = 0 then c.id :: arrivals cs else arrivals cs := by
  unfold arrivals
  rw [List.filter_cons]
  by_cases hzero : c.before - 1 = 0 <;> simp [hzero]

/-- **The counter of a task reaches zero** with the last of its entries, if at all. -/
theorem mem_arrivals {ws : List TaskId} (h : ∀ id, ws.count id ≤ s.waiting id) :
    id ∈ arrivals (s.countdowns ws) ↔ id ∈ ws ∧ s.waiting id = ws.count id := by
  induction ws generalizing s with
  | nil => exact iff_of_false List.not_mem_nil fun hid => List.not_mem_nil hid.1
  | cons w ws ih =>
    have hw := h w
    have hrest := ih (count_le_waiting_release h)
    rw [List.count_cons_self] at hw
    rw [State.countdowns, arrivals_cons]
    dsimp only
    by_cases hid : id = w
    · subst hid
      rw [waiting_release, if_pos rfl] at hrest
      rw [List.count_cons_self]
      split
      · refine iff_of_true List.mem_cons_self ⟨List.mem_cons_self, ?_⟩
        omega
      · rw [hrest]
        constructor
        · rintro ⟨hmem, heq⟩
          exact ⟨List.mem_cons_self, by omega⟩
        · rintro ⟨-, heq⟩
          exact ⟨List.count_pos_iff.mp (by omega), by omega⟩
    · rw [waiting_release, if_neg hid] at hrest
      rw [List.count_cons_of_ne (Ne.symm hid), List.mem_cons, or_iff_right hid, ← hrest]
      split
      · rw [List.mem_cons, or_iff_right hid]
      · rfl

/-- In one round it reaches zero once. -/
theorem nodup_arrivals {ws : List TaskId} (h : ∀ id, ws.count id ≤ s.waiting id) :
    (arrivals (s.countdowns ws)).Nodup := by
  induction ws generalizing s with
  | nil => exact List.nodup_nil
  | cons w ws ih =>
    have hrest := count_le_waiting_release h
    rw [State.countdowns, arrivals_cons]
    dsimp only
    split
    · next hzero =>
      -- there are no further entries
      have hw := h w
      rw [List.count_cons_self] at hw
      have hnone : w ∉ ws := fun hmem => by
        have hpos := List.count_pos_iff.mpr hmem
        omega
      refine List.nodup_cons.mpr ⟨fun hmem => ?_, ih hrest⟩
      exact hnone ((mem_arrivals hrest).mp hmem).1
    · exact ih hrest

/-! ### One round -/

theorem countdownsOfRound_of_nil (tasks : TaskMap) (hs : s.ready = []) :
    s.countdownsOfRound tasks = [] := by
  unfold State.countdownsOfRound
  rw [hs]

theorem countdownsOfRound_of_cons (tasks : TaskMap) {ready : List TaskId}
    (hs : s.ready = p :: ready) :
    s.countdownsOfRound tasks = { s with ready := ready }.countdowns (waiters tasks p) := by
  unfold State.countdownsOfRound
  rw [hs]

namespace State.Valid

section Placing

variable {ready : List TaskId} (h : s.Valid tasks) (hs : s.ready = p :: ready)

include h hs

/-- **The counters cover the entries** that stand for the task that is placed. -/
theorem count_waiters_le (id : TaskId) : (waiters tasks p).count id ≤ s.waiting id := by
  have hcons := length_pending_cons tasks id (h.head hs).2.1
  rw [h.waiting, count_waiters]
  omega

theorem mem_arrivals_round : id ∈ arrivals (s.countdownsOfRound tasks) ↔
    id ∈ waiters tasks p ∧ s.waiting id = (waiters tasks p).count id := by
  rw [countdownsOfRound_of_cons tasks hs]
  exact mem_arrivals (h.count_waiters_le hs)

/-- Afterwards those are ready or placed that were so before or have arrived. -/
theorem mem_place_iff : id ∈ (s.place tasks).ready ∨ id ∈ (s.place tasks).placed ↔
    (id ∈ s.ready ∨ id ∈ s.placed) ∨ id ∈ arrivals (s.countdownsOfRound tasks) := by
  have hle := h.count_waiters_le hs id
  have hcovered : s.waiting id - (waiters tasks p).count id = 0 ↔
      s.waiting id = (waiters tasks p).count id := by
    omega
  obtain ⟨-, hready, hplaced⟩ := release_spec { s with ready := ready } (waiters tasks p)
  rw [h.mem_arrivals_round hs]
  unfold State.place
  rw [hs]
  dsimp only at hready hplaced ⊢
  rw [hready, hplaced, hcovered, List.mem_cons, List.mem_cons]
  tauto

end Placing

theorem one_le_before (h : s.Valid tasks) :
    ∀ c ∈ s.countdownsOfRound tasks, tasks.has c.id = true ∧ 1 ≤ c.before := by
  cases hs : s.ready with
  | nil =>
    rw [countdownsOfRound_of_nil tasks hs]
    exact nofun
  | cons p ready =>
    have hround : ∀ c ∈ ({ s with ready := ready } : State).countdowns (waiters tasks p),
        c.id ∈ waiters tasks p ∧ 1 ≤ c.before := Order.one_le_before (h.count_waiters_le hs)
    rw [countdownsOfRound_of_cons tasks hs]
    intro c hc
    obtain ⟨hmem, hpos⟩ := hround c hc
    exact ⟨(has_of_awaits (mem_waiters.mp hmem)).1, hpos⟩

theorem nodup_arrivals (h : s.Valid tasks) : (arrivals (s.countdownsOfRound tasks)).Nodup := by
  cases hs : s.ready with
  | nil =>
    rw [countdownsOfRound_of_nil tasks hs]
    exact List.nodup_nil
  | cons p ready =>
    rw [countdownsOfRound_of_cons tasks hs]
    exact Order.nodup_arrivals (h.count_waiters_le hs)

/-- **Who arrives was neither ready nor placed before**: its counter was not zero. -/
theorem not_mem_of_arrives (h : s.Valid tasks) (hid : id ∈ arrivals (s.countdownsOfRound tasks)) :
    id ∉ s.ready ∧ id ∉ s.placed := by
  have hpos : s.waiting id ≠ 0 := by
    cases hs : s.ready with
    | nil =>
      rw [countdownsOfRound_of_nil tasks hs] at hid
      cases hid
    | cons p ready =>
      obtain ⟨hmem, heq⟩ := (h.mem_arrivals_round hs).mp hid
      have hcount := List.count_pos_iff.mpr hmem
      omega
  constructor
  · intro hready
    exact hpos ((h.mem_ready id).mp hready).2.2
  · intro hplaced
    exact hpos (h.closed id hplaced)

end State.Valid

/-! ### All rounds -/

theorem rounds_add (tasks : TaskMap) (m n : Nat) (s : State) :
    State.rounds tasks (m + n) s = State.rounds tasks n (State.rounds tasks m s) := by
  induction m generalizing s with
  | zero => rw [Nat.zero_add, State.rounds]
  | succ m ih => rw [Nat.succ_add, State.rounds, ih, State.rounds]

theorem after_succ (tasks : TaskMap) (n : Nat) : after tasks (n + 1) = (after tasks n).place tasks :=
  rounds_add tasks n 1 (.start tasks)

theorem valid_after (tasks : TaskMap) (n : Nat) : (after tasks n).Valid tasks :=
  (valid_start tasks).rounds n

/-- Those have entered that are ready or placed. -/
theorem mem_entered (n : Nat) :
    id ∈ entered tasks n ↔ id ∈ (after tasks n).ready ∨ id ∈ (after tasks n).placed := by
  induction n with
  | zero => exact (or_iff_left List.not_mem_nil).symm
  | succ n ih =>
    rw [entered, List.mem_append, ih, after_succ]
    cases hs : (after tasks n).ready with
    | nil =>
      have hsame : (after tasks n).place tasks = after tasks n := rounds_of_ready tasks 1 hs
      rw [countdownsOfRound_of_nil tasks hs, hsame, hs]
      exact or_iff_left List.not_mem_nil
    | cons p ready =>
      rw [← hs]
      exact ((valid_after tasks n).mem_place_iff hs).symm

/-- **No task enters the ready set twice.** -/
theorem nodup_entered (tasks : TaskMap) (n : Nat) : (entered tasks n).Nodup := by
  induction n with
  | zero =>
    refine (valid_start tasks).sorted.imp ?_
    rintro a b hlt rfl
    exact String.lt_irrefl _ hlt
  | succ n ih =>
    have hvalid := valid_after tasks n
    refine List.nodup_append'.mpr ⟨ih, hvalid.nodup_arrivals, fun id hid harrives => ?_⟩
    obtain ⟨hready, hplaced⟩ := hvalid.not_mem_of_arrives harrives
    rcases (mem_entered n).mp hid with hmem | hmem
    · exact hready hmem
    · exact hplaced hmem

/-- **The loop ends** when nothing is ready any more.  The rounds that are left change nothing. -/
theorem exists_last_round (tasks : TaskMap) : ∃ n ≤ tasks.size, (after tasks n).ready = [] ∧
    (∀ m < n, (after tasks m).ready ≠ []) ∧ final tasks = after tasks n := by
  have hend : ∃ n, (after tasks n).ready = [] := ⟨tasks.size, ready_final tasks⟩
  have hready : (after tasks (Nat.find hend)).ready = [] := Nat.find_spec hend
  have hle : Nat.find hend ≤ tasks.size := Nat.find_min' hend (ready_final tasks)
  refine ⟨Nat.find hend, hle, hready, fun m hm => Nat.find_min hend hm, ?_⟩
  obtain ⟨rest, hrest⟩ := Nat.exists_eq_add_of_le hle
  calc final tasks = State.rounds tasks (Nat.find hend + rest) (.start tasks) := by
        rw [← hrest]
        rfl
    _ = State.rounds tasks rest (after tasks (Nat.find hend)) := rounds_add tasks _ rest _
    _ = after tasks (Nat.find hend) := rounds_of_ready tasks rest hready

/-- **Counters never run below zero.**  The tasks of a list are sorted; they may depend on each other
in cycles, repeat entries, and list themselves or tasks outside.  In every round each counter that is
counted down belongs to a task of the list and is at least one before, and up to every round no task
enters the ready set twice.  The loop ends after at most as many rounds as there are different
identifiers: from then on nothing is ready, and further rounds would change nothing. -/
theorem countdowns_of_sort (ts : List Task) :
    (∀ n, ∀ c ∈ (after (.ofList ts) n).countdownsOfRound (.ofList ts),
      c.id ∈ ts.map Task.id ∧ 1 ≤ c.before) ∧
    (∀ n, (entered (.ofList ts) n).Nodup) ∧
    ∃ n ≤ (ts.map Task.id).toFinset.card, (after (.ofList ts) n).ready = [] ∧
      (∀ m < n, (after (.ofList ts) m).ready ≠ []) ∧
      final (.ofList ts) = after (.ofList ts) n := by
  refine ⟨fun n c hc => ?_, nodup_entered (.ofList ts), ?_⟩
  · obtain ⟨hhas, hpos⟩ := (valid_after (.ofList ts) n).one_le_before c hc
    exact ⟨has_ofList_iff.mp hhas, hpos⟩
  · rw [card_ids_ofList]
    exact exists_last_round (.ofList ts)

end TaskPipeline.Order
