import TaskPipeline.Proofs.Engine.Interleaving
import TaskPipeline.Proofs.Store.Refusal

/-!
# Lost tries

An operation over the whole store lists it, edits a copy and commits the difference.  Others may
write before each of the two calls (`Interference.seen` is what a try lists, `Interference.found`
what its commit meets), and then one of four things happens (`Operation.TryEnds`).  A try `Loses` if
its batch is refused as a conflict, and only then another one is made: `Operation.run_retrying`
says which try is the last one and what came before it.

A batch loses no race on the store that it was computed from (`Operation.found_ne_seen_of_loses`).
-/

namespace TaskPipeline

namespace Interference

variable (i : Interference TaskMap) (tasks : TaskMap)

/-- What a try begins with if all tries before it have lost; tries are counted from 0. -/
def before : Nat → TaskMap
  | 0 => tasks
  | n + 1 => i.intrude .commit (n + 1) (i.intrude .list (n + 1) (before n))

/-- What the try lists. -/
def seen (n : Nat) : TaskMap := i.intrude .list (n + 1) (i.before tasks n)

/-- What the commit of the try meets. -/
def found (n : Nat) : TaskMap := i.intrude .commit (n + 1) (i.seen tasks n)

end Interference

/-- A store to which a number of lists and commits were made, and no other calls. -/
def Observed.counted (store : TaskMap) (lists commits : Nat) : Observed TaskMap :=
  ⟨store, fun k => if k = .list then lists else if k = .commit then commits else 0⟩

theorem Observed.start_eq (tasks : TaskMap) : Observed.start tasks = .counted tasks 0 0 := by
  unfold start counted
  congr 1
  funext k
  simp

open Observed (counted)

section Calls

variable {i : Interference TaskMap} (hfault : ∀ k n, i.fault k n = none) (tasks : TaskMap) (n : Nat)

include hfault

theorem interfered_list :
    (interfered memory i).perform false .list (counted (i.before tasks n) n n) =
      (.ok (i.seen tasks n).toList, counted (i.seen tasks n) (n + 1) n) := by
  have hcount : (fun k => if k = CallKind.list then n + 1
      else (counted (i.before tasks n) n n).count k) = (counted (i.seen tasks n) (n + 1) n).count := by
    funext k
    by_cases hk : k = .list <;> simp [counted, hk]
  simp only [interfered, Call.kind, hfault]
  exact Prod.ext rfl (congrArg (Observed.mk _) hcount)

/-- The commit of the try, which meets what others have left there. -/
theorem interfered_commit (c : ChangeSet) :
    (interfered memory i).perform false (.commit c) (counted (i.seen tasks n) (n + 1) n) =
      ((memory.perform false (.commit c) (i.found tasks n)).1,
        counted (memory.perform false (.commit c) (i.found tasks n)).2 (n + 1) (n + 1)) := by
  have hcount : (fun k => if k = CallKind.commit then n + 1
      else (counted (i.seen tasks n) (n + 1) n).count k) =
        (counted (i.found tasks n) (n + 1) (n + 1)).count := by
    funext k
    by_cases hk : k = .commit <;> simp [counted, hk]
  simp only [interfered, Call.kind, hfault]
  exact Prod.ext rfl (congrArg (Observed.mk _) hcount)

end Calls

namespace Operation

open ChangeSet

variable {policy : Policy} {op : Operation} {ambients : Nat → Ambient} {ambient : Ambient}
  {i : Interference TaskMap} {tasks : TaskMap} {n : Nat} {edited : Edited} {e : EngineError}
  {r : Except EngineError Edited} {o : Observed TaskMap}

/-- How a try over the whole store ends while others write between its calls. -/
inductive TryEnds (policy : Policy) (op : Operation) (ambient : Ambient) (i : Interference TaskMap)
    (tasks : TaskMap) (n : Nat) : Except EngineError Edited → Observed TaskMap → Prop where
  /-- The edit fails. -/
  | failed {e : EngineError} (hedit : op.edit policy ambient (i.seen tasks n) = .error e) :
      TryEnds policy op ambient i tasks n (.error e) (counted (i.seen tasks n) (n + 1) n)
  /-- There is nothing to write. -/
  | unchanged {edited : Edited} (hedit : op.edit policy ambient (i.seen tasks n) = .ok edited)
      (hempty : (op.batch (i.seen tasks n) edited).isEmpty = true) :
      TryEnds policy op ambient i tasks n (.ok edited) (counted (i.seen tasks n) (n + 1) n)
  /-- The batch is refused. -/
  | refused {edited : Edited} {e : StoreError}
      (hedit : op.edit policy ambient (i.seen tasks n) = .ok edited)
      (hempty : (op.batch (i.seen tasks n) edited).isEmpty = false)
      (hcheck : (op.batch (i.seen tasks n) edited).check (i.found tasks n) = .error e) :
      TryEnds policy op ambient i tasks n (.error (.ofStore op.title e))
        (counted (i.found tasks n) (n + 1) (n + 1))
  /-- The batch is accepted. -/
  | committed {edited : Edited} (hedit : op.edit policy ambient (i.seen tasks n) = .ok edited)
      (hcheck : (op.batch (i.seen tasks n) edited).check (i.found tasks n) = .ok ()) :
      TryEnds policy op ambient i tasks n
        (.ok (edited.1.insertAll (op.batch (i.seen tasks n) edited).written, edited.2))
        (counted ((op.batch (i.seen tasks n) edited).write (i.found tasks n)) (n + 1) (n + 1))

/-- The batch of a try is refused because another writer was faster. -/
def Loses (policy : Policy) (op : Operation) (ambients : Nat → Ambient) (i : Interference TaskMap)
    (tasks : TaskMap) (n : Nat) : Prop :=
  ∃ edited e, op.edit policy (ambients n) (i.seen tasks n) = .ok edited ∧
    (op.batch (i.seen tasks n) edited).isEmpty = false ∧
    (op.batch (i.seen tasks n) edited).check (i.found tasks n) = .error e ∧ e.IsConflict

theorem isRace_ofStore_iff {title : String} {e : StoreError} :
    isRace (.ofStore title e) = true ↔ e.IsConflict := by
  cases e with
  | conflict id expected actual => exact iff_of_true rfl ⟨id, expected, actual, rfl⟩
  | _ => exact iff_of_false Bool.false_ne_true (by rintro ⟨_, _, _, h⟩; cases h)

/-- A try ends as a conflict iff it loses, and then it has changed nothing. -/
theorem TryEnds.isRace_iff (h : TryEnds policy op (ambients n) i tasks n r o) :
    (∃ e, r = .error e ∧ isRace e = true) ↔ Loses policy op ambients i tasks n := by
  constructor
  · rintro ⟨e, hr, hrace⟩
    cases h with
    | failed hedit =>
      cases hr
      rw [noRace_edit policy op (ambients n) _ e hedit] at hrace
      cases hrace
    | unchanged => cases hr
    | refused hedit hempty hcheck =>
      cases hr
      exact ⟨_, _, hedit, hempty, hcheck, isRace_ofStore_iff.mp hrace⟩
    | committed => cases hr
  · rintro ⟨edited, e, hedit, hempty, hcheck, he⟩
    cases h with
    | failed h => rw [hedit] at h; cases h
    | unchanged h h' =>
      rw [hedit] at h
      cases h
      rw [hempty] at h'
      cases h'
    | refused h _ h' =>
      rw [hedit] at h
      cases h
      rw [hcheck] at h'
      cases h'
      exact ⟨_, rfl, isRace_ofStore_iff.mpr he⟩
    | committed h h' =>
      rw [hedit] at h
      cases h
      rw [hcheck] at h'
      cases h'

theorem TryEnds.eq_counted_of_loses (h : TryEnds policy op (ambients n) i tasks n r o)
    (hloses : Loses policy op ambients i tasks n) :
    o = counted (i.before tasks (n + 1)) (n + 1) (n + 1) := by
  obtain ⟨e, hr, hrace⟩ := h.isRace_iff.mpr hloses
  cases h with
  | failed hedit =>
    cases hr
    rw [noRace_edit policy op (ambients n) _ e hedit] at hrace
    cases hrace
  | unchanged => cases hr
  | refused => rfl
  | committed => cases hr

section Runs

variable (hfault : ∀ k n, i.fault k n = none)

include hfault

/-- **What a try does while others write.** -/
theorem tryEnds_tryWhole (n : Nat) : TryEnds policy op ambient i tasks n
    ((op.tryWhole policy ambient).run (interfered memory i) false
      (counted (i.before tasks n) n n)).1
    ((op.tryWhole policy ambient).run (interfered memory i) false
      (counted (i.before tasks n) n n)).2 := by
  have hrun : (op.tryWhole policy ambient).run (interfered memory i) false
      (counted (i.before tasks n) n n) = (op.editAndCommit policy ambient (i.seen tasks n)).run
        (interfered memory i) false (counted (i.seen tasks n) (n + 1) n) := by
    unfold tryWhole
    rw [Script.run, interfered_list hfault]
    dsimp only
    rw [TaskMap.ofList_toList]
  rw [hrun]
  cases hedit : op.edit policy ambient (i.seen tasks n) with
  | error e =>
    unfold editAndCommit
    rw [hedit]
    exact .failed hedit
  | ok edited =>
    rw [editAndCommit_of_edit hedit]
    split
    · next hempty => exact .unchanged hedit hempty
    · next hempty =>
      rw [Bool.not_eq_true] at hempty
      rw [Script.run, interfered_commit hfault]
      cases hcheck : (op.batch (i.seen tasks n) edited).check (i.found tasks n) with
      | error e =>
        have hmemory : memory.perform false (.commit (op.batch (i.seen tasks n) edited))
            (i.found tasks n) = (.error e, i.found tasks n) := by
          simp only [memory, unlessExpired, Bool.false_eq_true, if_false, ChangeSet.apply, hcheck]
        rw [hmemory]
        exact .refused hedit hempty hcheck
      | ok u =>
        rw [memory_commit_of_check hcheck]
        exact .committed hedit hcheck

/-- **Which try is the last one**: the first that does not lose, or the last that is allowed. -/
theorem run_retrying (n retries : Nat) :
    ∃ m, n ≤ m ∧ m ≤ n + retries ∧ (∀ k, n ≤ k → k < m → Loses policy op ambients i tasks k) ∧
      TryEnds policy op (ambients m) i tasks m
        ((op.retrying policy ambients n retries).run (interfered memory i) false
          (counted (i.before tasks n) n n)).1
        ((op.retrying policy ambients n retries).run (interfered memory i) false
          (counted (i.before tasks n) n n)).2 ∧
      (Loses policy op ambients i tasks m → m = n + retries) := by
  -- over the retries that are left: a try that loses hands over to the next one
  induction retries generalizing n with
  | zero =>
    refine ⟨n, Nat.le_refl n, Nat.le_refl n, fun k hnk hkn => ?_, tryEnds_tryWhole hfault n,
      fun _ => rfl⟩
    omega
  | succ retries ih =>
    have htry : TryEnds policy op (ambients n) i tasks n _ _ := tryEnds_tryWhole hfault n
    unfold retrying
    rw [Script.run_bind']
    by_cases hloses : Loses policy op ambients i tasks n
    · obtain ⟨e, hr, hrace⟩ := htry.isRace_iff.mpr hloses
      have ho := htry.eq_counted_of_loses hloses
      obtain ⟨m, hnm, hm, hbefore, hends, hlast⟩ := ih (n + 1)
      cases e with
      | conflict id =>
        rw [hr, ho]
        refine ⟨m, by omega, by omega, fun k hnk hkm => ?_, hends, fun h => ?_⟩
        · rcases Nat.eq_or_lt_of_le hnk with rfl | hnk
          · exact hloses
          · exact hbefore k hnk hkm
        · have := hlast h
          omega
      | _ => cases hrace
    · refine ⟨n, Nat.le_refl n, by omega, fun k hnk hkn => by omega, ?_, fun h => absurd h hloses⟩
      have hrace := mt htry.isRace_iff.mp hloses
      generalize (op.tryWhole policy (ambients n)).run (interfered memory i) false
        (counted (i.before tasks n) n n) = first at htry hrace ⊢
      obtain ⟨outcome, o⟩ := first
      split
      · next hconflict => exact absurd ⟨_, hconflict, rfl⟩ hrace
      · exact htry

/-- **What an operation over the whole store does while others write**: its last try is the first
that does not lose, or the last that is allowed, and then it takes its results out. -/
theorem run_script_interfered (hscope : op.scope = .whole) (hargs : op.checkArguments = .ok ()) :
    ∃ n ≤ policy.retries, ∃ outcome, (∀ k < n, Loses policy op ambients i tasks k) ∧
      TryEnds policy op (ambients n) i tasks n outcome
        ((op.script policy ambients).run (interfered memory i) false (.start tasks)).2 ∧
      ((op.script policy ambients).run (interfered memory i) false (.start tasks)).1 =
        outcome >>= results ∧
      (Loses policy op ambients i tasks n → n = policy.retries) := by
  obtain ⟨n, -, hn, hbefore, hends, hlast⟩ :=
    @run_retrying policy op ambients i tasks hfault 0 policy.retries
  rw [Nat.zero_add] at hn hlast
  rw [script_eq, hargs]
  dsimp only
  unfold tries
  rw [hscope]
  dsimp only
  rw [Script.run_bind, Observed.start_eq]
  exact ⟨n, hn, _, fun k hk => hbefore k (Nat.zero_le k) hk, hends, rfl, hlast⟩

end Runs

/-! ### Races need another writer -/

theorem nodup_named_batch (op : Operation) (before : TaskMap) (edited : Edited) :
    (op.batch before edited).named.Nodup := nodup_named_between

/-- A batch loses no race on the store that it was computed from. -/
theorem not_isConflict_of_check {store : TaskMap} {e : StoreError}
    (hargs : op.checkArguments = .ok ()) (hedit : op.edit policy ambient store = .ok edited)
    (hcheck : (op.batch store edited).check store = .error e) : ¬ e.IsConflict := by
  intro he
  cases htaken : (op.batch store edited).creates.find? fun t => store.has t.id with
  | some t =>
    have hrefused := RefusedForGood.taken htaken
    have herror := (check_eq_error_iff (nodup_named_batch op store edited)
      hrefused.not_isConflict).mpr hrefused
    rw [hcheck] at herror
    cases herror
    exact hrefused.not_isConflict he
  | none =>
    -- what it creates is new, and everything else is as it was read
    have hnew : ∀ id ∈ op.created edited, edited.1.has id = true → store.get? id = none := by
      intro id hid hhas
      obtain ⟨t, ht⟩ := TaskMap.has_iff.mp hhas
      obtain rfl := TaskMap.id_of_get? ht
      have hfree := List.find?_eq_none.mp htaken t (mem_creates_between.mpr ⟨ht, hid⟩)
      exact TaskMap.get?_eq_none_iff.mpr (Bool.eq_false_iff.mpr hfree)
    have hok : (op.batch store edited).check store = .ok () :=
      check_between_eq_ok (fun _ _ h => h) (fun _ => rfl) hnew (version_of_edit hargs hedit)
    rw [hok] at hcheck
    cases hcheck

/-- **Only another writer makes a try lose.** -/
theorem found_ne_seen_of_loses (hargs : op.checkArguments = .ok ())
    (h : Loses policy op ambients i tasks n) : i.found tasks n ≠ i.seen tasks n := by
  obtain ⟨edited, e, hedit, -, hcheck, he⟩ := h
  intro hsame
  rw [hsame] at hcheck
  exact not_isConflict_of_check hargs hedit hcheck he

end Operation

end TaskPipeline
