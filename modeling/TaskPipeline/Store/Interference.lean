import TaskPipeline.Store.Script

/-!
# Interference

A store as one of several writers meets it: others may write between its calls, and a call may fail.
`Interference` says what happens before each call, told apart by the kind of call and by how many
such calls were made, and `interfered` is the store under it.
-/

namespace TaskPipeline

/-- The kind of a call. -/
inductive CallKind where
  /-- One task is read. -/
  | get
  /-- All tasks are read. -/
  | list
  /-- Tasks with given identifiers are read. -/
  | getMany
  /-- A batch is written. -/
  | commit
deriving DecidableEq

/-- The kind of a call. -/
def Call.kind : Call → CallKind
  | .get _ => .get
  | .list => .list
  | .getMany _ => .getMany
  | .commit _ => .commit

/-- What happens around the calls to a store.  Calls of one kind are counted from 1. -/
structure Interference (σ : Type) where
  /-- What others do to the store just before a call. -/
  intrude : CallKind → Nat → σ → σ
  /-- Whether a call fails without reaching the store. -/
  fault : CallKind → Nat → Option StoreError

/-- A store and the number of calls made to it. -/
structure Observed (σ : Type) where
  /-- The store. -/
  store : σ
  /-- The number of calls of each kind. -/
  count : CallKind → Nat

/-- A store to which no calls were made. -/
def Observed.start {σ : Type} (s : σ) : Observed σ := ⟨s, fun _ => 0⟩

/-- The store under interference. -/
def interfered {σ : Type} (repo : Repository σ) (i : Interference σ) : Repository (Observed σ) where
  perform expired c o :=
    let n := o.count c.kind + 1
    let count := fun k => if k = c.kind then n else o.count k
    let store := i.intrude c.kind n o.store
    match i.fault c.kind n with
    | some e => (.error e, ⟨store, count⟩)
    | none =>
      let (answer, store) := repo.perform expired c store
      (answer, ⟨store, count⟩)

end TaskPipeline
