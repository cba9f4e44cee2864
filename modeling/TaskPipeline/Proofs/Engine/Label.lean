import TaskPipeline.Engine.Query
import TaskPipeline.Proofs.Ident.Shortest
import TaskPipeline.Store.Memory

/-!
# Labels of a dependency order

The label of a task in a dependency order is the shortest front of its identifier among the
identifiers of all tasks.  Given back to `Query.resolve` it names the task unless it ends in a
blank, or is cut behind a capital sigma in the middle of a word (`Query.resolve_label_iff`).
-/

namespace TaskPipeline

variable {all ts us : List Task} {t : Task} {user : Option UserId} {view : DagView}

/-- A dependency order holds the tasks that were to be ordered. -/
theorem Order.mem_of_sort (h : Order.sort ts = .ok us) (ht : t ∈ us) : t ∈ ts := by
  unfold Order.sort at h
  dsimp only at h
  split at h
  · cases h
  · cases h
    obtain ⟨id, -, hget⟩ := List.mem_filterMap.mp ht
    exact TaskMap.mem_of_get?_ofList hget

namespace DagView

theorem label_of_mem {ts : List Task} {f : TaskId → String} (ht : t ∈ ts) :
    label ⟨ts, ts.map fun t => (t.id, f t.id)⟩ t.id = f t.id := by
  unfold label
  dsimp only
  rw [List.find?_map]
  cases h : ts.find? ((fun l => decide (l.1 = t.id)) ∘ fun t => (t.id, f t.id)) with
  | none =>
    have hno := List.find?_eq_none.mp h t ht
    simp at hno
  | some u =>
    have hu : u.id = t.id := by simpa using List.find?_some h
    rw [Option.map_some, hu]

/-- A view shows some of the tasks, each with the shortest front of its identifier among all of
them. -/
theorem label_eq (h : ofTasks all user = .ok view) (ht : t ∈ view.tasks) :
    t ∈ all ∧ view.label t.id = t.id.shortest (all.map Task.id) := by
  unfold ofTasks at h
  dsimp only at h
  split at h
  · cases h
  · next hsort =>
    cases h
    have hmem := Order.mem_of_sort hsort ht
    refine ⟨?_, label_of_mem ht⟩
    cases user with
    | none => exact hmem
    | some user => exact (List.mem_filter.mp hmem).1

end DagView

namespace Query

variable {store : TaskMap}

theorem dag_eq_ok_iff : ((dag user).run memory false store).1 = .ok view ↔
    DagView.ofTasks store.toList user = .ok view := Iff.rfl

theorem resolve_everyone (given : String) : ((resolve given none).run memory false store).1 =
    (Ident.resolve store.ids given).mapError .ofIdent := by
  show (Ident.resolve ((store.toList.filter fun _ => true).map Task.id) given).mapError _ = _
  rw [List.filter_true]
  rfl

/-- **When the label of a task names it**: if it is trimmed and not cut behind a capital sigma in
the middle of a word.  So it does if the identifier holds neither blanks nor capital sigmas. -/
theorem resolve_label_iff (h : ((dag user).run memory false store).1 = .ok view)
    (ht : t ∈ view.tasks) :
    (∃ n, view.label t.id = t.id.front n ∧
      (((resolve (view.label t.id) none).run memory false store).1 = .ok t.id ↔
        Text.Trimmed (t.id.front n) ∧
          ¬ Text.CutsWord [] (t.id.text.toList.take n) (t.id.text.toList.drop n))) ∧
    ((∀ c ∈ t.id.text.toList, Text.isBlank c = false ∧ c ≠ 'Σ') →
      ((resolve (view.label t.id) none).run memory false store).1 = .ok t.id) := by
  obtain ⟨hmem, hlabel⟩ : t ∈ store.toList ∧ view.label t.id = t.id.shortest store.ids :=
    DagView.label_eq (dag_eq_ok_iff.mp h) ht
  obtain ⟨n, hn⟩ := Ident.exists_shortest_front store.ids t.id
  have hnd : store.ids.Nodup := TaskMap.nodup_ids store
  have hid : t.id ∈ store.ids := List.mem_map_of_mem hmem
  have hresolve := Ident.resolve_shortest_iff hnd hid
  have hiff : ((resolve (view.label t.id) none).run memory false store).1 = .ok t.id ↔
      Text.Trimmed (t.id.front n) ∧
        ¬ Text.CutsWord [] (t.id.text.toList.take n) (t.id.text.toList.drop n) := by
    rw [resolve_everyone, hlabel, ← Ident.matchesFront_front_iff, ← hn, ← hresolve]
    cases Ident.resolve store.ids (t.id.shortest store.ids) <;> simp [Except.mapError]
  refine ⟨⟨n, hlabel.trans hn, hiff⟩, fun hplain => hiff.mpr ⟨?_, ?_⟩⟩
  · refine Text.trimmed_of_forall fun c hc => (hplain c ?_).1
    unfold Ident.front at hc
    rw [String.toList_ofList] at hc
    exact List.mem_of_mem_take hc
  · rintro ⟨p, q, hcut, -⟩
    have hsigma : 'Σ' ∈ t.id.text.toList.take n := by simp [hcut]
    exact (hplain 'Σ' (List.mem_of_mem_take hsigma)).2 rfl

namespace Sample

/-- A task that is named by one word. -/
def word : TaskId := ⟨"w", by decide, by decide⟩

/-- A task that is named by this word and another. -/
def words : TaskId := ⟨"w x", by decide, by decide⟩

def wordy : TaskMap :=
  .ofList [.create word "first" "" ⟨"writer", by decide, by decide⟩ (.midnight .epoch),
    .create words "second" "" ⟨"writer", by decide, by decide⟩ (.midnight .epoch)]

end Sample

/-- The shortest front of two words that the first word does not share ends in a blank, so it does
not name its task.  The first word names its own. -/
theorem label_of_words :
    ∃ view, ((dag none).run memory false Sample.wordy).1 = .ok view ∧
      view.label Sample.words = "w " ∧
      ((resolve (view.label Sample.words) none).run memory false Sample.wordy).1 ≠
        .ok Sample.words ∧
      ((resolve (view.label Sample.word) none).run memory false Sample.wordy).1 =
        .ok Sample.word := by
  obtain ⟨view, hview, hlabel, htasks⟩ : ∃ view,
      ((dag none).run memory false Sample.wordy).1 = .ok view ∧
        view.label Sample.words = "w " ∧ view.tasks = Sample.wordy.toList := ⟨_, rfl, rfl, rfl⟩
  obtain ⟨t, ht, htid⟩ : ∃ t ∈ Sample.wordy.toList, t.id = Sample.word :=
    ⟨_, List.mem_cons_self, rfl⟩
  obtain ⟨u, hu, huid⟩ : ∃ u ∈ Sample.wordy.toList, u.id = Sample.words :=
    ⟨_, List.mem_cons_of_mem _ List.mem_cons_self, rfl⟩
  refine ⟨view, hview, hlabel, ?_, ?_⟩
  · obtain ⟨⟨n, hn, hiff⟩, -⟩ := resolve_label_iff hview (htasks ▸ hu)
    rw [huid] at hn hiff
    rw [Ne, hiff, ← hn, hlabel]
    intro hboth
    exact absurd hboth.1 (by decide)
  · obtain ⟨-, hplain⟩ := resolve_label_iff hview (htasks ▸ ht)
    rw [htid] at hplain
    refine hplain fun c hc => ?_
    obtain rfl : c = 'w' := List.mem_singleton.mp hc
    decide

end Query

end TaskPipeline
