import TaskPipeline.Proofs.Record.Fields
import TaskPipeline.Store.Journal

/-!
# Journals that were written

A file that holds the records of a catalog, one on a line, is read back as the catalog
(`Journal.read_render`), if each record stands for its entry.  As long as the file can be read and
written (`Journal.Holds`), a call is answered from the tasks in it.
-/

namespace TaskPipeline

open Json (Denotes Inline)

/-! ### Lines -/

theorem Text.lineChars_append {front cs rest : List Char} (h : ∀ c ∈ cs, c ≠ '\n') :
    lineChars front (cs ++ '\n' :: rest) = endedLine (cs.reverse ++ front) :: lineChars [] rest := by
  induction cs generalizing front with
  | nil => rfl
  | cons c cs ih =>
    rw [List.cons_append, lineChars, if_neg (h c List.mem_cons_self),
      ih fun d hd => h d (List.mem_cons_of_mem _ hd), List.reverse_cons, List.append_assoc]
    rfl

/-- A line without control characters is told from what stands behind it. -/
theorem Text.lineChars_inline {cs rest : List Char} (h : ∀ c ∈ cs, Inline c) :
    lineChars [] (cs ++ '\n' :: rest) = cs :: lineChars [] rest := by
  have hfeed : ∀ c ∈ cs, c ≠ '\n' := by
    rintro c hc rfl
    exact absurd (h _ hc) (by decide)
  rw [lineChars_append hfeed, List.append_nil]
  unfold endedLine
  split
  · next rest' heq =>
    -- the line does not end in a carriage return
    have hreturn : '\r' ∈ cs := by
      rw [← List.mem_reverse, heq]
      exact List.mem_cons_self
    exact absurd (h _ hreturn) (by decide)
  · rw [List.reverse_reverse]

/-- The text of a value is not blank. -/
theorem Json.Value.Proper.not_isBlankText {v : Json.Value} (h : v.Proper) :
    Text.isBlankText v.print = false := by
  have hfirst : ∃ c ∈ v.chars, Text.isBlank c = false := by
    cases h with
    | null => exact ⟨'n', List.mem_cons_self, by decide⟩
    | bool b => cases b <;> exact ⟨_, List.mem_cons_self, by decide⟩
    | @number n h =>
      obtain ⟨c, cs, hchars, hc⟩ := Json.Numeral.exists_chars_cons h
      have hmem : c ∈ n.chars := hchars ▸ List.mem_cons_self
      refine ⟨c, hmem, ?_⟩
      rcases hc with rfl | hdigit
      · decide
      · exact not_isBlank_of_isDigit hdigit
    | string s => exact ⟨'"', List.mem_cons_self, by decide⟩
    | array _ => exact ⟨'[', List.mem_cons_self, by decide⟩
    | object _ => exact ⟨'\x7b', List.mem_cons_self, by decide⟩
  obtain ⟨c, hc, hblank⟩ := hfirst
  unfold Text.isBlankText Json.Value.print
  rw [String.toList_ofList, List.all_eq_false]
  exact ⟨c, hc, by simp [hblank]⟩

namespace Journal

variable {α : Type} [Recorded α] {records : Catalog α} {as : List α} {j : Journal α}

/-- The lines of several records, with their ends. -/
def writeLines (as : List α) : String := String.join (as.map writeLine)

theorem toList_writeLines (as : List α) : (writeLines as).toList =
    as.flatMap fun a => (Recorded.encode a).chars ++ ['\n'] := by
  unfold writeLines
  rw [String.toList_join, List.flatMap_map]
  congr 1
  funext a
  unfold writeLine Json.Value.print
  rw [String.toList_append, String.toList_ofList]
  rfl

theorem lines_writeLines (h : ∀ a ∈ as, (Recorded.encode a).Proper) :
    FileContents.lines (.text (writeLines as)) =
      as.map fun a => some (Recorded.encode a).print := by
  have hlines : Text.lineChars [] (as.flatMap fun a => (Recorded.encode a).chars ++ ['\n']) =
      as.map fun a => (Recorded.encode a).chars := by
    induction as with
    | nil => rfl
    | cons a as ih =>
      rw [List.flatMap_cons, List.append_assoc, List.singleton_append,
        Text.lineChars_inline (h a List.mem_cons_self).inline,
        ih fun b hb => h b (List.mem_cons_of_mem _ hb), List.map_cons]
  unfold FileContents.lines Text.lines
  dsimp only
  rw [toList_writeLines, hlines, List.map_map, List.map_map]
  rfl

theorem readLines_print (path : String) (n : Nat) (records : Catalog α)
    (h : ∀ a ∈ as, Denotes Recorded.decode (Recorded.encode a) a) :
    readLines path n records (as.map fun a => some (Recorded.encode a).print) =
      .ok (records.insertAll as) := by
  -- line by line: the number of the line and the records above it are general
  induction as generalizing n records with
  | nil => rfl
  | cons a as ih =>
    have ha := h a List.mem_cons_self
    have hblank := ha.proper.not_isBlankText
    have hread : readLine? (Recorded.encode a).print = some a := by
      unfold readLine?
      rw [ha.proper.read?_print]
      exact ha.decodes
    rw [List.map_cons, readLines, if_neg (by rw [hblank]; exact Bool.false_ne_true), hread]
    exact ih (n + 1) (records.insert a) fun b hb => h b (List.mem_cons_of_mem _ hb)

/-- **A file that was written is read back.** -/
theorem read_render (hfree : j.obstacles = {}) (hcontents : j.contents = some (.text (render records)))
    (h : ∀ a ∈ records.toList, Denotes Recorded.decode (Recorded.encode a) a) :
    j.read = .ok records := by
  have hlines : FileContents.lines (.text (render records)) =
      records.toList.map fun a => some (Recorded.encode a).print :=
    lines_writeLines fun a ha => (h a ha).proper
  unfold read
  rw [hfree, hcontents]
  dsimp only
  rw [if_neg Bool.false_ne_true, if_neg Bool.false_ne_true, hlines, readLines_print _ _ _ h]
  exact congrArg _ (Catalog.ofList_toList records)

/-! ### Calls -/

/-- The file can be read and written, and holds the tasks. -/
structure Holds (j : Journal Task) (tasks : TaskMap) : Prop where
  read : j.read = .ok tasks
  draft : j.obstacles.draft = false

namespace Holds

variable {j : Journal Task} {tasks after : TaskMap} {changes : ChangeSet} {written : List Task}

/-- Opening the lock file changes nothing. -/
theorem entered (h : j.Holds tasks) : j.entered.Holds tasks := ⟨h.read, h.draft⟩

theorem readUnlessExpired (h : j.Holds tasks) : j.entered.readUnlessExpired false = .ok tasks :=
  h.read

theorem get (h : j.Holds tasks) (id : TaskId) :
    journal.perform false (.get id) j = ((tasks.require id).map ([·]), j.entered) := by
  show (j.entered.readUnlessExpired false >>= _, j.entered) = _
  rw [h.readUnlessExpired]
  rfl

theorem list (h : j.Holds tasks) :
    journal.perform false .list j = (.ok tasks.toList, j.entered) := by
  show ((j.entered.readUnlessExpired false).map _, j.entered) = _
  rw [h.readUnlessExpired]
  rfl

theorem getMany (h : j.Holds tasks) (ids : List TaskId) :
    journal.perform false (.getMany ids) j = (takeAll tasks ids, j.entered) := by
  show (j.entered.readUnlessExpired false >>= _, j.entered) = _
  rw [h.readUnlessExpired]
  rfl

theorem commit_of_error {e : StoreError} (h : j.Holds tasks) (he : changes.apply tasks = .error e) :
    journal.perform false (.commit changes) j = (.error e, j.entered) := by
  have hread : j.entered.readUnlessExpired false = .ok tasks := h.readUnlessExpired
  simp [journal, hread, he, bind, Except.bind]

theorem commit_of_ok (h : j.Holds tasks) (hok : changes.apply tasks = .ok (written, after)) :
    journal.perform false (.commit changes) j =
      (.ok written, { j.entered with contents := some (.text (render after)) }) := by
  have hread : j.entered.readUnlessExpired false = .ok tasks := h.readUnlessExpired
  have hdraft : j.entered.obstacles.draft = false := h.draft
  simp [journal, hread, hok, write, hdraft, bind, Except.bind]

end Holds

end Journal

end TaskPipeline
