import TaskPipeline.Proofs.Catalog
import TaskPipeline.Proofs.Record.Task
import TaskPipeline.Proofs.Store.Journal

/-!
# Lines appended by hand

Records that are appended to a file, one on a line, take effect: the file is read as before, and
then the records are inserted in their order (`Journal.read_append`).  What the file holds does not
matter: lines in any spelling, blank ones, and lines that end in a carriage return.  All that is
needed is that the last line is ended, since what is appended would otherwise continue it.

A file that is written is read back, so no task is lost on the way (`appended_lines_take_effect`).
-/

namespace TaskPipeline

open Json (Denotes)

/-! ### Lines -/

namespace Text

/-- The text is empty, or its last line is ended. -/
def EndsLine (s : String) : Prop := s = "" ∨ s.toList.getLast? = some '\n'

theorem lineChars_ended (front cs rest : List Char) :
    lineChars front (cs ++ '\n' :: rest) =
      lineChars front (cs ++ ['\n']) ++ lineChars [] rest := by
  induction cs generalizing front with
  | nil => rfl
  | cons c cs ih =>
    rw [List.cons_append, List.cons_append, lineChars, lineChars, ih, ih]
    split <;> rfl

/-- A text goes on with a new line where the one before it has ended. -/
theorem lines_append {s : String} (h : EndsLine s) (more : String) :
    lines (s ++ more) = lines s ++ lines more := by
  unfold lines
  rcases h with rfl | hlast
  · rw [String.empty_append]
    rfl
  · obtain ⟨cs, hcs⟩ := List.getLast?_eq_some_iff.mp hlast
    rw [String.toList_append, hcs, List.append_assoc, List.singleton_append, lineChars_ended,
      List.map_append]

end Text

namespace Journal

variable {α : Type} [Recorded α] {as : List α} {j : Journal α} {text : String}

/-- Lines are read one after the other: the later ones add to what was read of the earlier ones. -/
theorem readLines_append (path : String) (n : Nat) (records : Catalog α)
    (lines more : List (Option String)) : readLines path n records (lines ++ more) =
      readLines path n records lines >>= fun records =>
        readLines path (n + lines.length) records more := by
  induction lines generalizing n records with
  | nil => rfl
  | cons line lines ih =>
    have hnumber : n + 1 + lines.length = n + (lines.length + 1) := by omega
    cases line with
    | none => rfl
    | some line =>
      rw [List.cons_append, readLines, readLines, ih, hnumber]
      -- a blank line, a line that is no record, or a record
      split
      · rfl
      · cases (readLine? line : Option α) with
        | none => rfl
        | some a =>
          dsimp only
          rw [ih, hnumber]
          rfl

/-- **Appended records are inserted in their order**, if the file can be read. -/
theorem read_append (hcontents : j.contents = some (.text text)) (hends : Text.EndsLine text)
    (h : ∀ a ∈ as, Denotes Recorded.decode (Recorded.encode a) a) :
    { j with contents := some (.text (text ++ writeLines as)) }.read =
      j.read.map (·.insertAll as) := by
  have hlines : FileContents.lines (.text (text ++ writeLines as)) =
      FileContents.lines (.text text) ++ as.map fun a => some (Recorded.encode a).print := by
    rw [← lines_writeLines fun a ha => (h a ha).proper]
    unfold FileContents.lines
    dsimp only
    rw [Text.lines_append hends, List.map_append]
  unfold read
  rw [hcontents]
  dsimp only
  split
  · rfl
  · split
    · rfl
    · rw [hlines, readLines_append]
      cases readLines j.path 1 (.empty : Catalog α) (FileContents.lines (.text text)) with
      | error e => rfl
      | ok records => exact readLines_print _ _ _ h

end Journal

theorem TaskMap.get?_insertAll_or (tasks : TaskMap) (ts : List Task) (id : TaskId) :
    TaskMap.get? (tasks.insertAll ts) id = (ts.reverse.find? (·.id = id)).or (tasks.get? id) := by
  have hsame : (fun t : Task => Keyed.key t == id.text) = fun t : Task => decide (t.id = id) :=
    funext fun t => t.id.text_beq id
  unfold TaskMap.get?
  rw [Catalog.find?_insertAll, hsame]

/-- **Lines appended by hand take effect.**  A file that can be read, and whose last line is ended,
is read with the appended tasks inserted in their order: under each identifier the last of them is
found, and what was in the file before only if none of them has it.  And whatever tasks are written
to a file are read back from it. -/
theorem appended_lines_take_effect (j : Journal Task) :
    (∀ (text : String) (tasks : TaskMap) (ts : List Task),
      j.contents = some (.text text) → Text.EndsLine text → j.read = .ok tasks →
      (∀ t ∈ ts, t.Recordable) →
      { j with contents := some (.text (text ++ Journal.writeLines ts)) }.read =
          .ok (tasks.insertAll ts) ∧
        ∀ id, TaskMap.get? (tasks.insertAll ts) id =
          (ts.reverse.find? (·.id = id)).or (tasks.get? id)) ∧
    (j.obstacles = {} → ∀ tasks : TaskMap, (∀ t ∈ tasks.toList, t.Recordable) →
      ∃ j', j.write tasks = .ok j' ∧ j'.read = .ok tasks) := by
  constructor
  · intro text tasks ts hcontents hends hread hts
    refine ⟨?_, tasks.get?_insertAll_or ts⟩
    rw [Journal.read_append hcontents hends fun t ht => Task.denotes_encode (hts t ht), hread]
    rfl
  · intro hfree tasks htasks
    refine ⟨{ j with contents := some (.text (Journal.render tasks)) }, ?_, ?_⟩
    · unfold Journal.write
      rw [hfree]
      rfl
    · exact Journal.read_render hfree rfl fun t ht => Task.denotes_encode (htasks t ht)

namespace Sample

def memo : TaskId := ⟨"n", by decide, by decide⟩

def clerk : UserId := ⟨"clerk", by decide, by decide⟩

/-- A record that was written by hand, in a spelling of its own, and a blank line. -/
def scribble : String :=
  "\x7b \"id\":\" n\",\"user_id\":\"u\",\"name\":\"\\u0061\",\"stage\":\"inbox\",\"status\":\"todo\"," ++
    "\"created_at\":\"2024-01-01T00:00:00Z\",\"updated_at\":\"2024-01-01T00:00:00Z\"\x7d" ++ "\r\n \n"

def jotted : Journal Task := { path := "tasks.jsonl", contents := some (.text scribble) }

/-- The same task twice more, the second time with a line feed in its name and a place. -/
def revisions : List Task :=
  [Task.create memo "b" "" clerk .epoch,
    { Task.create memo "c\n" "" clerk .epoch with
      tags := .ofList [⟨"at",
        .location ⟨.finite (.zero true), .finite ⟨false, Nat.pow 2 52, -51, by decide⟩, ""⟩⟩] }]

theorem recordable_revisions : ∀ t ∈ revisions, t.Recordable := by
  intro t ht
  rcases List.mem_cons.mp ht with rfl | ht
  · exact Task.recordable_of_untagged (by decide) rfl
  · obtain rfl := List.mem_singleton.mp ht
    refine ⟨by decide, fun tag htag => ?_⟩
    obtain rfl := List.mem_singleton.mp htag
    exact ⟨by decide +kernel, by decide +kernel⟩

end Sample

/-- The record written by hand is read, and gives way to the last of the two that are appended.
These can also be written to the file, and are read back. -/
theorem scribbled_then_revised : ∃ tasks, Sample.jotted.read = .ok tasks ∧
    (TaskMap.get? tasks Sample.memo).map Task.name = some "a" ∧
    { Sample.jotted with
      contents := some (.text (Sample.scribble ++ Journal.writeLines Sample.revisions)) }.read =
        .ok (tasks.insertAll Sample.revisions) ∧
    TaskMap.get? (tasks.insertAll Sample.revisions) Sample.memo = Sample.revisions.getLast? ∧
    ∃ j', Sample.jotted.write (.ofList Sample.revisions) = .ok j' ∧
      j'.read = .ok (.ofList Sample.revisions) := by
  obtain ⟨happended, hwritten⟩ := appended_lines_take_effect Sample.jotted
  have hends : Text.EndsLine Sample.scribble := by
    refine .inr ?_
    unfold Sample.scribble
    rw [String.toList_append, List.getLast?_append]
    rfl
  have hname : (Sample.jotted.read.toOption.bind (TaskMap.get? · Sample.memo)).map Task.name =
      some "a" := by decide +kernel
  have hlast : ∀ t ∈ Catalog.toList (.ofList Sample.revisions), t ∈ Sample.revisions := by decide
  cases hread : Sample.jotted.read with
  | error e =>
    rw [hread] at hname
    cases hname
  | ok tasks =>
    rw [hread] at hname
    obtain ⟨hafter, hget⟩ :=
      happended Sample.scribble tasks Sample.revisions rfl hends hread Sample.recordable_revisions
    refine ⟨tasks, rfl, hname, hafter, hget Sample.memo, ?_⟩
    exact hwritten rfl _ fun t ht => Sample.recordable_revisions t (hlast t ht)

end TaskPipeline
