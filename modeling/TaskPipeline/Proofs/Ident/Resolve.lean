import Mathlib.Data.List.Sort
import Mathlib.Data.String.Basic
import TaskPipeline.Ident.Resolve
import TaskPipeline.Proofs.Task.Lookup

/-!
# What a text names

`Names` says what a text names among known identifiers: the one that it is, wherever that stands,
and otherwise the only one that begins with it; a text with which several begin names none of them
and is reported with all of them (`Ident.resolve_iff_names`).  It does not matter in which order the
identifiers are known.

The identifiers can be gone through once (`Ident.resolve_eq_scan`): those that begin with the text
are gathered on the way, and forgotten when the text itself comes up.
-/

namespace TaskPipeline

namespace Ident

variable {known : List TaskId} {text given : String} {ids : List TaskId}
  {r : Except IdentError TaskId}

/-! ### One pass -/

/-- Goes along the identifiers, with the ones that were found to begin with the text.  The text
itself ends the search. -/
def scan (text : String) (found : List TaskId) : List TaskId → TaskId ⊕ List TaskId
  | [] => .inr found
  | id :: rest =>
    if id.text = text then .inl id
    else scan text (if matchesFront text id then found ++ [id] else found) rest

/-- What the search was for: the identifier that ended it, or the only one that it found. -/
def verdict (text : String) : TaskId ⊕ List TaskId → Except IdentError TaskId
  | .inl id => .ok id
  | .inr [] => .error (.noMatch text)
  | .inr [id] => .ok id
  | .inr ids => .error (.ambiguous text (sortedTexts (ids.map Ident.text)))

/-- **What the search has found** at its end, whatever was found before it began: the text itself,
or else all that begin with it. -/
theorem scan_cases (text : String) (found known : List TaskId) :
    (∃ id ∈ known, id.text = text ∧ scan text found known = .inl id) ∨
      (∀ id ∈ known, id.text ≠ text) ∧
        scan text found known = .inr (found ++ known.filter (matchesFront text)) := by
  induction known generalizing found with
  | nil => exact .inr ⟨nofun, by rw [scan, List.filter_nil, List.append_nil]⟩
  | cons id rest ih =>
    rw [scan]
    by_cases hid : id.text = text
    · rw [if_pos hid]
      exact .inl ⟨id, List.mem_cons_self, hid, rfl⟩
    · rw [if_neg hid]
      rcases ih (if matchesFront text id then found ++ [id] else found) with
        ⟨k, hk, htext, hscan⟩ | ⟨hno, hscan⟩
      · exact .inl ⟨k, List.mem_cons_of_mem id hk, htext, hscan⟩
      · refine .inr ⟨List.forall_mem_cons.mpr ⟨hid, hno⟩, ?_⟩
        rw [hscan, List.filter_cons]
        split
        · rw [List.append_assoc, List.singleton_append]
        · rfl

/-- **One pass is enough.** -/
theorem resolve_eq_scan (known : List TaskId) (given : String) :
    resolve known given =
      if Text.trim given = "" then .error .emptyTaskId
      else verdict (Text.trim given) (scan (Text.trim given) [] known) := by
  unfold resolve
  dsimp only
  generalize Text.trim given = text
  split
  · rfl
  · rcases scan_cases text [] known with ⟨id, hid, htext, hscan⟩ | ⟨hno, hscan⟩
    · rw [hscan]
      cases hfind : known.find? (·.text == text) with
      | none => exact absurd (beq_iff_eq.mpr htext) (List.find?_eq_none.mp hfind id hid)
      | some k =>
        have hk : k.text = text := by simpa using List.find?_some hfind
        exact congrArg Except.ok (Ident.ext (hk.trans htext.symm))
    · have hnone : known.find? (·.text == text) = none :=
        List.find?_eq_none.mpr fun k hk => beq_iff_eq.not.mpr (hno k hk)
      rw [hscan, hnone, List.nil_append]
      match known.filter (matchesFront text) with
      | [] => rfl
      | [_] => rfl
      | _ :: _ :: _ => rfl

/-! ### What is meant -/

/-- The known identifiers that begin with a text, in ascending order. -/
structure Candidates (known : List TaskId) (text : String) (ids : List TaskId) : Prop where
  mem_iff : ∀ id, id ∈ ids ↔ id ∈ known ∧ matchesFront text id = true
  ascending : ids.Pairwise fun a b => a.text < b.text

/-- What a text names among known identifiers. -/
inductive Names (known : List TaskId) (text : String) : Except IdentError TaskId → Prop where
  /-- A blank text names nothing. -/
  | blank (h : text = "") : Names known text (.error .emptyTaskId)
  /-- A text that is an identifier names it. -/
  | whole {id : TaskId} (hid : id ∈ known) (h : id.text = text) : Names known text (.ok id)
  /-- A text with which no identifier begins names nothing. -/
  | unknown (hne : text ≠ "") (hno : ∀ id ∈ known, id.text ≠ text) (h : Candidates known text []) :
      Names known text (.error (.noMatch text))
  /-- A text with which one identifier begins names it. -/
  | only {id : TaskId} (hne : text ≠ "") (hno : ∀ id ∈ known, id.text ≠ text)
      (h : Candidates known text [id]) : Names known text (.ok id)
  /-- A text with which several identifiers begin may mean any of them. -/
  | several {ids : List TaskId} (hne : text ≠ "") (hno : ∀ id ∈ known, id.text ≠ text)
      (h : Candidates known text ids) (hmany : 2 ≤ ids.length) :
      Names known text (.error (.ambiguous text (ids.map Ident.text)))

theorem Candidates.perm (h : Candidates known text ids) (hnd : known.Nodup) :
    (known.filter (matchesFront text)).Perm ids := by
  have hids : ids.Nodup := h.ascending.imp fun hlt heq => hlt.ne (congrArg Ident.text heq)
  refine (List.perm_ext_iff_of_nodup (hnd.filter _) hids).mpr fun id => ?_
  rw [List.mem_filter, h.mem_iff]

theorem exists_candidates (hnd : known.Nodup) (text : String) :
    ∃ ids, Candidates known text ids := by
  let found := known.filter (matchesFront text)
  have hperm : (found.mergeSort fun a b => a.text ≤ b.text).Perm found := List.mergeSort_perm ..
  have hnodup : (found.mergeSort fun a b => a.text ≤ b.text).Nodup :=
    hperm.nodup_iff.mpr (hnd.filter _)
  have hsorted : (found.mergeSort fun a b => a.text ≤ b.text).Pairwise fun a b =>
      decide (a.text ≤ b.text) = true := by
    refine List.pairwise_mergeSort ?_ ?_ found
    · intro a b c hab hbc
      exact decide_eq_true (le_trans (of_decide_eq_true hab) (of_decide_eq_true hbc))
    · intro a b
      simpa using le_total a.text b.text
  refine ⟨_, fun id => by rw [hperm.mem_iff, List.mem_filter], hsorted.imp₂ ?_ hnodup⟩
  intro a b hle hne
  exact lt_of_le_of_ne (of_decide_eq_true hle) (text_inj.not.mpr hne)

/-- The candidates are reported in ascending order. -/
theorem Candidates.sortedTexts_eq (h : Candidates known text ids) (hnd : known.Nodup) :
    sortedTexts ((known.filter (matchesFront text)).map Ident.text) = ids.map Ident.text := by
  have hperm : (sortedTexts ((known.filter (matchesFront text)).map Ident.text)).Perm
      (ids.map Ident.text) := (List.mergeSort_perm ..).trans ((h.perm hnd).map Ident.text)
  have hsorted : (sortedTexts ((known.filter (matchesFront text)).map Ident.text)).Pairwise
      (· ≤ ·) := List.pairwise_mergeSort' ..
  have hascending : (ids.map Ident.text).Pairwise (· ≤ ·) :=
    List.pairwise_map.mpr (h.ascending.imp le_of_lt)
  exact hperm.eq_of_pairwise (fun _ _ _ _ => le_antisymm) hsorted hascending

theorem verdict_of_many (hmany : 2 ≤ ids.length) :
    verdict text (.inr ids) = .error (.ambiguous text (sortedTexts (ids.map Ident.text))) := by
  match ids, hmany with
  | _ :: _ :: _, _ => rfl

/-- There is always something that the text names, or a reason why it names nothing. -/
theorem exists_names (hnd : known.Nodup) (text : String) : ∃ r, Names known text r := by
  by_cases hblank : text = ""
  · exact ⟨_, .blank hblank⟩
  by_cases hwhole : ∃ id ∈ known, id.text = text
  · obtain ⟨id, hid, h⟩ := hwhole
    exact ⟨_, .whole hid h⟩
  have hno : ∀ id ∈ known, id.text ≠ text := fun id hid h => hwhole ⟨id, hid, h⟩
  obtain ⟨ids, h⟩ := exists_candidates hnd text
  match ids, h with
  | [], h => exact ⟨_, .unknown hblank hno h⟩
  | [id], h => exact ⟨_, .only hblank hno h⟩
  | id :: id' :: rest, h => exact ⟨_, .several hblank hno h (Nat.le_add_left ..)⟩

theorem resolve_of_not_whole (hne : Text.trim given ≠ "")
    (hno : ∀ id ∈ known, id.text ≠ Text.trim given) :
    resolve known given =
      verdict (Text.trim given) (.inr (known.filter (matchesFront (Text.trim given)))) := by
  rw [resolve_eq_scan, if_neg hne]
  rcases scan_cases (Text.trim given) [] known with ⟨id, hid, h, -⟩ | ⟨-, hscan⟩
  · exact absurd h (hno id hid)
  · rw [hscan, List.nil_append]

/-- The answer is what the text names. -/
theorem resolve_of_names (hnd : known.Nodup) (h : Names known (Text.trim given) r) :
    resolve known given = r := by
  cases h with
  | blank h => rw [resolve_eq_scan, if_pos h]
  | @whole id hid h =>
    rw [resolve_eq_scan, if_neg (h ▸ id.nonempty)]
    rcases scan_cases (Text.trim given) [] known with ⟨k, -, hk, hscan⟩ | ⟨hno, -⟩
    · rw [hscan, Ident.ext (hk.trans h.symm)]
      rfl
    · exact absurd h (hno id hid)
  | unknown hne hno h =>
    rw [resolve_of_not_whole hne hno, (h.perm hnd).eq_nil]
    rfl
  | only hne hno h =>
    rw [resolve_of_not_whole hne hno, (h.perm hnd).eq_singleton]
    rfl
  | several hne hno h hmany =>
    rw [resolve_of_not_whole hne hno, verdict_of_many, h.sortedTexts_eq hnd]
    rwa [(h.perm hnd).length_eq]

/-- What a text names depends on what is known only, not on the order. -/
theorem Names.congr {known' : List TaskId} (hsame : ∀ id, id ∈ known' ↔ id ∈ known)
    (h : Names known text r) : Names known' text r := by
  have hcand : ∀ {ids}, Candidates known text ids → Candidates known' text ids :=
    fun h => ⟨fun id => by rw [h.mem_iff, hsame], h.ascending⟩
  have hnone : (∀ id ∈ known, id.text ≠ text) → ∀ id ∈ known', id.text ≠ text :=
    fun hno id hid => hno id ((hsame id).mp hid)
  cases h with
  | blank h => exact .blank h
  | whole hid h => exact .whole ((hsame _).mpr hid) h
  | unknown hne hno h => exact .unknown hne (hnone hno) (hcand h)
  | only hne hno h => exact .only hne (hnone hno) (hcand h)
  | several hne hno h hmany => exact .several hne (hnone hno) (hcand h) hmany

/-- **What a text is resolved to**: what it names, and the order in which the identifiers are known
does not matter. -/
theorem resolve_iff_names (known : List TaskId) (given : String) (hnd : known.Nodup) :
    (∀ r, resolve known given = r ↔ Names known (Text.trim given) r) ∧
      ∀ known' : List TaskId, known'.Perm known → resolve known' given = resolve known given := by
  obtain ⟨r, hr⟩ := exists_names hnd (Text.trim given)
  have hanswer := resolve_of_names hnd hr
  refine ⟨fun r' => ⟨fun h => ?_, resolve_of_names hnd⟩, fun known' hperm => ?_⟩
  · rwa [← h, hanswer]
  · rw [hanswer]
    exact resolve_of_names (hperm.nodup_iff.mpr hnd) (hr.congr fun id => hperm.mem_iff)

end Ident

namespace Sample

/-- Identifiers that begin alike. -/
def ab : TaskId := ⟨"ab", by decide, by decide⟩
@[inherit_doc ab] def abc : TaskId := ⟨"abc", by decide, by decide⟩
@[inherit_doc ab] def bigAbd : TaskId := ⟨"ABd", by decide, by decide⟩

end Sample

/-- Capitals do not matter, and the text is none of the identifiers as a whole. -/
theorem resolve_shared_front :
    Ident.resolve [Sample.abc, Sample.bigAbd, Sample.ab] " aB " =
      .error (.ambiguous "aB" ["ABd", "ab", "abc"]) := by
  have htrim : Text.trim " aB " = "aB" := by decide
  have hfound : ∀ id ∈ [Sample.bigAbd, Sample.ab, Sample.abc],
      id ∈ [Sample.abc, Sample.bigAbd, Sample.ab] ∧ Ident.matchesFront "aB" id = true := by decide
  have hall : ∀ id ∈ [Sample.abc, Sample.bigAbd, Sample.ab], Ident.matchesFront "aB" id = true →
      id ∈ [Sample.bigAbd, Sample.ab, Sample.abc] := by decide
  have hcand : Ident.Candidates [Sample.abc, Sample.bigAbd, Sample.ab] "aB"
      [Sample.bigAbd, Sample.ab, Sample.abc] :=
    ⟨fun id => ⟨hfound id, fun h => hall id h.1 h.2⟩, by decide⟩
  refine ((Ident.resolve_iff_names _ _ (by decide)).1 _).mpr ?_
  rw [htrim]
  exact .several (by decide) (by decide) hcand (by decide)

end TaskPipeline
