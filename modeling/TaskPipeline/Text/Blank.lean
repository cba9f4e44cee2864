/-!
# Blank characters and trimming

`Text.isBlank` is Unicode's `White_Space` property and `Text.trim` removes blank characters from
both ends of a text.  Identifiers, names and tag keys are compared after trimming, so the facts
that matter are that trimming twice is trimming once (`trim_trim`) and that a trimmed text has no
blank character at either end (`Trimmed`, `trimmed_trim`).
-/

namespace TaskPipeline.Text

/-- Whether a character has Unicode's `White_Space` property.  Zero-width characters such as
U+200B and U+FEFF do not have it. -/
def isBlank (c : Char) : Bool :=
  let n := c.toNat
  (9 ≤ n && n ≤ 13) || n == 0x20 || n == 0x85 || n == 0xa0 || n == 0x1680 ||
    (0x2000 ≤ n && n ≤ 0x200a) || n == 0x2028 || n == 0x2029 || n == 0x202f || n == 0x205f ||
    n == 0x3000

/-- Removes the blank characters at the end of a list. -/
def trimRight (cs : List Char) : List Char := (cs.reverse.dropWhile isBlank).reverse

/-- Removes the blank characters at both ends of a list. -/
def trimChars (cs : List Char) : List Char := trimRight (cs.dropWhile isBlank)

/-- Removes the blank characters at both ends of a text. -/
def trim (s : String) : String := String.ofList (trimChars s.toList)

/-- Whether a text has nothing but blank characters; the empty text counts. -/
def isBlankText (s : String) : Bool := s.toList.all isBlank

/-- No blank character stands at either end. -/
def Trimmed (s : String) : Prop := trim s = s

instance (s : String) : Decidable (Trimmed s) := inferInstanceAs (Decidable (trim s = s))

/-! ### Trimming twice -/

theorem dropWhile_dropWhile (p : Char → Bool) (cs : List Char) :
    (cs.dropWhile p).dropWhile p = cs.dropWhile p := by
  induction cs with
  | nil => rfl
  | cons c cs ih =>
    by_cases h : p c
    · simpa [List.dropWhile_cons, h] using ih
    · simp [h]

theorem trimRight_trimRight (cs : List Char) : trimRight (trimRight cs) = trimRight cs := by
  simp [trimRight, dropWhile_dropWhile]

/-- What is left after trimming the right end is a front part of the list. -/
theorem exists_trimRight_append (cs : List Char) : ∃ tail, cs = trimRight cs ++ tail := by
  refine ⟨(cs.reverse.takeWhile isBlank).reverse, ?_⟩
  rw [trimRight, ← List.reverse_append, List.takeWhile_append_dropWhile, List.reverse_reverse]

theorem trimChars_trimChars (cs : List Char) : trimChars (trimChars cs) = trimChars cs := by
  have key : (trimChars cs).dropWhile isBlank = trimChars cs := by
    obtain ⟨tail, h⟩ := exists_trimRight_append (cs.dropWhile isBlank)
    have hd := dropWhile_dropWhile isBlank cs
    unfold trimChars
    generalize cs.dropWhile isBlank = ds at h hd
    cases hm : trimRight ds with
    | nil => rfl
    | cons c rest =>
      rw [hm] at h
      rw [h] at hd
      by_cases hc : isBlank c
      · have := congrArg List.length hd
        simp only [List.cons_append, List.dropWhile_cons, hc, ↓reduceIte] at this
        have hle := (List.dropWhile_sublist (l := rest ++ tail) isBlank).length_le
        simp only [List.length_cons] at this
        omega
      · simp [hc]
  rw [trimChars, key, trimChars]
  exact trimRight_trimRight _

/-- Trimming twice is trimming once, so an identifier read back from its own text is itself. -/
theorem trim_trim (s : String) : trim (trim s) = trim s := by
  simp [trim, trimChars_trimChars]

theorem trimmed_trim (s : String) : Trimmed (trim s) := trim_trim s

end TaskPipeline.Text
