import TaskPipeline.Proofs.Text.Digits
import TaskPipeline.Time.Reader

/-!
# Reading written times

`Instant.read?_text`: a time is read back from its text, a leap second and a year of any length
included.  Each step of the reader takes one piece of the text and leaves what stands behind it.
-/

namespace TaskPipeline.Time

variable {c : Char} {ds rest : List Char} {n least most width : Nat}

theorem frontDigits_eq (most : Nat) (cs : List Char) :
    frontDigits most cs = (cs.takeWhile Char.isDigit).take most := by
  induction cs generalizing most with
  | nil => cases most <;> simp [frontDigits]
  | cons c cs ih =>
    cases most with
    | zero => simp [frontDigits]
    | succ most =>
      by_cases hc : c.isDigit = true
      · simp [frontDigits, hc, ih]
      · simp [frontDigits, hc]

theorem frontDigits_append (hds : ∀ c ∈ ds, c.isDigit = true) (hrest : EndsDigits rest)
    (hmost : ds.length ≤ most) : frontDigits most (ds ++ rest) = ds := by
  rw [frontDigits_eq, takeWhile_isDigit hds hrest, List.take_of_length_le hmost]

theorem digits_append (hds : ∀ c ∈ ds, c.isDigit = true) (hrest : EndsDigits rest)
    (hleast : least ≤ ds.length) (hmost : ds.length ≤ most) :
    digits least most (ds ++ rest) = some (Nat.ofDigitChars 10 ds 0, rest) := by
  unfold digits
  simp only [frontDigits_append hds hrest hmost]
  rw [if_neg (by omega), List.drop_left]

theorem digits_padded (hrest : EndsDigits rest) (hleast : least ≤ (padded width n).length)
    (hmost : (padded width n).length ≤ most) :
    digits least most (padded width n ++ rest) = some (n, rest) := by
  have hds : ∀ c ∈ padded width n, c.isDigit = true := fun c hc => isDigit_of_mem_padded hc
  rw [digits_append hds hrest hleast hmost, ofDigitChars_padded]

theorem skipBlanks_cons (h : Text.isBlank c = false) : skipBlanks (c :: rest) = c :: rest := by
  unfold skipBlanks
  rw [List.dropWhile_cons_of_neg (by simp [h])]

theorem exists_padded_cons (hwidth : 0 < width) (n : Nat) :
    ∃ c ds, padded width n = c :: ds ∧ c.isDigit = true := by
  have hlength := length_padded width n
  cases hds : padded width n with
  | nil =>
    rw [hds, List.length_nil] at hlength
    omega
  | cons c ds => exact ⟨c, ds, rfl, isDigit_of_mem_padded (hds ▸ List.mem_cons_self)⟩

theorem skipBlanks_padded (hwidth : 0 < width) :
    skipBlanks (padded width n ++ rest) = padded width n ++ rest := by
  obtain ⟨c, ds, hds, hc⟩ := exists_padded_cons hwidth n
  rw [hds]
  exact skipBlanks_cons (not_isBlank_of_isDigit hc)

/-- A number of two digits is read. -/
theorem number_padded (h : n < 100) (hrest : EndsDigits rest) :
    number 2 (padded 2 n ++ rest) = some (n, rest) := by
  have hlength : (padded 2 n).length = 2 := length_padded_of_lt (by decide) h
  unfold number
  rw [skipBlanks_padded (by decide), digits_padded hrest (by omega) (by omega)]

theorem spacedChar_cons (h : Text.isBlank c = false) : spacedChar c (c :: rest) = some ((), rest) := by
  unfold spacedChar
  rw [skipBlanks_cons h]
  simp [char]

theorem year_minus (cs : List Char) :
    Time.year ('-' :: cs) = (digits 1 cs.length cs).map fun (n, rest) => (-(n : Int), rest) := rfl

theorem year_plus (cs : List Char) :
    Time.year ('+' :: cs) = (digits 1 cs.length cs).map fun (n, rest) => ((n : Int), rest) := rfl

theorem year_digit {cs : List Char} (h : c.isDigit = true) :
    Time.year (c :: cs) = (digits 1 4 (c :: cs)).map fun (n, rest) => ((n : Int), rest) := by
  unfold Time.year
  rw [skipBlanks_cons (not_isBlank_of_isDigit h)]
  split
  · next heq =>
    injection heq with hc
    rw [hc] at h
    cases h
  · next heq =>
    injection heq with hc
    rw [hc] at h
    cases h
  · rfl

/-- A year is read, with or without a sign. -/
theorem year_yearChars (y : Int) (hrest : EndsDigits rest) :
    Time.year (yearChars y ++ rest) = some (y, rest) := by
  unfold yearChars
  split
  · next hshort =>
    have hlength : (padded 4 y.toNat).length = 4 := length_padded_of_lt (by decide) (by omega)
    have hread : digits 1 4 (padded 4 y.toNat ++ rest) = some (y.toNat, rest) :=
      digits_padded hrest (by omega) (by omega)
    have hnat : (y.toNat : Int) = y := Int.toNat_of_nonneg hshort.1
    obtain ⟨c, ds, hds, hc⟩ := exists_padded_cons (by decide : 0 < 4) y.toNat
    rw [hds, List.cons_append] at hread ⊢
    rw [year_digit hc, hread]
    exact congrArg (fun i => some (i, rest)) hnat
  · next hlong =>
    have hlength := length_padded 4 y.natAbs
    have hread : digits 1 (padded 4 y.natAbs ++ rest).length (padded 4 y.natAbs ++ rest) =
        some (y.natAbs, rest) := digits_padded hrest (by omega) (by simp)
    by_cases hneg : y < 0
    · have hnat : -(y.natAbs : Int) = y := by omega
      rw [if_pos hneg, List.cons_append, year_minus, hread]
      exact congrArg (fun i => some (i, rest)) hnat
    · have hnat : (y.natAbs : Int) = y := by omega
      rw [if_neg hneg, List.cons_append, year_plus, hread]
      exact congrArg (fun i => some (i, rest)) hnat

/-- Digits after a point are read as nanoseconds. -/
theorem fraction_padded (hwidth : 0 < width) (hnine : width ≤ 9) (hn : n < 10 ^ width)
    (hc : c.isDigit = false) : fraction ('.' :: padded width n ++ c :: rest) =
      some (n * Nat.pow 10 (9 - width), c :: rest) := by
  have hlength : (padded width n).length = width := length_padded_of_lt hwidth hn
  have hfront : frontDigits 9 (padded width n ++ c :: rest) = padded width n :=
    frontDigits_append (fun c hc => isDigit_of_mem_padded hc) (endsDigits_cons hc) (by omega)
  have hdrop : (padded width n ++ c :: rest).drop width = c :: rest := List.drop_left' hlength
  obtain ⟨d, ds, hds, -⟩ := exists_padded_cons hwidth n
  unfold fraction
  simp only [List.cons_append, hfront, hlength, hdrop, ofDigitChars_padded]
  rw [hds, List.dropWhile_cons_of_neg (by simp [hc])]
  rfl

theorem fraction_fractionChars {nano : Nat} (h : nano < 1000000000) (hc : c.isDigit = false)
    (hpoint : c ≠ '.') : fraction (fractionChars nano ++ c :: rest) = some (nano, c :: rest) := by
  unfold fractionChars
  split
  · next hzero =>
    unfold fraction
    split
    · next heq =>
      injection heq with hc'
      exact absurd hc' hpoint
    · rw [hzero]
      rfl
  · split
    · next hmilli =>
      have hn : nano / 1000000 < 10 ^ 3 := by omega
      have hback : nano / 1000000 * Nat.pow 10 (9 - 3) = nano :=
        Nat.div_mul_cancel (Nat.dvd_of_mod_eq_zero hmilli)
      rw [fraction_padded (by decide) (by decide) hn hc, hback]
    · split
      · next hmicro =>
        have hn : nano / 1000 < 10 ^ 6 := by omega
        have hback : nano / 1000 * Nat.pow 10 (9 - 6) = nano :=
          Nat.div_mul_cancel (Nat.dvd_of_mod_eq_zero hmicro)
        rw [fraction_padded (by decide) (by decide) hn hc, hback]
      · rw [fraction_padded (by decide) (by decide) h hc, Nat.sub_self]
        simp

theorem endsDigits_fractionChars (nano : Nat) (hc : c.isDigit = false) :
    EndsDigits (fractionChars nano ++ c :: rest) := by
  have hpoint : Char.isDigit '.' = false := by decide
  unfold fractionChars
  split
  · exact endsDigits_cons hc
  · split
    · exact endsDigits_cons hpoint
    · split <;> exact endsDigits_cons hpoint

/-! ### Whole times -/

/-- The parts of a time stand for it. -/
theorem instant?_parts (t : Instant) :
    instant? t.date.year t.date.month t.date.day (t.second / 3600) (t.second / 60 % 60)
      (t.second % 60 + if t.inLeapSecond then 1 else 0) (t.nano % Instant.nanosPerSecond) 0 =
        some t := by
  obtain ⟨date, second, nano, hsecond, hnano⟩ := t
  have hdate : Date.ofParts? date.year date.month date.day = some date := by
    unfold Date.ofParts?
    rw [dif_pos date.valid]
  have hclock : second / 3600 * 3600 + second / 60 % 60 * 60 + second % 60 = second := by omega
  have hminute : second / 60 % 60 < 60 := by omega
  have hhour : second / 3600 < 24 := by omega
  unfold instant? Instant.inLeapSecond Instant.nanosPerSecond
  by_cases hleap : 1000000000 ≤ nano
  · -- a leap second is written as second 60
    have hlast : second % 60 = 59 := by omega
    have hnano' : nano % 1000000000 + 1000000000 = nano := by omega
    have hparts : Instant.ofParts? date second nano = some ⟨date, second, nano, hsecond, hnano⟩ :=
      dif_pos ⟨hsecond, hnano⟩
    rw [hlast] at hclock
    simp [hdate, hleap, hlast, hnano', hclock, hhour, hminute, hparts]
  · have hshort : second % 60 < 60 := Nat.mod_lt _ (by decide)
    have hnano' : nano % 1000000000 = nano := Nat.mod_eq_of_lt (by omega)
    have hparts : Instant.ofParts? date second nano = some ⟨date, second, nano, hsecond, hnano⟩ :=
      dif_pos ⟨hsecond, hnano⟩
    have hne : second % 60 ≠ 60 := by omega
    have hle : second % 60 ≤ 60 := by omega
    simp [hdate, hleap, hne, hle, hnano', hclock, hhour, hminute, hparts]

end TaskPipeline.Time

namespace TaskPipeline

theorem daysInMonth_le (year : Int) (month : Nat) : daysInMonth year month ≤ 31 := by
  unfold daysInMonth
  split
  · split <;> decide
  all_goals decide

namespace Instant

open Time

/-- **A time is read back from its text.** -/
theorem read?_text (t : Instant) : read? t.text = some t := by
  have hsecond := t.second_lt
  have hdays := daysInMonth_le t.date.year t.date.month
  have hnano : t.nano % nanosPerSecond < 1000000000 := Nat.mod_lt _ (by decide)
  obtain ⟨-, -, -, hmonth, -, hday⟩ := t.date.valid
  have hclock : t.second % 60 + (if t.inLeapSecond then 1 else 0) < 100 := by split <;> omega
  have htext : t.text.toList = yearChars t.date.year ++ '-' :: (padded 2 t.date.month ++
      '-' :: (padded 2 t.date.day ++ 'T' :: (padded 2 (t.second / 3600) ++
        ':' :: (padded 2 (t.second / 60 % 60) ++
          ':' :: (padded 2 (t.second % 60 + if t.inLeapSecond then 1 else 0) ++
            (fractionChars (t.nano % nanosPerSecond) ++ ['Z'])))))) := by
    simp [text, localChars, clockChars, Date.chars]
  have htwo : ∀ n c rest, n < 100 → c.isDigit = false →
      number 2 (padded 2 n ++ c :: rest) = some (n, c :: rest) :=
    fun n c rest hn hc => number_padded hn (endsDigits_cons hc)
  have hletter : ∀ rest, dateTimeSeparator ('T' :: rest) = some ((), rest) := fun _ => rfl
  have hends : EndsDigits (fractionChars (t.nano % nanosPerSecond) ++ ['Z']) :=
    endsDigits_fractionChars _ (by decide)
  have hoffset : lenientOffset (skipBlanks ['Z']) = some (0, []) := by decide
  unfold read?
  rw [htext]
  -- what the reader takes, step by step
  refine Option.bind_eq_some_iff.mpr ⟨_, year_yearChars _ (endsDigits_cons (by decide)), ?_⟩
  refine Option.bind_eq_some_iff.mpr ⟨_, spacedChar_cons (by decide), ?_⟩
  refine Option.bind_eq_some_iff.mpr ⟨_, htwo _ _ _ (by omega) (by decide), ?_⟩
  refine Option.bind_eq_some_iff.mpr ⟨_, spacedChar_cons (by decide), ?_⟩
  refine Option.bind_eq_some_iff.mpr ⟨_, htwo _ _ _ (by omega) (by decide), ?_⟩
  refine Option.bind_eq_some_iff.mpr ⟨_, hletter _, ?_⟩
  refine Option.bind_eq_some_iff.mpr ⟨_, htwo _ _ _ (by omega) (by decide), ?_⟩
  refine Option.bind_eq_some_iff.mpr ⟨_, spacedChar_cons (by decide), ?_⟩
  refine Option.bind_eq_some_iff.mpr ⟨_, htwo _ _ _ (by omega) (by decide), ?_⟩
  refine Option.bind_eq_some_iff.mpr ⟨_, spacedChar_cons (by decide), ?_⟩
  refine Option.bind_eq_some_iff.mpr ⟨_, number_padded hclock hends, ?_⟩
  refine Option.bind_eq_some_iff.mpr ⟨_, fraction_fractionChars hnano (by decide) (by decide), ?_⟩
  refine Option.bind_eq_some_iff.mpr ⟨_, hoffset, ?_⟩
  exact instant?_parts t

end Instant

end TaskPipeline
