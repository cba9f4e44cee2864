import TaskPipeline.Json.Number
import TaskPipeline.Json.Printer
import TaskPipeline.Proofs.Text.Digits

/-!
# Reading written numbers

A numeral that has digits before the point, and no needless zero in front of them, is read back from
its characters as it is (`Numeral.ofChars?_chars`).  Whole numbers are written so
(`Numeral.proper_ofNat`).  Whether the numeral of a double is, and whether it has the double as its
value, is what `Double.Rereads` says.
-/

namespace TaskPipeline.Json

variable {n : Numeral} {c : Char} {ds rest : List Char}

theorem spanDigits_append (hds : ∀ c ∈ ds, c.isDigit = true) (hrest : EndsDigits rest) :
    spanDigits (ds ++ rest) = (ds, rest) := by
  unfold spanDigits
  rw [takeWhile_isDigit hds hrest, dropWhile_isDigit hds hrest]

/-! ### The power of ten -/

/-- A power of ten as it is written. -/
def exponentChars : Option Int → List Char
  | none => []
  | some e => if e < 0 then 'e' :: intChars e else 'e' :: '+' :: intChars e

theorem exponentChars_some (e : Int) : exponentChars (some e) =
    'e' :: (if e < 0 then '-' else '+') :: Nat.toDigits 10 e.natAbs := by
  unfold exponentChars intChars
  by_cases h : e < 0 <;> simp [h]

theorem tail?_exponentChars (e : Option Int) : tail? (exponentChars e) = some e := by
  cases e with
  | none => rfl
  | some e =>
    have hall : (Nat.toDigits 10 e.natAbs).all Char.isDigit = true :=
      List.all_eq_true.mpr fun c hc => isDigit_of_mem_toDigits hc
    have hvalue : digitsValue (Nat.toDigits 10 e.natAbs) = e.natAbs := Nat.ofDigitChars_ten_toDigits
    rw [exponentChars_some]
    by_cases h : e < 0
    · simp [tail?, exponent?, h, hall, hvalue, abs_of_neg h]
    · have hback : (e.natAbs : Int) = e := by omega
      simp [tail?, exponent?, h, hall, hvalue, hback]

theorem isNumberChar_of_isDigit (h : c.isDigit = true) : isNumberChar c = true := by
  unfold isNumberChar
  rw [h]
  rfl

theorem isNumberChar_exponentChars {e : Option Int} (h : c ∈ exponentChars e) :
    isNumberChar c = true := by
  cases e with
  | none => cases h
  | some e =>
    rw [exponentChars_some, List.mem_cons, List.mem_cons] at h
    rcases h with rfl | rfl | h
    · rfl
    · split <;> rfl
    · exact isNumberChar_of_isDigit (isDigit_of_mem_toDigits h)

namespace Numeral

/-! ### Numerals -/

/-- Before and after the point stand digits. -/
def HasDigits (n : Numeral) : Prop :=
  (∀ c ∈ n.whole, c.isDigit = true) ∧ ∀ c ∈ n.fraction, c.isDigit = true

/-- Digits stand before the point, without a needless zero in front. -/
structure Proper (n : Numeral) : Prop where
  hasDigits : n.HasDigits
  whole_ne_nil : n.whole ≠ []
  length_of_zero : n.whole.head? = some '0' → n.whole.length = 1

theorem chars_eq (n : Numeral) : n.chars = (if n.negative then ['-'] else []) ++
    (n.whole ++ ((if n.fraction.isEmpty then [] else '.' :: n.fraction) ++
      exponentChars n.exponent)) := by
  have hparts : n.chars = ((if n.negative then ['-'] else []) ++ n.whole ++
      if n.fraction.isEmpty then [] else '.' :: n.fraction) ++ exponentChars n.exponent := rfl
  rw [hparts, List.append_assoc, List.append_assoc]

theorem isNumberChar_of_mem_chars (h : n.HasDigits) (hc : c ∈ n.chars) : isNumberChar c = true := by
  rw [chars_eq] at hc
  rcases List.mem_append.mp hc with hsign | hc
  · split at hsign
    · obtain rfl := List.mem_singleton.mp hsign
      rfl
    · cases hsign
  · rcases List.mem_append.mp hc with hwhole | hc
    · exact isNumberChar_of_isDigit (h.1 c hwhole)
    · rcases List.mem_append.mp hc with hfraction | hexponent
      · split at hfraction
        · cases hfraction
        · rcases List.mem_cons.mp hfraction with rfl | hfraction
          · rfl
          · exact isNumberChar_of_isDigit (h.2 c hfraction)
      · exact isNumberChar_exponentChars hexponent

/-- What stands behind the digits before the point. -/
def restChars (n : Numeral) : List Char :=
  (if n.fraction.isEmpty then [] else '.' :: n.fraction) ++ exponentChars n.exponent

theorem head?_exponentChars (e : Option Int) :
    (exponentChars e).head? = none ∨ (exponentChars e).head? = some 'e' := by
  cases e with
  | none => exact .inl rfl
  | some e => exact .inr (by rw [exponentChars_some]; rfl)

theorem endsDigits_exponentChars (e : Option Int) : EndsDigits (exponentChars e) := by
  intro c hc
  rcases head?_exponentChars e with h | h
  · rw [h] at hc
    cases hc
  · rw [h] at hc
    cases hc
    rfl

theorem head?_restChars (n : Numeral) : n.restChars.head? = none ∨ n.restChars.head? = some 'e' ∨
    n.restChars.head? = some '.' := by
  unfold restChars
  split
  · rcases head?_exponentChars n.exponent with h | h
    · exact .inl h
    · exact .inr (.inl h)
  · exact .inr (.inr rfl)

theorem endsDigits_restChars (n : Numeral) : EndsDigits n.restChars := by
  unfold restChars
  split
  · exact endsDigits_exponentChars _
  · exact endsDigits_cons (by decide)

/-! ### Reading them -/

/-- Reads a number behind its sign. -/
def ofUnsigned? (negative : Bool) (cs : List Char) : Option Numeral :=
  let (whole, rest) := spanDigits cs
  if whole.isEmpty || (whole.head? == some '0' && whole.length != 1) then none
  else
    match rest with
    | '.' :: rest =>
      let (fraction, rest) := spanDigits rest
      if fraction.isEmpty then none
      else (tail? rest).map fun e => ⟨negative, whole, fraction, e⟩
    | rest => (tail? rest).map fun e => ⟨negative, whole, [], e⟩

theorem ofChars?_minus (cs : List Char) : ofChars? ('-' :: cs) = ofUnsigned? true cs := rfl

theorem ofChars?_of_head {cs : List Char} (h : cs.head? ≠ some '-') :
    ofChars? cs = ofUnsigned? false cs := by
  unfold ofChars?
  split
  next negative cs' heq =>
  split at heq
  · exact absurd rfl h
  · cases heq
    rfl

theorem ofUnsigned?_chars (negative : Bool) (h : n.HasDigits) :
    ofUnsigned? negative (n.whole ++ n.restChars) =
      if n.whole.isEmpty || (n.whole.head? == some '0' && n.whole.length != 1) then none
      else some { n with negative := negative } := by
  have hspan := spanDigits_append h.1 n.endsDigits_restChars
  have htail := tail?_exponentChars n.exponent
  unfold ofUnsigned?
  simp only [hspan]
  split
  · rfl
  · unfold restChars
    by_cases hempty : n.fraction.isEmpty = true
    · have hnil : n.fraction = [] := List.isEmpty_iff.mp hempty
      rw [if_pos hempty, List.nil_append]
      split
      · next heq =>
        -- the power of ten does not begin with a point
        rcases head?_exponentChars n.exponent with hhead | hhead <;> rw [heq] at hhead <;> cases hhead
      · rw [htail, Option.map_some, ← hnil]
    · have hfraction := spanDigits_append h.2 (endsDigits_exponentChars n.exponent)
      rw [if_neg hempty, List.cons_append]
      simp only [hfraction]
      rw [if_neg hempty, htail, Option.map_some]

theorem ofChars?_chars_eq (h : n.HasDigits) : ofChars? n.chars =
    if n.whole.isEmpty || (n.whole.head? == some '0' && n.whole.length != 1) then none
    else some n := by
  have hunsigned := ofUnsigned?_chars n.negative h
  have hchars : n.chars = (if n.negative then ['-'] else []) ++ (n.whole ++ n.restChars) := chars_eq n
  rw [hchars]
  cases hneg : n.negative with
  | true =>
    rw [hneg] at hunsigned
    rw [if_pos rfl, List.singleton_append, ofChars?_minus, hunsigned, ← hneg]
  | false =>
    rw [hneg] at hunsigned
    rw [if_neg Bool.false_ne_true, List.nil_append, ofChars?_of_head, hunsigned, ← hneg]
    intro hhead
    cases hwhole : n.whole with
    | nil =>
      rw [hwhole, List.nil_append] at hhead
      rcases n.head?_restChars with h' | h' | h' <;> rw [h'] at hhead <;> cases hhead
    | cons c cs =>
      rw [hwhole, List.cons_append, List.head?_cons] at hhead
      have hc := h.1 c (hwhole ▸ List.mem_cons_self)
      rw [Option.some.inj hhead] at hc
      cases hc

/-- **A proper numeral is read back from its characters.** -/
theorem ofChars?_chars (h : n.Proper) : ofChars? n.chars = some n := by
  have hempty : n.whole.isEmpty = false := List.isEmpty_eq_false_iff.mpr h.whole_ne_nil
  have hzero : (n.whole.head? == some '0' && n.whole.length != 1) = false := by
    by_cases hhead : n.whole.head? = some '0'
    · simp [h.length_of_zero hhead]
    · simp [hhead]
  rw [ofChars?_chars_eq h.hasDigits, hempty, hzero]
  rfl

/-- A numeral whose characters can be read is proper. -/
theorem proper_of_ofChars? {m : Numeral} (h : n.HasDigits) (hread : ofChars? n.chars = some m) :
    m = n ∧ n.Proper := by
  rw [ofChars?_chars_eq h] at hread
  split at hread
  · cases hread
  · next hproper =>
    rw [Bool.or_eq_true, not_or, Bool.and_eq_true, not_and] at hproper
    refine ⟨(Option.some.inj hread).symm, h, ?_, fun hhead => ?_⟩
    · simpa using hproper.1
    · simpa using hproper.2 (beq_iff_eq.mpr hhead)

/-- A proper numeral begins with a sign or a digit. -/
theorem exists_chars_cons (h : n.Proper) :
    ∃ c cs, n.chars = c :: cs ∧ (c = '-' ∨ c.isDigit = true) := by
  rw [chars_eq]
  by_cases hneg : n.negative = true
  · rw [if_pos hneg]
    exact ⟨'-', _, rfl, .inl rfl⟩
  · obtain ⟨c, cs, hcs⟩ := List.exists_cons_of_ne_nil h.whole_ne_nil
    rw [if_neg hneg, hcs]
    exact ⟨c, _, rfl, .inr (h.hasDigits.1 c (hcs ▸ List.mem_cons_self))⟩

/-! ### Whole numbers -/

theorem proper_ofNat (m : Nat) : (ofNat m).Proper where
  hasDigits := ⟨fun _ hc => isDigit_of_mem_toDigits hc, nofun⟩
  whole_ne_nil := Nat.toDigits_ne_nil
  length_of_zero := by
    intro h
    obtain rfl := eq_zero_of_head?_toDigits h
    rfl

theorem nat?_ofNat {m bound : Nat} (h : m < bound) : (ofNat m).nat? bound = some m := by
  have hvalue : digitsValue (Nat.toDigits 10 m) = m := Nat.ofDigitChars_ten_toDigits
  unfold nat? ofNat
  simp [hvalue, h]

/-! ### Doubles -/

theorem isDigit_of_mem_searchGrids {d : FiniteDouble} {tieUp : Bool} {steps : Nat} {k : Int}
    (h : c ∈ (d.searchGrids tieUp steps k).digits) : c.isDigit = true := by
  induction steps generalizing k with
  | zero => cases h
  | succ steps ih =>
    unfold FiniteDouble.searchGrids at h
    split at h
    · exact isDigit_of_mem_toDigits h
    · exact ih h

theorem isDigit_of_mem_zeros {m : Nat} (h : c ∈ FiniteDouble.zeros m) : c.isDigit = true := by
  obtain rfl := List.eq_of_mem_replicate h
  rfl

theorem hasDigits_ofDouble (d : FiniteDouble) : (ofDouble d).HasDigits := by
  have hdigits : ∀ c ∈ (d.shortest false).digits, c.isDigit = true :=
    fun c hc => isDigit_of_mem_searchGrids hc
  have hzero : ∀ c ∈ ['0'], c.isDigit = true := by
    intro c hc
    obtain rfl := List.mem_singleton.mp hc
    rfl
  unfold ofDouble
  split
  · exact ⟨hzero, hzero⟩
  · generalize d.shortest false = decimal at hdigits
    obtain ⟨digits, k⟩ := decimal
    have htake : ∀ m, ∀ c ∈ digits.take m, c.isDigit = true :=
      fun m c hc => hdigits c (List.mem_of_mem_take hc)
    have hdrop : ∀ m, ∀ c ∈ digits.drop m, c.isDigit = true :=
      fun m c hc => hdigits c (List.mem_of_mem_drop hc)
    -- one case for each way to write a number
    dsimp only
    split
    · exact ⟨fun c hc => (List.mem_append.mp hc).elim (hdigits c) isDigit_of_mem_zeros, hzero⟩
    · split
      · exact ⟨htake _, hdrop _⟩
      · split
        · exact ⟨hzero, fun c hc => (List.mem_append.mp hc).elim isDigit_of_mem_zeros (hdigits c)⟩
        · exact ⟨htake _, hdrop _⟩

end Numeral

end TaskPipeline.Json

namespace TaskPipeline

/-- The digits with which a number is written are read as the number. -/
def FiniteDouble.Rereads (d : FiniteDouble) : Prop :=
  (Json.Numeral.ofChars? (Json.Numeral.ofDouble d).chars).bind Json.Numeral.double? = some d

instance (d : FiniteDouble) : Decidable d.Rereads := inferInstanceAs (Decidable (_ = _))

theorem FiniteDouble.Rereads.proper {d : FiniteDouble} (h : d.Rereads) :
    (Json.Numeral.ofDouble d).Proper ∧ (Json.Numeral.ofDouble d).double? = some d := by
  obtain ⟨m, hm, hd⟩ := Option.bind_eq_some_iff.mp h
  obtain ⟨rfl, hproper⟩ := Json.Numeral.proper_of_ofChars? (Json.Numeral.hasDigits_ofDouble d) hm
  exact ⟨hproper, hd⟩

/-- A double is written so that it is read as itself; NaN and the infinities are not. -/
def Double.Rereads : Double → Prop
  | finite d => d.Rereads
  | _ => False

instance (d : Double) : Decidable d.Rereads :=
  match d with
  | .finite d => inferInstanceAs (Decidable d.Rereads)
  | .infinity _ | .nan => inferInstanceAs (Decidable False)

end TaskPipeline
