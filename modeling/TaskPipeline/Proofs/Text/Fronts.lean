import Mathlib.Data.List.TakeWhile
import TaskPipeline.Text.Blank
import TaskPipeline.Text.LowerCase

/-!
# Fronts of texts

Trimming a front of a trimmed text gives a front that is shorter, unless it leaves the front alone
(`trimChars_front`).  The lower-cased front is a front of the lower-cased text iff the cut does not
make a capital sigma final (`lowerChars_prefix_iff`); apart from that sigma the small letters of a
character do not depend on what stands around it.
-/

namespace TaskPipeline.Text

/-! ### Trimming -/

theorem trimRight_eq_nil_iff {cs : List Char} : trimRight cs = [] ↔ ∀ c ∈ cs, isBlank c = true := by
  unfold trimRight
  rw [List.reverse_eq_nil_iff, List.dropWhile_eq_nil_iff]
  simp

theorem trimRight_isFront (cs : List Char) : trimRight cs <+: cs := by
  obtain ⟨tail, h⟩ := exists_trimRight_append cs
  exact ⟨tail, h.symm⟩

theorem dropWhile_isBlank_of_forall {cs : List Char} (h : ∀ c ∈ cs, isBlank c = false) :
    cs.dropWhile isBlank = cs := by
  cases cs with
  | nil => rfl
  | cons c cs => rw [List.dropWhile_cons_of_neg (by simp [h c])]

theorem trimmed_of_forall {s : String} (h : ∀ c ∈ s.toList, isBlank c = false) : Trimmed s := by
  have hreverse : s.toList.reverse.dropWhile isBlank = s.toList.reverse :=
    dropWhile_isBlank_of_forall fun c hc => h c (List.mem_reverse.mp hc)
  unfold Trimmed trim trimChars trimRight
  rw [dropWhile_isBlank_of_forall h, hreverse, List.reverse_reverse, String.ofList_toList]

/-- A trimmed text does not begin with a blank character. -/
theorem not_isBlank_head {c : Char} {cs : List Char} (h : trimChars (c :: cs) = c :: cs) :
    isBlank c = false := by
  by_contra hblank
  rw [Bool.not_eq_false] at hblank
  have hlength := congrArg List.length h
  have hdrop : (cs.dropWhile isBlank).length ≤ cs.length :=
    (List.dropWhile_sublist isBlank).length_le
  have htrim : (trimRight (cs.dropWhile isBlank)).length ≤ (cs.dropWhile isBlank).length :=
    (trimRight_isFront _).length_le
  unfold trimChars at hlength
  rw [List.dropWhile_cons_of_pos hblank, List.length_cons] at hlength
  omega

/-- **Trimming a front of a trimmed text** gives a front, and nothing less than one character. -/
theorem trimChars_front {cs : List Char} (h : trimChars cs = cs) (hcs : cs ≠ []) (n : Nat) :
    ∃ m ≤ n, trimChars (cs.take (n + 1)) = cs.take (m + 1) := by
  cases cs with
  | nil => exact absurd rfl hcs
  | cons c rest =>
    have hc := not_isBlank_head h
    have htrim : trimChars ((c :: rest).take (n + 1)) = trimRight ((c :: rest).take (n + 1)) := by
      unfold trimChars
      rw [List.take_succ_cons, List.dropWhile_cons_of_neg (by rw [hc]; exact Bool.false_ne_true)]
    have hfront := trimRight_isFront ((c :: rest).take (n + 1))
    have hne : trimRight ((c :: rest).take (n + 1)) ≠ [] := by
      intro hnil
      have hblank := trimRight_eq_nil_iff.mp hnil c (by simp)
      rw [hc] at hblank
      cases hblank
    have hlength := hfront.length_le
    rw [List.length_take] at hlength
    have hpos := List.length_pos_iff.mpr hne
    refine ⟨(trimRight ((c :: rest).take (n + 1))).length - 1, by omega, ?_⟩
    rw [htrim, Nat.sub_add_cancel hpos]
    exact List.prefix_iff_eq_take.mp (hfront.trans (List.take_prefix _ _))

/-! ### Lower-casing -/

/-- A cut makes a capital sigma final: the sigma follows a cased letter, nothing but characters that
case-mapping skips stands between it and the cut, and behind the cut comes a cased letter. -/
def CutsWord (before front rest : List Char) : Prop :=
  ∃ p q, front = p ++ 'Σ' :: q ∧ q.all isCaseIgnorable = true ∧
    meetsCased (p.reverse ++ before) = true ∧ meetsCased rest = true

theorem meetsCased_append (q rest : List Char) :
    meetsCased (q ++ rest) =
      if q.all isCaseIgnorable then meetsCased rest else meetsCased q := by
  induction q with
  | nil => rfl
  | cons c q ih =>
    unfold meetsCased at ih ⊢
    by_cases hc : isCaseIgnorable c = true
    · simpa [hc] using ih
    · simp [hc]

theorem meetsCased_of_all {q : List Char} (h : q.all isCaseIgnorable = true) :
    meetsCased q = false := by
  have hnil : q.dropWhile isCaseIgnorable = [] :=
    List.dropWhile_eq_nil_iff.mpr (List.all_eq_true.mp h)
  unfold meetsCased
  rw [hnil]

theorem cutsWord_cons_iff {before front rest : List Char} {c : Char} :
    CutsWord before (c :: front) rest ↔
      (c = 'Σ' ∧ front.all isCaseIgnorable = true ∧ meetsCased before = true ∧
        meetsCased rest = true) ∨ CutsWord (c :: before) front rest := by
  constructor
  · rintro ⟨p, q, h, hq, hp, hrest⟩
    cases p with
    | nil =>
      injection h with hc hfront
      exact .inl ⟨hc, hfront ▸ hq, hp, hrest⟩
    | cons d p =>
      injection h with hc hfront
      refine .inr ⟨p, q, hfront, hq, ?_, hrest⟩
      rw [hc]
      simpa using hp
  · rintro (⟨rfl, hq, hp, hrest⟩ | ⟨p, q, h, hq, hp, hrest⟩)
    · exact ⟨[], front, rfl, hq, hp, hrest⟩
    · exact ⟨c :: p, q, congrArg _ h, hq, by simpa using hp, hrest⟩

/-- **When the lower-cased front is a front of the lower-cased text.** -/
theorem lowerChars_prefix_iff (before front rest : List Char) :
    lowerChars before front <+: lowerChars before (front ++ rest) ↔
      ¬ CutsWord before front rest := by
  -- along the front; what stands before it grows
  induction front generalizing before with
  | nil =>
    refine iff_of_true List.nil_prefix ?_
    rintro ⟨p, q, h, -⟩
    cases p <;> cases h
  | cons c front ih =>
    rw [cutsWord_cons_iff, List.cons_append, lowerChars, lowerChars]
    by_cases hc : c = 'Σ'
    · have hsigma : (c == 'Σ') = true := beq_iff_eq.mpr hc
      simp only [hsigma, if_true]
      rw [meetsCased_append]
      by_cases hskip : front.all isCaseIgnorable = true
      · have hfinal := meetsCased_of_all hskip
        cases hbefore : meetsCased before <;> cases hrest : meetsCased rest <;>
          simp [hskip, hfinal, hc, ih]
      · simp [hskip, ih]
    · have hsigma : (c == 'Σ') = false := beq_eq_false_iff_ne.mpr hc
      simp only [hsigma, Bool.false_eq_true, if_false]
      rw [List.prefix_append_right_inj, ih]
      simp [hc]

end TaskPipeline.Text
