import TaskPipeline.Json.Reader
import TaskPipeline.Proofs.Json.Tokens

/-!
# Reading written values

`Value.Proper.read?_print`: a value is read back from its text if its numerals are proper and nothing in
it is garbled.  Every piece of the text spells tokens (`Spells`), and every piece of the tokens builds its
value on top of whatever is open (`Builds`); both are shown in one induction over the value.

The text has no control characters in it (`Value.Proper.inline`), so it fits on a line.
-/

namespace TaskPipeline.Json

variable {v : Value} {items : List Value} {members : List (String × Value)} {c : Char}

/-- The numerals of the value are proper, and nothing in it is garbled. -/
inductive Value.Proper : Value → Prop
  | null : Proper .null
  | bool (b : Bool) : Proper (.bool b)
  | number {n : Numeral} (h : n.Proper) : Proper (.number n)
  | string (s : String) : Proper (.string s)
  | array {items : List Value} (h : ∀ v ∈ items, v.Proper) : Proper (.array items)
  | object {members : List (String × Value)} (h : ∀ m ∈ members, m.2.Proper) :
    Proper (.object members)

theorem itemChars_eq (items : List Value) : itemChars items = items.map Value.chars := by
  induction items with
  | nil => rfl
  | cons v vs ih => rw [itemChars, ih, List.map_cons]

theorem memberChars_eq (members : List (String × Value)) : memberChars members =
    members.map fun m => quoteChars m.1 ++ ':' :: m.2.chars := by
  induction members with
  | nil => rfl
  | cons m ms ih =>
    obtain ⟨name, v⟩ := m
    rw [memberChars, ih, List.map_cons]

/-! ### Building values -/

/-- The tokens build the value where a value may stand. -/
def Builds (ts : List Token) (v : Value) : Prop := ∀ stack fresh more,
  (Builder.value stack fresh).run? (ts ++ more) = (Builder.next stack v).run? more

/-- The characters spell tokens that build the value. -/
def Writes (cs : List Char) (v : Value) : Prop := ∃ ts, Spells cs ts ∧ Builds ts v

theorem run?_step {b b' : Builder} {t : Token} (h : b.step? t = some b') (more : List Token) :
    b.run? (t :: more) = b'.run? more := by
  rw [Builder.run?, h, Option.bind_some]

/-- A token that is a value by itself. -/
theorem builds_token {t : Token}
    (h : ∀ stack fresh, (Builder.value stack fresh).step? t = some (.next stack v)) :
    Builds [t] v := fun stack fresh more => run?_step (h stack fresh) more

/-- Items with commas between them, up to the closing bracket. -/
theorem writes_items (hne : items ≠ []) (h : ∀ v ∈ items, Writes v.chars v) :
    ∃ ts, Spells (commaJoin (items.map Value.chars)) ts ∧ ∀ done stack fresh more,
      (Builder.value (.array done :: stack) fresh).run? (ts ++ .closeArray :: more) =
        (Builder.next stack (.array (done.reverse ++ items))).run? more := by
  -- along the items; those that were read before, in `done`, are general
  induction items with
  | nil => exact absurd rfl hne
  | cons v rest ih =>
    obtain ⟨ts, hspells, hbuilds⟩ := h v List.mem_cons_self
    cases rest with
    | nil =>
      refine ⟨ts, hspells, fun done stack fresh more => ?_⟩
      rw [hbuilds, run?_step rfl, List.reverse_cons]
    | cons w rest =>
      obtain ⟨us, hspells', hbuilds'⟩ :=
        ih (List.cons_ne_nil _ _) fun v hv => h v (List.mem_cons_of_mem _ hv)
      refine ⟨ts ++ .comma :: us, hspells.join isMark_comma hspells', fun done stack fresh more => ?_⟩
      rw [List.append_assoc, hbuilds, List.cons_append, run?_step rfl, hbuilds']
      simp

/-- Members with commas between them, up to the closing brace. -/
theorem writes_members (hne : members ≠ []) (h : ∀ m ∈ members, Writes m.2.chars m.2) :
    ∃ ts, Spells (commaJoin (members.map fun m => quoteChars m.1 ++ ':' :: m.2.chars)) ts ∧
      ∀ done stack fresh more, (Builder.name stack done true fresh).run? (ts ++ .closeObject :: more) =
        (Builder.next stack (.object (done.reverse ++ members))).run? more := by
  induction members with
  | nil => exact absurd rfl hne
  | cons m rest ih =>
    obtain ⟨name, v⟩ := m
    obtain ⟨ts, hvalue, hbuilds⟩ := h (name, v) List.mem_cons_self
    have hspells := (spells_text name).join isMark_colon hvalue
    cases rest with
    | nil =>
      refine ⟨_, hspells, fun done stack fresh more => ?_⟩
      rw [List.append_assoc, List.singleton_append, run?_step rfl, List.cons_append, run?_step rfl,
        hbuilds, run?_step rfl, closeObject, if_pos rfl, List.reverse_cons]
    | cons m' rest =>
      obtain ⟨us, hspells', hbuilds'⟩ :=
        ih (List.cons_ne_nil _ _) fun m hm => h m (List.mem_cons_of_mem _ hm)
      refine ⟨_, hspells.join isMark_comma hspells', fun done stack fresh more => ?_⟩
      rw [List.append_assoc, List.append_assoc, List.singleton_append, run?_step rfl,
        List.cons_append, run?_step rfl, hbuilds, List.cons_append, run?_step rfl, hbuilds']
      simp

theorem writes_array (h : ∀ v ∈ items, Writes v.chars v) :
    Writes (Value.array items).chars (.array items) := by
  rw [Value.chars, itemChars_eq]
  cases items with
  | nil =>
    refine ⟨_, Spells.enclosed isMark_openArray spells_nil isMark_closeArray,
      fun stack fresh more => ?_⟩
    rw [List.append_assoc, List.cons_append, run?_step rfl]
    exact run?_step rfl more
  | cons v items =>
    obtain ⟨ts, hspells, hbuilds⟩ := writes_items (List.cons_ne_nil v items) h
    refine ⟨_, hspells.enclosed isMark_openArray isMark_closeArray, fun stack fresh more => ?_⟩
    rw [List.append_assoc, List.cons_append, run?_step rfl, List.singleton_append, hbuilds]
    rfl

theorem writes_object (h : ∀ m ∈ members, Writes m.2.chars m.2) :
    Writes (Value.object members).chars (.object members) := by
  rw [Value.chars, memberChars_eq]
  cases members with
  | nil =>
    refine ⟨_, Spells.enclosed isMark_openObject spells_nil isMark_closeObject,
      fun stack fresh more => ?_⟩
    rw [List.append_assoc, List.cons_append, run?_step rfl]
    exact run?_step rfl more
  | cons m members =>
    obtain ⟨ts, hspells, hbuilds⟩ := writes_members (List.cons_ne_nil m members) h
    refine ⟨_, hspells.enclosed isMark_openObject isMark_closeObject, fun stack fresh more => ?_⟩
    rw [List.append_assoc, List.cons_append, run?_step rfl, List.singleton_append, hbuilds]
    rfl

namespace Value

theorem Proper.writes (h : v.Proper) : Writes v.chars v := by
  induction h with
  | null => exact ⟨_, spells_null, builds_token fun _ _ => rfl⟩
  | bool b =>
    cases b with
    | true => exact ⟨_, spells_true, builds_token fun _ _ => rfl⟩
    | false => exact ⟨_, spells_false, builds_token fun _ _ => rfl⟩
  | number h => exact ⟨_, spells_number h, builds_token fun _ _ => rfl⟩
  | string s => exact ⟨_, spells_text s, builds_token fun _ _ => rfl⟩
  | array _ ih => exact writes_array ih
  | object _ ih => exact writes_object ih

/-- **A proper value is read back from its text.** -/
theorem Proper.read?_print (h : v.Proper) : read? v.print = some v := by
  obtain ⟨ts, hspells, hbuilds⟩ := h.writes
  have htokens : tokens? v.print = some ts := by
    apply Spells.tokens?
    rw [print, String.toList_ofList]
    exact hspells
  have hrun := hbuilds [] false []
  rw [List.append_nil] at hrun
  unfold read?
  rw [htokens, Option.bind_eq_bind, Option.bind_some, hrun]
  rfl

end Value

/-! ### One line -/

/-- The character stands on a line of text. -/
def Inline (c : Char) : Prop := 0x20 ≤ c.toNat

instance (c : Char) : Decidable (Inline c) := inferInstanceAs (Decidable (_ ≤ _))

theorem inline_of_isNumberChar (h : isNumberChar c = true) : Inline c := by
  unfold isNumberChar at h
  simp only [Bool.or_eq_true, beq_iff_eq] at h
  rcases h with ((((hdigit | rfl) | rfl) | rfl) | rfl) | rfl
  · have hlow : 48 ≤ c.toNat := (Char.isDigit_iff_toNat.mp hdigit).1
    show 32 ≤ c.toNat
    omega
  all_goals decide

theorem inline_hexDigit {m : Nat} (h : m < 16) : Inline (hexDigit m) := by
  interval_cases m <;> decide

theorem inline_escapeChar {d : Char} (h : d ∈ escapeChar c) : Inline d := by
  unfold escapeChar at h
  split at h
  case h_8 =>
    split at h
    · simp only [List.mem_cons, List.not_mem_nil, or_false] at h
      rcases h with rfl | rfl | rfl | rfl | rfl | rfl
      · decide
      · decide
      · decide
      · decide
      · exact inline_hexDigit (by omega)
      · exact inline_hexDigit (by omega)
    · next hplain =>
      obtain rfl := List.mem_singleton.mp h
      exact Nat.le_of_not_lt hplain
  all_goals
    simp only [List.mem_cons, List.not_mem_nil, or_false] at h
    rcases h with rfl | rfl <;> decide

theorem inline_quoteChars {s : String} (h : c ∈ quoteChars s) : Inline c := by
  unfold quoteChars at h
  rcases List.mem_append.mp h with h | h
  · rcases List.mem_cons.mp h with rfl | h
    · decide
    · obtain ⟨d, -, hc⟩ := List.mem_flatMap.mp h
      exact inline_escapeChar hc
  · obtain rfl := List.mem_singleton.mp h
    decide

theorem inline_commaJoin {pieces : List (List Char)} (h : ∀ p ∈ pieces, ∀ c ∈ p, Inline c) :
    ∀ c ∈ commaJoin pieces, Inline c := by
  induction pieces with
  | nil => nofun
  | cons p rest ih =>
    cases rest with
    | nil => exact h p List.mem_cons_self
    | cons q rest =>
      intro c hc
      rcases List.mem_append.mp hc with hc | hc
      · exact h p List.mem_cons_self c hc
      · rcases List.mem_cons.mp hc with rfl | hc
        · decide
        · exact ih (fun q hq => h q (List.mem_cons_of_mem _ hq)) c hc

theorem inline_enclosed {d : Char} {cs : List Char} (hc : Inline c) (hd : Inline d)
    (hcs : ∀ e ∈ cs, Inline e) : ∀ e ∈ c :: cs ++ [d], Inline e := by
  intro e he
  rcases List.mem_append.mp he with he | he
  · rcases List.mem_cons.mp he with rfl | he
    · exact hc
    · exact hcs e he
  · rwa [List.mem_singleton.mp he]

/-- **A value is written on one line.** -/
theorem Value.Proper.inline (h : v.Proper) : ∀ c ∈ v.chars, Inline c := by
  induction h with
  | null =>
    have hall : (Value.null.chars.all fun c => decide (Inline c)) = true := by decide
    exact fun c hc => of_decide_eq_true (List.all_eq_true.mp hall c hc)
  | bool b =>
    have hall : ((Value.bool b).chars.all fun c => decide (Inline c)) = true := by cases b <;> decide
    exact fun c hc => of_decide_eq_true (List.all_eq_true.mp hall c hc)
  | number h =>
    intro c hc
    exact inline_of_isNumberChar (Numeral.isNumberChar_of_mem_chars h.hasDigits hc)
  | string s => exact fun c hc => inline_quoteChars hc
  | array _ ih =>
    rw [Value.chars, itemChars_eq]
    refine inline_enclosed (by decide) (by decide) (inline_commaJoin fun p hp => ?_)
    obtain ⟨v, hv, rfl⟩ := List.mem_map.mp hp
    exact ih v hv
  | object _ ih =>
    rw [Value.chars, memberChars_eq]
    refine inline_enclosed (by decide) (by decide) (inline_commaJoin fun p hp => ?_)
    obtain ⟨m, hm, rfl⟩ := List.mem_map.mp hp
    intro c hc
    rcases List.mem_append.mp hc with hc | hc
    · exact inline_quoteChars hc
    · rcases List.mem_cons.mp hc with rfl | hc
      · decide
      · exact ih m hm c hc

end TaskPipeline.Json
