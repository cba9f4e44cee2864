import TaskPipeline.Proofs.Json.Numeral

/-!
# Tokens of written JSON

`Spells cs ts`: the characters `cs` are cut into the tokens `ts`, whatever stands behind them that
cannot go on with a word or a number.  Numbers, texts and words spell one token each
(`spells_number`, `spells_text`), and pieces are put together with punctuation between and around them
(`Spells.join`, `Spells.enclosed`).
-/

namespace TaskPipeline.Json

variable {c : Char} {cs p q rest : List Char} {ts us : List Token} {t u : Token}

theorem tokensFrom?_cons (mode : Mode) (c : Char) (cs : List Char) : tokensFrom? mode (c :: cs) =
    (mode.step? c).bind fun r => (tokensFrom? r.2 cs).map (r.1 ++ ·) := by
  rw [tokensFrom?]
  cases mode.step? c with
  | none => rfl
  | some r =>
    obtain ⟨ts, next⟩ := r
    cases ts with
    | nil => simp
    | cons t ts => rfl

/-- What begins here cannot go on with a word or a number. -/
def Closed (rest : List Char) : Prop :=
  ∀ c, rest.head? = some c → c.isLower = false ∧ isNumberChar c = false

theorem closed_nil : Closed [] := nofun

/-- The characters are cut into the tokens, whatever closed text stands behind them. -/
def Spells (cs : List Char) (ts : List Token) : Prop :=
  ∀ rest, Closed rest → tokensFrom? .between (cs ++ rest) = (tokensFrom? .between rest).map (ts ++ ·)

theorem Spells.tokens? {s : String} (h : Spells s.toList ts) : tokens? s = some ts := by
  have hall := h [] closed_nil
  rw [List.append_nil] at hall
  unfold Json.tokens?
  rw [hall]
  simp [tokensFrom?, Mode.finish?]

theorem spells_nil : Spells [] [] := by
  intro rest _
  simp

/-! ### Punctuation -/

/-- A character that is a token by itself. -/
structure IsMark (c : Char) (t : Token) : Prop where
  starts : startToken? c = some ([t], .between)
  not_isLower : c.isLower = false
  not_isNumberChar : isNumberChar c = false

theorem isMark_openObject : IsMark '\x7b' .openObject := ⟨rfl, rfl, rfl⟩

theorem isMark_closeObject : IsMark '\x7d' .closeObject := ⟨rfl, rfl, rfl⟩

theorem isMark_openArray : IsMark '[' .openArray := ⟨rfl, rfl, rfl⟩

theorem isMark_closeArray : IsMark ']' .closeArray := ⟨rfl, rfl, rfl⟩

theorem isMark_colon : IsMark ':' .colon := ⟨rfl, rfl, rfl⟩

theorem isMark_comma : IsMark ',' .comma := ⟨rfl, rfl, rfl⟩

namespace IsMark

variable (h : IsMark c t)

include h

theorem closed (rest : List Char) : Closed (c :: rest) := by
  intro d hd
  obtain rfl := Option.some.inj hd
  exact ⟨h.not_isLower, h.not_isNumberChar⟩

theorem tokensFrom? (rest : List Char) :
    Json.tokensFrom? .between (c :: rest) = (Json.tokensFrom? .between rest).map (t :: ·) := by
  rw [tokensFrom?_cons]
  show (startToken? c).bind _ = _
  rw [h.starts]
  rfl

end IsMark

/-- Two pieces with a mark between them. -/
theorem Spells.join (hp : Spells p ts) (hc : IsMark c t) (hq : Spells q us) :
    Spells (p ++ c :: q) (ts ++ t :: us) := by
  intro rest hrest
  rw [List.append_assoc, List.cons_append, hp _ (hc.closed _), hc.tokensFrom?, hq rest hrest]
  cases tokensFrom? .between rest <;> simp

/-- A piece between two marks. -/
theorem Spells.enclosed {d : Char} (hc : IsMark c t) (hp : Spells p ts) (hd : IsMark d u) :
    Spells (c :: p ++ [d]) (t :: ts ++ [u]) := by
  intro rest _
  rw [List.append_assoc, List.cons_append, hc.tokensFrom?, List.singleton_append,
    hp _ (hd.closed rest), hd.tokensFrom?]
  cases tokensFrom? .between rest <;> simp

/-! ### Words and numbers -/

/-- A word or a number ends where closed text begins. -/
theorem tokensFrom?_of_finish {mode : Mode} (hrest : Closed rest)
    (hstep : ∀ c, c.isLower = false → isNumberChar c = false → mode.step? c =
      mode.finish?.bind fun done => (startToken? c).map fun r => (done ++ r.1, r.2)) :
    tokensFrom? mode rest =
      mode.finish?.bind fun done => (tokensFrom? .between rest).map (done ++ ·) := by
  cases rest with
  | nil =>
    rw [tokensFrom?, tokensFrom?]
    cases mode.finish? <;> simp [Mode.finish?]
  | cons c rest =>
    obtain ⟨hlower, hnumber⟩ := hrest c rfl
    rw [tokensFrom?_cons, tokensFrom?_cons, hstep c hlower hnumber]
    show _ = mode.finish?.bind fun done => ((startToken? c).bind _).map _
    cases mode.finish? with
    | none => rfl
    | some done => cases startToken? c <;> simp [Function.comp_def]

theorem tokensFrom?_word (front : List Char) (hrest : Closed rest) :
    tokensFrom? (.word front) rest =
      (wordToken? front).bind fun t => (tokensFrom? .between rest).map (t :: ·) := by
  rw [tokensFrom?_of_finish hrest]
  · show ((wordToken? front).map ([·])).bind _ = _
    cases wordToken? front <;> rfl
  · intro c hlower _
    simp only [Mode.step?, hlower, Bool.false_eq_true, if_false]
    cases startToken? c <;> rfl

theorem spells_null : Spells ['n', 'u', 'l', 'l'] [.null] :=
  fun _ hrest => tokensFrom?_word ['l', 'l', 'u', 'n'] hrest

theorem spells_true : Spells ['t', 'r', 'u', 'e'] [.bool true] :=
  fun _ hrest => tokensFrom?_word ['e', 'u', 'r', 't'] hrest

theorem spells_false : Spells ['f', 'a', 'l', 's', 'e'] [.bool false] :=
  fun _ hrest => tokensFrom?_word ['e', 's', 'l', 'a', 'f'] hrest

theorem tokensFrom?_number (front : List Char) (hrest : Closed rest) :
    tokensFrom? (.number front) rest = (Numeral.ofChars? front.reverse).bind fun n =>
      (tokensFrom? .between rest).map (.number n :: ·) := by
  rw [tokensFrom?_of_finish hrest]
  · show ((Numeral.ofChars? front.reverse).map fun n => [Token.number n]).bind _ = _
    cases Numeral.ofChars? front.reverse <;> rfl
  · intro c _ hnumber
    simp only [Mode.step?, hnumber, Bool.false_eq_true, if_false]
    cases startToken? c <;> rfl

/-- The reader stays in a number. -/
theorem tokensFrom?_number_append (front : List Char) (hcs : ∀ c ∈ cs, isNumberChar c = true) :
    tokensFrom? (.number front) (cs ++ rest) = tokensFrom? (.number (cs.reverse ++ front)) rest := by
  -- the characters read so far, the last one first, grow with each step
  induction cs generalizing front with
  | nil => rfl
  | cons c cs ih =>
    have hc := hcs c List.mem_cons_self
    have hstep : (Mode.number front).step? c = some ([], .number (c :: front)) := if_pos hc
    rw [List.cons_append, tokensFrom?_cons, hstep, Option.bind_some,
      ih _ fun d hd => hcs d (List.mem_cons_of_mem _ hd)]
    simp

theorem startToken?_of_digit (h : c = '-' ∨ c.isDigit = true) :
    startToken? c = some ([], .number [c]) := by
  rcases h with rfl | h
  · rfl
  · unfold startToken?
    split
    case h_8 =>
      have hspace : isSpace c = false := by
        unfold isSpace
        simp only [Bool.or_eq_false_iff, beq_eq_false_iff_ne]
        refine ⟨⟨⟨?_, ?_⟩, ?_⟩, ?_⟩ <;> rintro rfl <;> cases h
      simp [hspace, h]
    all_goals cases h

theorem spells_number {n : Numeral} (h : n.Proper) : Spells n.chars [.number n] := by
  intro rest hrest
  obtain ⟨c, cs, hchars, hc⟩ := Numeral.exists_chars_cons h
  have hcs : ∀ d ∈ cs, isNumberChar d = true := fun d hd =>
    Numeral.isNumberChar_of_mem_chars h.hasDigits (hchars ▸ List.mem_cons_of_mem _ hd)
  have hread : Numeral.ofChars? (cs.reverse ++ [c]).reverse = some n := by
    rw [List.reverse_append, List.reverse_reverse, List.reverse_singleton, List.singleton_append,
      ← hchars, Numeral.ofChars?_chars h]
  rw [hchars, List.cons_append, tokensFrom?_cons]
  show ((startToken? c).bind _) = _
  rw [startToken?_of_digit hc, Option.bind_some, tokensFrom?_number_append _ hcs,
    tokensFrom?_number _ hrest, hread]
  simp [Function.comp_def]

/-! ### Texts -/

theorem hexValue?_hexDigit {m : Nat} (h : m < 16) : hexValue? (hexDigit m) = some m := by
  interval_cases m <;> rfl

theorem tokensFrom?_step {mode next : Mode} (h : mode.step? c = some ([], next)) :
    tokensFrom? mode (c :: rest) = tokensFrom? next rest := by
  rw [tokensFrom?_cons, h]
  simp

/-- A character of a text is read. -/
theorem tokensFrom?_escapeChar (units : List Nat) (c : Char) (rest : List Char) :
    tokensFrom? (.text units) (escapeChar c ++ rest) =
      tokensFrom? (.text (c.toNat :: units)) rest := by
  -- an escape of two characters
  have hescape : ∀ d e, escaped? d = some e → tokensFrom? (.text units) ('\\' :: d :: rest) =
      tokensFrom? (.text (e.toNat :: units)) rest := by
    intro d e hd
    have hd' : (d == 'u') = false := by
      rw [beq_eq_false_iff_ne]
      rintro rfl
      cases hd
    have hsecond : (Mode.escape units).step? d = some ([], .text (e.toNat :: units)) := by
      simp [Mode.step?, hd', hd]
    rw [tokensFrom?_step (show (Mode.text units).step? '\\' = some ([], .escape units) from rfl),
      tokensFrom?_step hsecond]
  unfold escapeChar
  split
  case h_8 hquote hback _ _ _ _ _ =>
    split
    · next hlow =>
      have hhigh : hexValue? (hexDigit (c.toNat / 16)) = some (c.toNat / 16) :=
        hexValue?_hexDigit (by omega)
      have hlast : hexValue? (hexDigit (c.toNat % 16)) = some (c.toNat % 16) :=
        hexValue?_hexDigit (by omega)
      have hvalue : c.toNat / 16 * 16 + c.toNat % 16 = c.toNat := by omega
      have hthird : (Mode.hex units 0 2).step? (hexDigit (c.toNat / 16)) =
          some ([], .hex units (c.toNat / 16) 1) := by simp [Mode.step?, hhigh]
      have hfourth : (Mode.hex units (c.toNat / 16) 1).step? (hexDigit (c.toNat % 16)) =
          some ([], .text (c.toNat :: units)) := by simp [Mode.step?, hlast, hvalue]
      rw [List.cons_append, List.cons_append, List.cons_append, List.cons_append,
        tokensFrom?_step (show (Mode.text units).step? '\\' = some ([], .escape units) from rfl),
        tokensFrom?_step (show (Mode.escape units).step? 'u' = some ([], .hex units 0 4) from rfl),
        tokensFrom?_step (show (Mode.hex units 0 4).step? '0' = some ([], .hex units 0 3) from rfl),
        tokensFrom?_step (show (Mode.hex units 0 3).step? '0' = some ([], .hex units 0 2) from rfl),
        List.cons_append, List.singleton_append, tokensFrom?_step hthird, tokensFrom?_step hfourth]
    · next hplain =>
      have hquote : c ≠ '"' := hquote
      have hback : c ≠ '\\' := hback
      apply tokensFrom?_step
      simp [Mode.step?, hquote, hback, hplain]
  all_goals exact hescape _ _ rfl

theorem tokensFrom?_escaped (units : List Nat) (cs rest : List Char) :
    tokensFrom? (.text units) (cs.flatMap escapeChar ++ rest) =
      tokensFrom? (.text ((cs.map Char.toNat).reverse ++ units)) rest := by
  induction cs generalizing units with
  | nil => rfl
  | cons c cs ih =>
    rw [List.flatMap_cons, List.append_assoc, tokensFrom?_escapeChar, ih]
    simp

theorem assemble_cons {m : Nat} (hhigh : isHighHalf m = false) (hlow : isLowHalf m = false)
    (units : List Nat) : assemble (m :: units) = (assemble units).map (Char.ofNat m :: ·) := by
  cases units with
  | nil => simp [assemble, hhigh, hlow]
  | cons n units => rw [assemble, if_neg (by simp [hhigh]), if_neg (by simp [hlow])]

/-- Whole characters are no halves. -/
theorem assemble_toNat (cs : List Char) : assemble (cs.map Char.toNat) = some cs := by
  induction cs with
  | nil => rfl
  | cons c cs ih =>
    have hvalid : c.toNat < 0xd800 ∨ 0xdfff < c.toNat ∧ c.toNat < 0x110000 := c.valid
    have hhigh : isHighHalf c.toNat = false := by
      simp only [isHighHalf, Bool.and_eq_false_iff, decide_eq_false_iff_not]
      omega
    have hlow : isLowHalf c.toNat = false := by
      simp only [isLowHalf, Bool.and_eq_false_iff, decide_eq_false_iff_not]
      omega
    rw [List.map_cons, assemble_cons hhigh hlow, ih, Option.map_some, Char.ofNat_toNat]

/-- A text is read back as it is. -/
theorem spells_text (s : String) : Spells (quoteChars s) [.text (some s)] := by
  intro rest _
  have hopen : (Mode.between).step? '"' = some ([], .text []) := rfl
  have hclose : ∀ units, (Mode.text units).step? '"' =
      some ([.text ((assemble units.reverse).map String.ofList)], .between) := fun _ => rfl
  unfold quoteChars
  rw [List.cons_append, List.cons_append, tokensFrom?_step hopen, List.append_assoc,
    tokensFrom?_escaped, List.singleton_append, tokensFrom?_cons, hclose, Option.bind_some,
    List.append_nil, List.reverse_reverse, assemble_toNat, Option.map_some, String.ofList_toList]

end TaskPipeline.Json
