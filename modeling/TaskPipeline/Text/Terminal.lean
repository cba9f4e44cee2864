/-!
# Terminal control

A text that quotes what a user typed can hold characters that move the cursor or change colours.
`plainText` leaves them out: control characters other than blanks, and the control sequences that an
escape character begins.  What it gives has no escape character (`escape_not_mem_plainChars`), and a
text without control characters stays as it is (`plainChars_of_visible`).

A sequence has one of five forms, told apart by the character after the escape character: a single
final character, a control sequence with parameters, a device control string, an operating system
command, or a string that nobody reads.  In the first two forms a blank control character is obeyed,
and then the sequence stands still: what follows is text, until another control character is met and
the sequence goes on, or until a character beyond ASCII ends it.
-/

namespace TaskPipeline.Text

/-- What the reader of a terminal's input is in the middle of. -/
inductive ControlMode where
  /-- Text. -/
  | text
  /-- The character after an escape character. -/
  | escape
  /-- The final character of an escape sequence. -/
  | escapeFinal
  /-- The parameters of a control sequence. -/
  | control
  /-- The beginning of a device control string. -/
  | device
  /-- The parameters of a device control string. -/
  | deviceParameters
  /-- The characters after the parameters of a device control string. -/
  | deviceFinal
  /-- A string that lasts until its terminator. -/
  | hidden
  /-- An operating system command, which a bell ends too. -/
  | command
deriving DecidableEq

namespace ControlMode

/-- The mode after the character that follows an escape character. -/
def afterEscape (n : Nat) : ControlMode :=
  if n < 0x20 || 0x7f ≤ n then escape
  else if n < 0x30 then escapeFinal
  else
    match Char.ofNat n with
    | 'P' => device
    | '[' => control
    | ']' => command
    | 'X' | '^' | '_' => hidden
    | _ => text

/-- Whether one of the bytes of a character after the first is the eight-bit string terminator. -/
def hasTerminator (c : Char) : Bool :=
  (String.singleton c).toUTF8.toList.drop 1 |>.contains 0x9c

/-- The mode after a character in a device control string, before its body. -/
def afterDevice (mode : ControlMode) (n : Nat) : ControlMode :=
  if n < 0x20 || 0x7f ≤ n then mode
  else if 0x40 ≤ n then hidden
  else if n < 0x30 then deviceFinal
  else if mode == deviceFinal || (mode == deviceParameters && 0x3c ≤ n) then hidden
  else deviceParameters

/-- The mode after a character that begins no new sequence. -/
def next (mode : ControlMode) (c : Char) : ControlMode :=
  let n := c.toNat
  match mode with
  | text => text
  | escape => afterEscape n
  | escapeFinal => if 0x30 ≤ n && n < 0x7f then text else escapeFinal
  | control => if 0x40 ≤ n && n < 0x7f then text else control
  | device | deviceParameters | deviceFinal => afterDevice mode n
  | hidden => if hasTerminator c then text else hidden
  | command => if n = 7 then text else command

/-- Whether a blank control character is obeyed in the midst of a sequence, which then stands still. -/
def obeysBlanks : ControlMode → Bool
  | escape | escapeFinal | control => true
  | _ => false

end ControlMode

/-- Whether a character is a blank control character. -/
def isControlBlank (c : Char) : Bool := c == '\t' || c == '\n' || c == '\x0c' || c == '\r'

/-- Whether a character is a control character of ASCII. -/
def isControl (c : Char) : Bool := c.toNat < 0x20 || c.toNat = 0x7f

/-- Leaves out control characters and control sequences; `mode` says what came before, and `still`
whether the sequence that it is in the middle of stands still. -/
def plainChars (mode : ControlMode) (still : Bool) : List Char → List Char
  | [] => []
  | c :: cs =>
    if c == '\x1b' then plainChars .escape false cs
    else if c == '\x18' || c == '\x1a' then plainChars .text false cs
    else if (mode = .text || still) && (!isControl c || isControlBlank c) then
      c :: plainChars (if c.toNat < 0x80 then mode else .text) still cs
    else if isControlBlank c && mode.obeysBlanks then c :: plainChars mode true cs
    else plainChars (mode.next c) false cs

/-- The text as a terminal shows it, without colours. -/
def plainText (s : String) : String := String.ofList (plainChars .text false s.toList)

/-! ### What is left -/

theorem escape_not_mem_plainChars (mode : ControlMode) (still : Bool) (cs : List Char) :
    '\x1b' ∉ plainChars mode still cs := by
  fun_induction plainChars mode still cs with
  | case1 => simp
  | case2 _ _ _ _ _ ih => exact ih
  | case3 _ _ _ _ _ _ ih => exact ih
  | case4 _ _ c _ hc _ _ ih =>
    have hne : c ≠ '\x1b' := fun h => hc (by simp [h])
    simp [hne.symm, ih]
  | case5 _ _ c _ hc _ _ _ ih =>
    have hne : c ≠ '\x1b' := fun h => hc (by simp [h])
    simp [hne.symm, ih]
  | case6 _ _ _ _ _ _ _ _ ih => exact ih

theorem plainChars_of_visible (still : Bool) (cs : List Char) (h : ∀ c ∈ cs, isControl c = false) :
    plainChars .text still cs = cs := by
  induction cs with
  | nil => rfl
  | cons c cs ih =>
    have hc : isControl c = false := h c (by simp)
    have hcs : plainChars .text still cs = cs := ih fun d hd => h d (by simp [hd])
    have he : ∀ d : Char, isControl d = true → (c == d) = false := by
      intro d hd
      by_cases hcd : c = d
      · subst hcd; simp [hd] at hc
      · simpa using hcd
    have h1 := he '\x1b' (by decide)
    have h2 := he '\x18' (by decide)
    have h3 := he '\x1a' (by decide)
    simp [plainChars, h1, h2, h3, hc, hcs]

end TaskPipeline.Text
