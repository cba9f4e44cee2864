import TaskPipeline.Json.Value

/-!
# JSON tokens

`Json.tokens?` cuts a text into the tokens of JSON: punctuation, words, numbers and strings, with
blank characters between them.  It reads the text from left to right, one character at a time, and
remembers in a `Mode` what it is in the middle of, so it needs no bound on the length of a token.
-/

namespace TaskPipeline.Json

/-- A token.  A text that has no value, because an escape for half of a character stands alone in
it, is `text none`. -/
inductive Token where
  /-- The brace that begins an object. -/
  | openObject
  /-- The brace that ends an object. -/
  | closeObject
  /-- The bracket that begins an array. -/
  | openArray
  /-- The bracket that ends an array. -/
  | closeArray
  /-- The colon after a member name. -/
  | colon
  /-- The comma between items. -/
  | comma
  /-- The word `null`. -/
  | null
  /-- The word `true` or `false`. -/
  | bool (b : Bool)
  /-- A number. -/
  | number (n : Numeral)
  /-- A string. -/
  | text (s : Option String)
deriving DecidableEq

/-- The characters that may stand between tokens. -/
def isSpace (c : Char) : Bool := c == ' ' || c == '\t' || c == '\n' || c == '\r'

/-! ### Numbers -/

/-- Cuts the digits off the front. -/
def spanDigits (cs : List Char) : List Char × List Char :=
  (cs.takeWhile Char.isDigit, cs.dropWhile Char.isDigit)

/-- The value of decimal digits. -/
def digitsValue (cs : List Char) : Nat := Nat.ofDigitChars 10 cs 0

/-- Reads the part of a number after the letter `e`: an optional sign and at least one digit. -/
def exponent? (cs : List Char) : Option Int :=
  let (negative, ds) :=
    match cs with
    | '-' :: ds => (true, ds)
    | '+' :: ds => (false, ds)
    | ds => (false, ds)
  if ds.isEmpty || !ds.all Char.isDigit then none
  else some (if negative then -(digitsValue ds : Int) else digitsValue ds)

/-- Reads what follows the digits of a number: nothing, or `e` and a power of ten. -/
def tail? : List Char → Option (Option Int)
  | [] => some none
  | c :: cs => if c == 'e' || c == 'E' then (exponent? cs).map some else none

/-- Reads a number: an optional minus sign, digits without a needless zero in front, an optional
point with at least one digit after it, and an optional power of ten. -/
def Numeral.ofChars? (cs : List Char) : Option Numeral :=
  let (negative, cs) :=
    match cs with
    | '-' :: cs => (true, cs)
    | cs => (false, cs)
  let (whole, rest) := spanDigits cs
  if whole.isEmpty || (whole.head? == some '0' && whole.length != 1) then none
  else
    match rest with
    | '.' :: rest =>
      let (fraction, rest) := spanDigits rest
      if fraction.isEmpty then none
      else (tail? rest).map fun e => ⟨negative, whole, fraction, e⟩
    | rest => (tail? rest).map fun e => ⟨negative, whole, [], e⟩

/-- The characters that a number is made of. -/
def isNumberChar (c : Char) : Bool :=
  c.isDigit || c == '-' || c == '+' || c == '.' || c == 'e' || c == 'E'

/-! ### Strings -/

/-- The character that two halves stand for. -/
def joinHalves (high low : Nat) : Nat := 0x10000 + (high - 0xd800) * 0x400 + (low - 0xdc00)

/-- Whether a code unit is the first half of a character. -/
def isHighHalf (n : Nat) : Bool := 0xd800 ≤ n && n < 0xdc00

/-- Whether a code unit is the second half of a character. -/
def isLowHalf (n : Nat) : Bool := 0xdc00 ≤ n && n < 0xe000

/-- The text of a list of code units; `none` if a half stands without its other half. -/
def assemble : List Nat → Option (List Char)
  | [] => some []
  | [n] => if isHighHalf n || isLowHalf n then none else some [Char.ofNat n]
  | n :: m :: rest =>
    if isHighHalf n then
      if isLowHalf m then (assemble rest).map (Char.ofNat (joinHalves n m) :: ·) else none
    else if isLowHalf n then none
    else (assemble (m :: rest)).map (Char.ofNat n :: ·)

/-- The value of a hexadecimal digit. -/
def hexValue? (c : Char) : Option Nat :=
  if c.isDigit then some (c.toNat - '0'.toNat)
  else if 'a' ≤ c ∧ c ≤ 'f' then some (c.toNat - 'a'.toNat + 10)
  else if 'A' ≤ c ∧ c ≤ 'F' then some (c.toNat - 'A'.toNat + 10)
  else none

/-- The character that a letter after a backslash stands for. -/
def escaped? : Char → Option Char
  | '"' => some '"'
  | '\\' => some '\\'
  | '/' => some '/'
  | 'b' => some '\x08'
  | 'f' => some '\x0c'
  | 'n' => some '\n'
  | 'r' => some '\r'
  | 't' => some '\t'
  | _ => none

/-! ### The reader -/

/-- What the reader is in the middle of.  Characters and code units read so far are kept last
first. -/
inductive Mode where
  /-- Between tokens. -/
  | between
  /-- In a word. -/
  | word (front : List Char)
  /-- In a number. -/
  | number (front : List Char)
  /-- In a string. -/
  | text (units : List Nat)
  /-- After a backslash in a string. -/
  | escape (units : List Nat)
  /-- In an escape by number: `left` digits are still to come. -/
  | hex (units : List Nat) (value left : Nat)

/-- The token of a word. -/
def wordToken? (front : List Char) : Option Token :=
  match String.ofList front.reverse with
  | "null" => some .null
  | "true" => some (.bool true)
  | "false" => some (.bool false)
  | _ => none

/-- The token that ends where the text or the token's characters end. -/
def Mode.finish? : Mode → Option (List Token)
  | .between => some []
  | .word front => (wordToken? front).map ([·])
  | .number front => (Numeral.ofChars? front.reverse).map ([.number ·])
  | _ => none

/-- Reads one character between tokens. -/
def startToken? (c : Char) : Option (List Token × Mode) :=
  match c with
  | '\x7b' => some ([.openObject], .between)
  | '\x7d' => some ([.closeObject], .between)
  | '[' => some ([.openArray], .between)
  | ']' => some ([.closeArray], .between)
  | ':' => some ([.colon], .between)
  | ',' => some ([.comma], .between)
  | '"' => some ([], .text [])
  | c =>
    if isSpace c then some ([], .between)
    else if c == '-' || c.isDigit then some ([], .number [c])
    else if c.isLower then some ([], .word [c])
    else none

/-- Reads one character: the tokens that it completes and the mode after it. -/
def Mode.step? (mode : Mode) (c : Char) : Option (List Token × Mode) :=
  match mode with
  | .between => startToken? c
  | .word front =>
    if c.isLower then some ([], .word (c :: front))
    else do
      let done ← (Mode.word front).finish?
      let (more, mode) ← startToken? c
      return (done ++ more, mode)
  | .number front =>
    if isNumberChar c then some ([], .number (c :: front))
    else do
      let done ← (Mode.number front).finish?
      let (more, mode) ← startToken? c
      return (done ++ more, mode)
  | .text units =>
    if c == '"' then some ([.text ((assemble units.reverse).map String.ofList)], .between)
    else if c == '\\' then some ([], .escape units)
    else if c.toNat < 0x20 then none
    else some ([], .text (c.toNat :: units))
  | .escape units =>
    if c == 'u' then some ([], .hex units 0 4)
    else (escaped? c).map fun d => ([], .text (d.toNat :: units))
  | .hex units value left =>
    (hexValue? c).map fun d =>
      let value := value * 16 + d
      if left ≤ 1 then ([], .text (value :: units)) else ([], .hex units value (left - 1))

/-- Cuts characters into tokens, starting in a mode. -/
def tokensFrom? (mode : Mode) : List Char → Option (List Token)
  | [] => mode.finish?
  | c :: cs =>
    match mode.step? c with
    | none => none
    | some ([], mode) => tokensFrom? mode cs
    | some (ts, mode) => (tokensFrom? mode cs).map (ts ++ ·)

/-- The tokens of a text. -/
def tokens? (s : String) : Option (List Token) := tokensFrom? .between s.toList

end TaskPipeline.Json
