import TaskPipeline.Json.Number

/-!
# Scalars in configuration texts

Numbers, moments, strings and names.  Each function takes a text and gives what stands at its front
together with what is left.
-/

namespace TaskPipeline.Toml

open Json (Value Numeral)

/-! ### Blanks and line ends -/

/-- Whether a character is a blank within a line. -/
def isBlank (c : Char) : Bool := c == ' ' || c == '\t'

/-- Whether a character may stand in comments and strings: any but a control character, and the tab
too. -/
def isPlain (c : Char) : Bool := c == '\t' || (0x20 ≤ c.toNat && c.toNat != 0x7f)

/-- Skips blanks. -/
def skipBlanks (cs : List Char) : List Char := cs.dropWhile isBlank

/-- Takes a line end. -/
def lineEnd? : List Char → Option (List Char)
  | '\n' :: cs => some cs
  | '\r' :: '\n' :: cs => some cs
  | _ => none

/-- Skips a comment. -/
def skipComment : List Char → List Char
  | '#' :: cs => cs.dropWhile isPlain
  | cs => cs

/-- Takes what may stand between a statement and the next line. -/
def restOfLine? (cs : List Char) : Option (List Char) :=
  match skipComment (skipBlanks cs) with
  | [] => some []
  | cs => lineEnd? cs

/-- Skips blanks, comments and line ends, up to a number of lines. -/
def skipLines : Nat → List Char → List Char
  | 0, cs => cs
  | n + 1, cs =>
    match lineEnd? (skipComment (skipBlanks cs)) with
    | some rest => skipLines n rest
    | none => skipBlanks cs

/-- Skips blanks and line ends. -/
def skipGap : List Char → List Char
  | [] => []
  | '\r' :: '\n' :: cs => skipGap cs
  | c :: cs => if isBlank c || c == '\n' then skipGap cs else c :: cs

/-! ### Strings -/

/-- The character with a code. -/
def charOf? (n : Nat) : Option Char := if n.isValidChar then some (Char.ofNat n) else none

/-- The value of hexadecimal digits. -/
def hexNumber? (cs : List Char) : Option Nat :=
  cs.foldlM (fun n c => (Json.hexValue? c).map (16 * n + ·)) 0

/-- The character that an escape stands for; the backslash is gone already. -/
def unescape? : List Char → Option (Char × List Char)
  | 'b' :: cs => some ('\x08', cs)
  | 't' :: cs => some ('\t', cs)
  | 'n' :: cs => some ('\n', cs)
  | 'f' :: cs => some ('\x0c', cs)
  | 'r' :: cs => some ('\r', cs)
  | '"' :: cs => some ('"', cs)
  | '\\' :: cs => some ('\\', cs)
  | 'u' :: a :: b :: c :: d :: cs => (hexNumber? [a, b, c, d] >>= charOf?).map (·, cs)
  | 'U' :: a :: b :: c :: d :: e :: f :: g :: h :: cs =>
    (hexNumber? [a, b, c, d, e, f, g, h] >>= charOf?).map (·, cs)
  | _ => none

/-- Takes the end of a string over several lines: three quotes and up to two more in front of them,
which belong to the string. -/
def closing? (quote : Char) : List Char → Option (List Char × List Char)
  | a :: b :: c :: rest =>
    if a == quote && b == quote && c == quote then
      let more := (rest.takeWhile (· == quote)).take 2
      some (more, rest.drop more.length)
    else none
  | _ => none

/-- Takes a string with escapes up to its closing quote, in at most `n` steps. -/
def escapedLine : Nat → List Char → Option (List Char × List Char)
  | 0, _ => none
  | _ + 1, [] => none
  | _ + 1, '"' :: cs => some ([], cs)
  | n + 1, '\\' :: cs => do
    let (c, cs) ← unescape? cs
    let (s, cs) ← escapedLine n cs
    return (c :: s, cs)
  | n + 1, c :: cs =>
    if isPlain c then (escapedLine n cs).map fun (s, cs) => (c :: s, cs) else none

/-- Takes a string with escapes over several lines up to its closing quotes, in at most `n` steps.  A
backslash at the end of a line swallows the line end and all blanks and line ends after it. -/
def escapedLines : Nat → List Char → Option (List Char × List Char)
  | 0, _ => none
  | n + 1, cs =>
    match closing? '"' cs with
    | some closed => some closed
    | none =>
      match lineEnd? cs with
      | some cs => (escapedLines n cs).map fun (s, cs) => ('\n' :: s, cs)
      | none =>
        match cs with
        | [] => none
        | '\\' :: cs =>
          match lineEnd? (skipBlanks cs) with
          | some cs => escapedLines n (skipGap cs)
          | none => do
            let (c, cs) ← unescape? cs
            let (s, cs) ← escapedLines n cs
            return (c :: s, cs)
        | c :: cs =>
          if isPlain c then (escapedLines n cs).map fun (s, cs) => (c :: s, cs) else none

/-- Takes a string without escapes up to its closing quote. -/
def literalLine (cs : List Char) : Option (List Char × List Char) :=
  let (s, rest) := cs.span fun c => isPlain c && c != '\''
  match rest with
  | '\'' :: rest => some (s, rest)
  | _ => none

/-- Takes a string without escapes over several lines up to its closing quotes, in at most `n`
steps. -/
def literalLines : Nat → List Char → Option (List Char × List Char)
  | 0, _ => none
  | n + 1, cs =>
    match closing? '\'' cs with
    | some closed => some closed
    | none =>
      match lineEnd? cs with
      | some cs => (literalLines n cs).map fun (s, cs) => ('\n' :: s, cs)
      | none =>
        match cs with
        | [] => none
        | c :: cs =>
          if isPlain c then (literalLines n cs).map fun (s, cs) => (c :: s, cs) else none

/-- Leaves out a line end right at the beginning. -/
def skipFirstLineEnd (cs : List Char) : List Char := (lineEnd? cs).getD cs

/-- Takes a string on one line. -/
def stringOnLine? : List Char → Option (List Char × List Char)
  | '"' :: cs => escapedLine (cs.length + 1) cs
  | '\'' :: cs => literalLine cs
  | _ => none

/-- Takes a string. -/
def string? : List Char → Option (String × List Char)
  | '"' :: '"' :: '"' :: cs =>
    (escapedLines (cs.length + 1) (skipFirstLineEnd cs)).map fun (s, cs) => (String.ofList s, cs)
  | '\'' :: '\'' :: '\'' :: cs =>
    (literalLines (cs.length + 1) (skipFirstLineEnd cs)).map fun (s, cs) => (String.ofList s, cs)
  | cs => (stringOnLine? cs).map fun (s, cs) => (String.ofList s, cs)

/-! ### Names -/

/-- Whether a character may stand in a name without quotes. -/
def isNameChar (c : Char) : Bool := c.isAlphanum || c == '_' || c == '-'

/-- Takes a name without dots. -/
def name? (cs : List Char) : Option (String × List Char) :=
  match cs with
  | '"' :: _ => (stringOnLine? cs).map fun (s, cs) => (String.ofList s, cs)
  | '\'' :: _ => (stringOnLine? cs).map fun (s, cs) => (String.ofList s, cs)
  | cs =>
    let (s, rest) := cs.span isNameChar
    if s.isEmpty then none else some (String.ofList s, rest)

/-- Takes a name of at most `n` parts with dots and blanks between them. -/
def path? : Nat → List Char → Option (List String × List Char)
  | 0, _ => none
  | n + 1, cs => do
    let (s, cs) ← name? (skipBlanks cs)
    match skipBlanks cs with
    | '.' :: cs =>
      let (rest, cs) ← path? n cs
      return (s :: rest, cs)
    | cs => return ([s], cs)

/-! ### Numbers -/

/-- Removes the underscores between digits; each must have a digit on either side. -/
def joinDigits? (isDigit : Char → Bool) : List Char → Option (List Char)
  | [] => none
  | [c] => if isDigit c then some [c] else none
  | c :: '_' :: cs => if isDigit c then (joinDigits? isDigit cs).map (c :: ·) else none
  | c :: cs => if isDigit c then (joinDigits? isDigit cs).map (c :: ·) else none

/-- The whole number in a base, if it fits a signed 64-bit word. -/
def radix? (base : Nat) (cs : List Char) : Option Int := do
  let isDigit (c : Char) : Bool := (Json.hexValue? c).any (· < base)
  let ds ← joinDigits? isDigit cs
  let n := ds.foldl (fun n c => base * n + (Json.hexValue? c).getD 0) 0
  if n < Nat.pow 2 63 then some n else none

/-- Cuts a sign off: whether it is a minus, and what follows. -/
def sign : List Char → Bool × List Char
  | '-' :: cs => (true, cs)
  | '+' :: cs => (false, cs)
  | cs => (false, cs)

/-- Decimal digits without a needless zero in front. -/
def decimal? (cs : List Char) : Option (List Char) := do
  let ds ← joinDigits? Char.isDigit cs
  if ds.head? == some '0' && ds.length != 1 then none else some ds

/-- A whole number that fits a signed 64-bit word. -/
def integer? (cs : List Char) : Option Int :=
  match cs with
  | '0' :: 'x' :: cs => radix? 16 cs
  | '0' :: 'o' :: cs => radix? 8 cs
  | '0' :: 'b' :: cs => radix? 2 cs
  | cs => do
    let (negative, cs) := sign cs
    let n := Json.digitsValue (← decimal? cs)
    if negative then if n ≤ Nat.pow 2 63 then some (-n) else none
    else if n < Nat.pow 2 63 then some n else none

/-- A number with a point or a power of ten.  One that is too large for a double is refused, but any
negative one counts. -/
def fraction? (cs : List Char) : Option Numeral := do
  let (negative, cs) := sign cs
  let (mantissa, power) := cs.span fun c => c != 'e' && c != 'E'
  let exponent ←
    match power with
    | [] => some none
    | _ :: power => do
      let (low, ds) := sign power
      let n := Json.digitsValue (← joinDigits? Char.isDigit ds)
      pure (some (if low then -(n : Int) else n))
  let (whole, fraction) := mantissa.span (· != '.')
  let whole ← decimal? whole
  let fraction ←
    match fraction with
    | [] => if exponent.isSome then some [] else none
    | _ :: fraction => joinDigits? Char.isDigit fraction
  let n : Numeral := ⟨negative, whole, fraction, exponent⟩
  if negative || n.nearest?.isSome then some n else none

/-- Whether a text is one of the numbers beyond all numbers. -/
def isEndless (cs : List Char) : Bool :=
  let cs := (sign cs).2
  cs == "inf".toList || cs == "nan".toList

/-! ### Moments -/

/-- A number of exactly two digits between bounds. -/
def twoDigits? (low high : Nat) : List Char → Option Nat
  | [a, b] =>
    if a.isDigit && b.isDigit then
      let n := Json.digitsValue [a, b]
      if low ≤ n ∧ n ≤ high then some n else none
    else none
  | _ => none

/-- The days of a month. -/
def daysOf (year month : Nat) : Nat :=
  if month = 2 then if (year % 4 = 0 ∧ year % 100 ≠ 0) ∨ year % 400 = 0 then 29 else 28
  else if month = 4 ∨ month = 6 ∨ month = 9 ∨ month = 11 then 30
  else 31

/-- Whether a text is a date. -/
def isDate (cs : List Char) : Bool :=
  let year := cs.take 4
  year.length == 4 && year.all Char.isDigit && (cs.drop 4).take 1 == ['-'] &&
    (cs.drop 7).take 1 == ['-'] &&
    match twoDigits? 1 12 ((cs.drop 5).take 2) with
    | some month => (twoDigits? 1 (daysOf (Json.digitsValue year) month) (cs.drop 8)).isSome
    | none => false

/-- Whether a text is a time of day without fractions of a second. -/
def isClock (cs : List Char) : Bool :=
  (twoDigits? 0 23 (cs.take 2)).isSome && (cs.drop 2).take 1 == [':'] &&
    (twoDigits? 0 59 ((cs.drop 3).take 2)).isSome && (cs.drop 5).take 1 == [':'] &&
    (twoDigits? 0 60 (cs.drop 6)).isSome

/-- Whether a text is the distance of a time zone. -/
def isOffset (cs : List Char) : Bool :=
  cs == ['Z'] || cs == ['z'] ||
    ((cs.take 1 == ['+'] || cs.take 1 == ['-']) && (twoDigits? 0 23 ((cs.drop 1).take 2)).isSome &&
      (cs.drop 3).take 1 == [':'] && (twoDigits? 0 59 (cs.drop 4)).isSome)

/-- Whether a text is a time of day, with the distance of a time zone if `zoned` allows it. -/
def isTime (zoned : Bool) (cs : List Char) : Bool :=
  let rest := cs.drop 8
  let rest :=
    match rest with
    | '.' :: c :: cs => if c.isDigit then cs.dropWhile Char.isDigit else rest
    | _ => rest
  isClock (cs.take 8) && (rest.isEmpty || (zoned && isOffset rest))

/-- Whether a text is a date, a time of day, or both with a letter between them. -/
def isMoment (cs : List Char) : Bool :=
  isDate cs || isTime false cs ||
    (isDate (cs.take 10) && ((cs.drop 10).head?.any fun c => c == 'T' || c == 't') &&
      isTime true (cs.drop 11))

/-! ### Words -/

/-- Whether a character may stand in a number or in a moment. -/
def isWordChar (c : Char) : Bool := isNameChar c || c == '+' || c == '.' || c == ':'

/-- The value of a moment: a record without a field that anyone knows. -/
def moment (cs : List Char) : Value := .object [("moment", .string (String.ofList cs))]

/-- The value of a number, a moment or a truth value.  The numbers beyond all numbers have no value
as JSON. -/
def word? (cs : List Char) : Option Value :=
  if cs == "true".toList then some (.bool true)
  else if cs == "false".toList then some (.bool false)
  else if isEndless cs then some .garbled
  else if isMoment cs then some (moment cs)
  else
    match integer? cs with
    | some n => some (.int n)
    | none => (fraction? cs).map .number

/-- Takes a number, a moment or a truth value.  The time of day may stand behind a space after the
date. -/
def scalar? (cs : List Char) : Option (Value × List Char) :=
  let (s, rest) := cs.span isWordChar
  match rest with
  | ' ' :: more =>
    let (time, rest') := more.span isWordChar
    if isDate s && isTime true time then some (moment (s ++ ' ' :: time), rest')
    else (word? s).map (·, rest)
  | rest => (word? s).map (·, rest)

end TaskPipeline.Toml
