import TaskPipeline.Json.Value

/-!
# Writing JSON

`Json.Value.print` writes a value on one line without blanks.  Control characters are always
escaped, so the text has no line end in it and a file can hold one record per line.
-/

namespace TaskPipeline.Json

/-- The lower-case hexadecimal digit of a number below sixteen. -/
def hexDigit (n : Nat) : Char := if n < 10 then Char.ofNat (48 + n) else Char.ofNat (87 + n)

/-- A character as it stands in a string. -/
def escapeChar (c : Char) : List Char :=
  match c with
  | '"' => ['\\', '"']
  | '\\' => ['\\', '\\']
  | '\x08' => ['\\', 'b']
  | '\x0c' => ['\\', 'f']
  | '\n' => ['\\', 'n']
  | '\r' => ['\\', 'r']
  | '\t' => ['\\', 't']
  | c =>
    if c.toNat < 0x20 then
      ['\\', 'u', '0', '0', hexDigit (c.toNat / 16), hexDigit (c.toNat % 16)]
    else [c]

/-- A text as a JSON string. -/
def quoteChars (s : String) : List Char := '"' :: s.toList.flatMap escapeChar ++ ['"']

/-- An integer in decimal. -/
def intChars (n : Int) : List Char :=
  if n < 0 then '-' :: Nat.toDigits 10 n.natAbs else Nat.toDigits 10 n.natAbs

/-- A number as it is written; the power of ten has a sign. -/
def Numeral.chars (n : Numeral) : List Char :=
  (if n.negative then ['-'] else []) ++ n.whole ++
    (if n.fraction.isEmpty then [] else '.' :: n.fraction) ++
    (match n.exponent with
    | none => []
    | some e => if e < 0 then 'e' :: intChars e else 'e' :: '+' :: intChars e)

/-- Pieces with a comma between them. -/
def commaJoin : List (List Char) → List Char
  | [] => []
  | [p] => p
  | p :: ps => p ++ ',' :: commaJoin ps

mutual

/-- The characters of a value. -/
def Value.chars : Value → List Char
  | .null => ['n', 'u', 'l', 'l']
  | .bool true => ['t', 'r', 'u', 'e']
  | .bool false => ['f', 'a', 'l', 's', 'e']
  | .number n => n.chars
  | .string s => quoteChars s
  | .array items => '[' :: commaJoin (itemChars items) ++ [']']
  | .object members => '\x7b' :: commaJoin (memberChars members) ++ ['\x7d']
  | .garbled => ['n', 'u', 'l', 'l']

/-- The characters of each item. -/
def itemChars : List Value → List (List Char)
  | [] => []
  | v :: vs => v.chars :: itemChars vs

/-- The characters of each member, its name first. -/
def memberChars : List (String × Value) → List (List Char)
  | [] => []
  | (name, v) :: ms => (quoteChars name ++ ':' :: v.chars) :: memberChars ms

end

/-- The value on one line. -/
def Value.print (v : Value) : String := String.ofList v.chars

end TaskPipeline.Json
