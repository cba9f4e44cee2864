import TaskPipeline.Text.DisplayTable

/-!
# Quoted text

`quote` shows a text between double quotes so that every character can be told apart on a terminal:
quotes and backslashes are escaped, and a character that would not show by itself is written by its
code point in hexadecimal.  Error messages quote identifiers this way.
-/

namespace TaskPipeline.Text

/-- The digits of a number in lower-case hexadecimal, without leading zeros. -/
def hexDigits (n : Nat) : String := String.ofList (Nat.toDigits 16 n)

/-- Whether a character shows by itself inside quotes. -/
def showsAlone (c : Char) : Bool :=
  let n := c.toNat
  if n < 0x20 then false
  else if n < 0x7f then true
  else
    !(unprintableRanges.contains n || graphemeExtendRanges.contains n || fillerRanges.contains n)

/-- A character as it is written between double quotes. -/
def quoteChar (c : Char) : String :=
  match c with
  | '"' => "\\\""
  | '\\' => "\\\\"
  | '\t' => "\\t"
  | '\n' => "\\n"
  | '\r' => "\\r"
  | '\x00' => "\\0"
  | c => if showsAlone c then c.toString else "\\u\x7b" ++ hexDigits c.toNat ++ "\x7d"

/-- The text between double quotes, with its special characters escaped. -/
def quote (s : String) : String := "\"" ++ String.join (s.toList.map quoteChar) ++ "\""

/-- Items between square brackets, separated by commas. -/
def bracketed (items : List String) : String := "[" ++ String.intercalate ", " items ++ "]"

end TaskPipeline.Text
