/-!
# JSON values

`Json.Value` is a JSON value as it was written: an object keeps its members in order and keeps
repeated names, and a number keeps its digits.  What a repeated name means is left to the reader of
the record, and how a number is rounded to the reader of the number.

A string may be written with an escape for half of a character beyond the basic plane.  Such a
string has no value as text, but it is no error in a member that nobody looks at.  It is `garbled`,
and so is an object with such a member name.
-/

namespace TaskPipeline.Json

/-- A number as it was written. -/
structure Numeral where
  /-- Whether a minus sign stands in front. -/
  negative : Bool
  /-- The digits before the point. -/
  whole : List Char
  /-- The digits after the point; none if there is no point. -/
  fraction : List Char
  /-- The power of ten after the letter `e`. -/
  exponent : Option Int
deriving DecidableEq, Inhabited

/-- A JSON value. -/
inductive Value where
  /-- The value `null`. -/
  | null
  /-- A truth value. -/
  | bool (b : Bool)
  /-- A number. -/
  | number (n : Numeral)
  /-- A text. -/
  | string (s : String)
  /-- A list of values. -/
  | array (items : List Value)
  /-- Named values, in the order in which they were written. -/
  | object (members : List (String × Value))
  /-- A string, or an object with a member name, that has no value as text. -/
  | garbled
deriving Inhabited

/-- The numeral of a natural number. -/
def Numeral.ofNat (n : Nat) : Numeral := ⟨false, Nat.toDigits 10 n, [], none⟩

/-- The numeral of an integer. -/
def Numeral.ofInt (n : Int) : Numeral := ⟨n < 0, Nat.toDigits 10 n.natAbs, [], none⟩

namespace Value

/-- A natural number as a JSON value. -/
def nat (n : Nat) : Value := number (.ofNat n)

/-- An integer as a JSON value. -/
def int (n : Int) : Value := number (.ofInt n)

/-- A list of texts as a JSON value. -/
def strings (ss : List String) : Value := array (ss.map string)

/-- A value that may be absent; an absent one is `null`. -/
def optional (f : α → Value) : Option α → Value
  | none => null
  | some a => f a

end Value

end TaskPipeline.Json
