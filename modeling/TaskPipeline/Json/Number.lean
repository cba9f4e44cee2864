import TaskPipeline.Json.Token
import TaskPipeline.Number.Shortest

/-!
# Numbers in JSON

Whole numbers are read with a bound, doubles by their first digits and one scaling step or, where that
is asked for, to the nearest one.  Doubles are written in their shortest form: positional from
`0.00001` up to `10 ^ 16`, always with a point, and with a power of ten beyond.
-/

namespace TaskPipeline.Json

/-- The number of values of a 64-bit word. -/
def word64 : Nat := UInt64.size

/-- A natural number below `bound`; a sign, a point or a power of ten is refused. -/
def Numeral.nat? (n : Numeral) (bound : Nat) : Option Nat :=
  if n.negative || !n.fraction.isEmpty || n.exponent.isSome then none
  else
    let v := digitsValue n.whole
    if v < bound then some v else none

/-- Appends digits to a number while it stays below `2 ^ 64`; gives the number and the digits that
were left over. -/
def takeDigits (acc : Nat) : List Char → Nat × List Char
  | [] => (acc, [])
  | c :: cs =>
    let next := acc * 10 + (c.toNat - '0'.toNat)
    if next < word64 then takeDigits next cs else (acc, c :: cs)

/-- Reads a number as a double: the digits that fit a 64-bit word make a whole number, which is then
scaled by its power of ten.  A number that is too large has no value. -/
def Numeral.double? (n : Numeral) : Option FiniteDouble := do
  let (front, extra) := takeDigits 0 n.whole
  let (digits, left) := takeDigits front n.fraction
  let places := (n.fraction.length : Int) - left.length
  let d ← FiniteDouble.ofNat? n.negative digits
  d.scaleByTen ((extra.length : Int) - places + n.exponent.getD 0)

/-- Reads a number as the double nearest to it.  A number that is too large has no value. -/
def Numeral.nearest? (n : Numeral) : Option FiniteDouble :=
  let digits := (n.whole ++ n.fraction).dropWhile (· == '0')
  let power := n.exponent.getD 0 - n.fraction.length
  -- the number has this many digits before its point
  let size := digits.length + power
  if digits.isEmpty || size < -400 then some (.zero n.negative)
  else if 400 < size then none
  else FiniteDouble.nearest n.negative (digitsValue digits * Nat.pow 10 power.toNat)
    (Nat.pow 10 (-power).toNat) 0

/-- The numeral of a double: its shortest digits, of two equally near ones the even one. -/
def Numeral.ofDouble (d : FiniteDouble) : Numeral :=
  if d.isZero then ⟨d.negative, ['0'], ['0'], none⟩
  else
    let ⟨digits, k⟩ := d.shortest false
    let point := (digits.length : Int) + k
    if 0 ≤ k ∧ point ≤ 16 then ⟨d.negative, digits ++ FiniteDouble.zeros k.toNat, ['0'], none⟩
    else if 0 < point ∧ point ≤ 16 then
      ⟨d.negative, digits.take point.toNat, digits.drop point.toNat, none⟩
    else if -5 < point ∧ point ≤ 0 then
      ⟨d.negative, ['0'], FiniteDouble.zeros (-point).toNat ++ digits, none⟩
    else ⟨d.negative, digits.take 1, digits.drop 1, some (point - 1)⟩

/-- A double as a JSON value, which has numerals for the finite numbers only. -/
def Value.double : Double → Value
  | .finite d => .number (.ofDouble d)
  | _ => .null

end TaskPipeline.Json
