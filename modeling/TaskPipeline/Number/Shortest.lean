import TaskPipeline.Number.Double

/-!
# Shortest decimals

`FiniteDouble.shortest` writes a number with the fewest decimal digits that still lie closer to it than to
any other double: on each grid `10 ^ k`, from coarse to fine, it looks at the number's two
neighbours on the grid, and the first grid with a neighbour inside the number's rounding interval
wins.  `Double.plainText` writes those digits without an exponent.
-/

namespace TaskPipeline

/-- A positive decimal number: the digits of a whole number, most significant first, times a power of
ten. -/
structure Decimal where
  /-- The digits, most significant first. -/
  digits : List Char
  /-- The power of ten. -/
  exponent : Int
deriving DecidableEq

namespace FiniteDouble

/-- The ends and the middle of the interval of reals that round to the number, in quarters of the
last binary place.  Below a power of two the doubles lie twice as dense. -/
def quarters (d : FiniteDouble) : Nat × Nat × Nat :=
  let m := 4 * d.significand
  let low := if d.significand = Nat.pow 2 52 ∧ -1074 < d.exponent then m - 1 else m - 2
  (low, m, m + 2)

/-- Two whole numbers whose ratio is that of `x · 2 ^ shift` to `10 ^ k`. -/
def onGrid (x : Nat) (shift k : Int) : Nat × Nat :=
  (x * Nat.pow 2 shift.toNat * Nat.pow 10 (-k).toNat, Nat.pow 10 k.toNat * Nat.pow 2 (-shift).toNat)

/-- Whether the grid point `c · 10 ^ k` rounds to the number. -/
def holds (d : FiniteDouble) (c : Nat) (k : Int) : Bool :=
  let (low, _, high) := d.quarters
  let shift := d.exponent - 2
  let (l, unit) := onGrid low shift k
  let (h, _) := onGrid high shift k
  if d.significand % 2 = 0 then l ≤ c * unit && c * unit ≤ h else l < c * unit && c * unit < h

/-- The nearer of the number's two neighbours on the grid `10 ^ k` that rounds to the number, if one
does; `tieUp` says which neighbour wins an exact tie: the upper one, or the even one. -/
def gridPoint? (d : FiniteDouble) (tieUp : Bool) (k : Int) : Option Nat :=
  let (x, unit) := onGrid d.quarters.2.1 (d.exponent - 2) k
  let c := x / unit
  let r := x % unit
  let below := d.holds c k
  let above := d.holds (c + 1) k
  if below && above then
    if 2 * r < unit then some c
    else if unit < 2 * r then some (c + 1)
    else if tieUp || c % 2 == 1 then some (c + 1) else some c
  else if below then some c
  else if above then some (c + 1)
  else none

/-- Searches the grids `10 ^ k`, `10 ^ (k - 1)`, … for the first with a point that rounds to the
number. -/
def searchGrids (d : FiniteDouble) (tieUp : Bool) : Nat → Int → Decimal
  | 0, k => ⟨[], k⟩
  | steps + 1, k =>
    match d.gridPoint? tieUp k with
    | some c => ⟨Nat.toDigits 10 c, k⟩
    | none => searchGrids d tieUp steps (k - 1)

/-- The shortest decimal of a number other than zero.  The first grid is coarser than the number,
and seventeen digits always suffice, so the search meets its grid within twenty-five steps. -/
def shortest (d : FiniteDouble) (tieUp : Bool) : Decimal :=
  let bits := (d.significand.log2 : Int) + d.exponent + 1
  d.searchGrids tieUp 25 (bits * 30103 / 100000 + 2)

/-- A list of zeros. -/
def zeros (n : Nat) : List Char := List.replicate n '0'

/-- The number in full, without an exponent and without a needless fraction: `1`, `-0`,
`0.0000001`. -/
def plainText (d : FiniteDouble) : String :=
  let sign := if d.negative then "-" else ""
  if d.isZero then sign ++ "0"
  else
    let ⟨digits, k⟩ := d.shortest true
    let point := (digits.length : Int) + k
    let body :=
      if 0 ≤ k then digits ++ zeros k.toNat
      else if 0 < point then digits.take point.toNat ++ '.' :: digits.drop point.toNat
      else '0' :: '.' :: zeros (-point).toNat ++ digits
    sign ++ String.ofList body

end FiniteDouble

/-- The number as the user is shown it. -/
def Double.plainText : Double → String
  | finite number => number.plainText
  | infinity negative => if negative then "-inf" else "inf"
  | nan => "NaN"

end TaskPipeline
