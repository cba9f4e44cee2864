/-!
# Double-precision numbers

`FiniteDouble` is a finite number of the 64-bit binary format: a sign, a significand below `2 ^ 53`
and an exponent of two.  Each number has one representation for each sign of zero, so equality of the
fields is equality of the bit patterns.  `Double` adds the infinities and NaN, and `Double.same` is
the format's own comparison, for which the zeros are the same and NaN is not even the same as itself.

All arithmetic is on finite numbers and goes through `FiniteDouble.nearest`, which rounds an exact
ratio of natural numbers: to the nearest number, a tie to the even significand, `none` when the result
would be infinite.

Powers are written `Nat.pow`, because what `^` stands for depends on what a module imports.
-/

namespace TaskPipeline

/-- The significands and exponents that stand for a number: the exponent lies in its range, and the
significand uses all 53 bits unless the exponent is the smallest one. -/
def FiniteDouble.Canonical (significand : Nat) (exponent : Int) : Prop :=
  significand < Nat.pow 2 53 ∧ -1074 ≤ exponent ∧ exponent ≤ 971 ∧
    (exponent = -1074 ∨ Nat.pow 2 52 ≤ significand)

instance (significand : Nat) (exponent : Int) : Decidable (FiniteDouble.Canonical significand exponent) :=
  inferInstanceAs (Decidable (_ ∧ _))

/-- A finite double-precision number, `± significand · 2 ^ exponent`. -/
structure FiniteDouble where
  /-- Whether the number is negative; zero has both signs. -/
  negative : Bool
  /-- The significand, as a whole number. -/
  significand : Nat
  /-- The power of two that the significand is multiplied by. -/
  exponent : Int
  /-- The number is in its one representation. -/
  canonical : FiniteDouble.Canonical significand exponent
deriving DecidableEq

namespace FiniteDouble

/-- Zero of either sign. -/
def zero (negative : Bool) : FiniteDouble := ⟨negative, 0, -1074, by decide⟩

/-- Whether the number is a zero. -/
def isZero (d : FiniteDouble) : Bool := d.significand == 0

/-- A whole number divided by another, rounded to the nearest whole number, a tie to the even one. -/
def roundHalfEven (num den : Nat) : Nat :=
  let q := num / den
  let r := num % den
  if 2 * r < den || (2 * r == den && q % 2 == 0) then q else q + 1

/-- The number with this significand and exponent, if it is in range. -/
def ofParts? (negative : Bool) (significand : Nat) (exponent : Int) : Option FiniteDouble :=
  if h : Canonical significand exponent then some ⟨negative, significand, exponent, h⟩ else none

/-- The ratio `num / den · 2 ^ shift` as two whole numbers. -/
def scaleRatio (num den : Nat) (shift : Int) : Nat × Nat :=
  (num * Nat.pow 2 shift.toNat, den * Nat.pow 2 (-shift).toNat)

/-- The double nearest to `num / den · 2 ^ shift`, a tie to the even significand; `none` if the
rounded value has no finite double. -/
def nearest (negative : Bool) (num den : Nat) (shift : Int) : Option FiniteDouble :=
  if num = 0 then some (zero negative)
  else
    -- with the exponent `low` the quotient has 53 or 54 bits, unless it is a small number
    let low := max (-1074) ((num.log2 : Int) - den.log2 - 53 + shift)
    let ratio := scaleRatio num den (shift - low)
    let exponent := if ratio.1 / ratio.2 < Nat.pow 2 53 then low else low + 1
    let ratio := scaleRatio num den (shift - exponent)
    let significand := roundHalfEven ratio.1 ratio.2
    if significand = Nat.pow 2 53 then ofParts? negative (Nat.pow 2 52) (exponent + 1)
    else ofParts? negative significand exponent

/-- The nearest double to a whole number. -/
def ofNat? (negative : Bool) (n : Nat) : Option FiniteDouble := nearest negative n 1 0

/-- The rounded product. -/
def mul? (a b : FiniteDouble) : Option FiniteDouble :=
  nearest (a.negative != b.negative) (a.significand * b.significand) 1 (a.exponent + b.exponent)

/-- The rounded quotient, for a divisor other than zero. -/
def div? (a b : FiniteDouble) : Option FiniteDouble :=
  nearest (a.negative != b.negative) a.significand b.significand (a.exponent - b.exponent)

/-- The power of ten nearest to `10 ^ k`, for `k` up to 308. -/
def powerOfTen? (k : Nat) : Option FiniteDouble := nearest false (Nat.pow 10 k) 1 0

/-- Multiplies by `10 ^ exponent` in at most one multiplication or three divisions, each rounded;
`none` if the result is too large.  A decimal numeral is read this way: its digits as a whole number
and then one scaling step, so that the last bit may differ from the nearest double's. -/
def scaleByTen (d : FiniteDouble) (exponent : Int) : Option FiniteDouble :=
  if d.isZero then some d
  else if 0 ≤ exponent then
    if exponent ≤ 308 then powerOfTen? exponent.toNat >>= d.mul? else none
  else if -308 ≤ exponent then powerOfTen? (-exponent).toNat >>= d.div?
  else do
    let big ← powerOfTen? 308
    let d' ← d.div? big
    if -616 ≤ exponent then powerOfTen? (-exponent - 308).toNat >>= d'.div?
    else some (zero d.negative)

end FiniteDouble

/-- A double-precision number. -/
inductive Double where
  /-- A finite number. -/
  | finite (number : FiniteDouble)
  /-- An infinity of either sign. -/
  | infinity (negative : Bool)
  /-- What is not a number; its bit patterns are not told apart. -/
  | nan
deriving DecidableEq

/-- Whether two doubles are equal as numbers: the zeros are, and NaN is equal to nothing. -/
def Double.same : Double → Double → Bool
  | finite a, finite b => a == b || (a.isZero && b.isZero)
  | infinity a, infinity b => a == b
  | _, _ => false

end TaskPipeline
