import TaskPipeline.Time.Instant

/-!
# Writing times

Times are written as RFC 3339 has it: date, `T`, time of day, the fewest fraction digits of 0, 3, 6
or 9 that lose nothing, and the offset.  A year outside 0 to 9999 has a sign and at least four
digits.
-/

namespace TaskPipeline

/-- A number in decimal, with zeros in front up to a width. -/
def padded (width n : Nat) : List Char :=
  let ds := Nat.toDigits 10 n
  List.replicate (width - ds.length) '0' ++ ds

/-- A year: four digits, or a sign and at least four digits. -/
def yearChars (year : Int) : List Char :=
  if 0 ≤ year ∧ year ≤ 9999 then padded 4 year.toNat
  else (if year < 0 then '-' else '+') :: padded 4 year.natAbs

/-- A date, as `2026-03-01`. -/
def Date.chars (d : Date) : List Char :=
  yearChars d.year ++ '-' :: padded 2 d.month ++ '-' :: padded 2 d.day

/-- A date, as `2026-03-01`. -/
def Date.text (d : Date) : String := String.ofList d.chars

/-- The fraction of a second: nothing for a whole second, else a point and 3, 6 or 9 digits. -/
def fractionChars (nano : Nat) : List Char :=
  if nano = 0 then []
  else if nano % 1000000 = 0 then '.' :: padded 3 (nano / 1000000)
  else if nano % 1000 = 0 then '.' :: padded 6 (nano / 1000)
  else '.' :: padded 9 nano

namespace Instant

/-- Whether the instant lies in a leap second. -/
def inLeapSecond (t : Instant) : Bool := nanosPerSecond ≤ t.nano

/-- The time of day to the second; a leap second is second 60. -/
def clockChars (t : Instant) : List Char :=
  let second := t.second % 60 + (if t.inLeapSecond then 1 else 0)
  padded 2 (t.second / 3600) ++ ':' :: padded 2 (t.second / 60 % 60) ++ ':' :: padded 2 second

/-- Everything but the offset. -/
def localChars (t : Instant) : List Char :=
  t.date.chars ++ 'T' :: t.clockChars ++ fractionChars (t.nano % nanosPerSecond)

/-- The time as records hold it, with the offset `Z`. -/
def text (t : Instant) : String := String.ofList (t.localChars ++ ['Z'])

/-- The time with its offset in digits, as tags show it. -/
def offsetText (t : Instant) : String :=
  String.ofList (t.localChars ++ ['+', '0', '0', ':', '0', '0'])

/-- The time to the minute, as `2026-03-01 12:30`. -/
def minuteText (t : Instant) : String :=
  String.ofList (t.date.chars ++ ' ' :: padded 2 (t.second / 3600) ++
    ':' :: padded 2 (t.second / 60 % 60))

end Instant

end TaskPipeline
