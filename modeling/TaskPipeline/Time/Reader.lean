import TaskPipeline.Time.Instant
import TaskPipeline.Text.Blank

/-!
# Reading times

`Instant.read?` reads a time with an offset and is lenient about how it is laid out: blanks may stand
before each number and each separator, numbers may have fewer digits, the year may have a sign and
then any number of digits, and the offset may be the letters `UTC`.  `Instant.readStrict?` takes the
exact layout of RFC 3339 only, and `Date.read?` reads a date by itself.  All three refuse a time that
does not exist and anything left over.
-/

namespace TaskPipeline.Time

open Text (isBlank)

/-- A step of reading: what was read, and the characters left. -/
abbrev Step (α : Type) := List Char → Option (α × List Char)

/-- Leaves out the blanks in front. -/
def skipBlanks (cs : List Char) : List Char := cs.dropWhile isBlank

/-- The digits in front, at most `most` of them. -/
def frontDigits : Nat → List Char → List Char
  | 0, _ => []
  | _, [] => []
  | most + 1, c :: cs => if c.isDigit then c :: frontDigits most cs else []

/-- Reads at least `least` and at most `most` digits. -/
def digits (least most : Nat) : Step Nat := fun cs =>
  let ds := frontDigits most cs
  if ds.length < least then none else some (Nat.ofDigitChars 10 ds 0, cs.drop ds.length)

/-- Reads a number of one digit to `most` digits, with blanks before it. -/
def number (most : Nat) : Step Nat := fun cs => digits 1 most (skipBlanks cs)

/-- Reads one given character. -/
def char (c : Char) : Step Unit := fun
  | [] => none
  | d :: cs => if c = d then some ((), cs) else none

/-- Reads one given character with blanks before it. -/
def spacedChar (c : Char) : Step Unit := fun cs => char c (skipBlanks cs)

/-- Reads a year: up to four digits, or a sign and any number of digits. -/
def year : Step Int := fun cs =>
  match skipBlanks cs with
  | '-' :: cs => (digits 1 cs.length cs).map fun (n, rest) => (-(n : Int), rest)
  | '+' :: cs => (digits 1 cs.length cs).map fun (n, rest) => ((n : Int), rest)
  | cs => (digits 1 4 cs).map fun (n, rest) => ((n : Int), rest)

/-- Reads the fraction of a second, if a point stands here: nine digits count and more are left
out. -/
def fraction : Step Nat := fun
  | '.' :: cs => do
    let ds := frontDigits 9 cs
    if ds.isEmpty then none
    else
      let nano := Nat.ofDigitChars 10 ds 0 * Nat.pow 10 (9 - ds.length)
      some (nano, (cs.drop ds.length).dropWhile Char.isDigit)
  | cs => some (0, cs)

/-- Reads the letter between date and time. -/
def dateTimeSeparator : Step Unit := fun
  | c :: cs => if c == 'T' || c == 't' || c == ' ' then some ((), cs) else none
  | [] => none

/-- Reads an offset, in seconds: the letter `Z`, or a sign, two digits of hours, what `between`
takes, and two digits of minutes. -/
def offset (between : Step Unit) : Step Int := fun cs => do
  match cs with
  | [] => none
  | c :: rest =>
    if c == 'Z' || c == 'z' then return (0, rest)
    let sign : Int ← if c == '+' then some 1 else if c == '-' || c == '−' then some (-1) else none
    let (hours, rest) ← digits 2 2 rest
    let ((), rest) ← between rest
    let (minutes, rest) ← digits 2 2 rest
    if minutes < 60 then return (sign * (hours * 3600 + minutes * 60), rest) else none

/-- Reads colons and blanks, any number of them. -/
def colonsOrBlanks : Step Unit := fun cs => some ((), cs.dropWhile fun c => c == ':' || isBlank c)

/-- Reads an offset that may also be the letters `UTC` in either case. -/
def lenientOffset : Step Int := fun cs =>
  match cs with
  | a :: b :: c :: rest =>
    if [a, b, c].map Char.toLower = ['u', 't', 'c'] then some (0, rest)
    else offset colonsOrBlanks cs
  | _ => offset colonsOrBlanks cs

/-- The instant of a date and a time of day at an offset, if they exist.  Second 60 is a leap
second. -/
def instant? (year : Int) (month day hour minute second nano : Nat) (offset : Int) :
    Option Instant := do
  let date ← Date.ofParts? year month day
  if hour < 24 ∧ minute < 60 ∧ second ≤ 60 ∧ offset.natAbs < 86400 then
    let (second, nano) := if second = 60 then (59, nano + Instant.nanosPerSecond) else (second, nano)
    let t ← Instant.ofParts? date (hour * 3600 + minute * 60 + second) nano
    if offset = 0 then some t else t.plusSeconds? (-offset)
  else none

end Time

namespace Instant

open Time

/-- Reads a time in a lenient layout. -/
def read? (s : String) : Option Instant := do
  let (y, cs) ← Time.year s.toList
  let ((), cs) ← spacedChar '-' cs
  let (month, cs) ← number 2 cs
  let ((), cs) ← spacedChar '-' cs
  let (day, cs) ← number 2 cs
  let ((), cs) ← dateTimeSeparator cs
  let (hour, cs) ← number 2 cs
  let ((), cs) ← spacedChar ':' cs
  let (minute, cs) ← number 2 cs
  let ((), cs) ← spacedChar ':' cs
  let (second, cs) ← number 2 cs
  let (nano, cs) ← fraction cs
  let (offset, cs) ← lenientOffset (skipBlanks cs)
  if (skipBlanks cs).isEmpty then instant? y month day hour minute second nano offset else none

/-- Reads a time in the exact layout of RFC 3339, with an offset of less than a day. -/
def readStrict? (s : String) : Option Instant := do
  let (y, cs) ← digits 4 4 s.toList
  let ((), cs) ← char '-' cs
  let (month, cs) ← digits 2 2 cs
  let ((), cs) ← char '-' cs
  let (day, cs) ← digits 2 2 cs
  let ((), cs) ← dateTimeSeparator cs
  let (hour, cs) ← digits 2 2 cs
  let ((), cs) ← char ':' cs
  let (minute, cs) ← digits 2 2 cs
  let ((), cs) ← char ':' cs
  let (second, cs) ← digits 2 2 cs
  let (nano, cs) ← fraction cs
  let (offset, cs) ← offset (char ':') cs
  if cs.isEmpty then instant? y month day hour minute second nano offset else none

end Instant

open Time in
/-- Reads a date: a year, a month and a day with hyphens between them, blanks before each number. -/
def Date.read? (s : String) : Option Date := do
  let (y, cs) ← Time.year s.toList
  let ((), cs) ← char '-' cs
  let (month, cs) ← number 2 cs
  let ((), cs) ← char '-' cs
  let (day, cs) ← number 2 cs
  if cs.isEmpty then Date.ofParts? y month day else none

end TaskPipeline
