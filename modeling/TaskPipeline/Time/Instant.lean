import TaskPipeline.Time.Date

/-!
# Instants

`Instant` is a time in UTC to the nanosecond.  A leap second is the last second of a minute with a
nanosecond part of a thousand million or more, so instants order as their parts do.
`Instant.daysUntil` counts whole days between two instants, rounded toward zero.
-/

namespace TaskPipeline

/-- A time in UTC. -/
structure Instant where
  /-- The date. -/
  date : Date
  /-- The second of the day. -/
  second : Nat
  /-- The nanosecond of the second; in a leap second it goes on past a thousand million. -/
  nano : Nat
  /-- The second is a second of the day. -/
  second_lt : second < 86400
  /-- The nanoseconds go past a thousand million in the last second of a minute only. -/
  nano_lt : nano < 1000000000 ∨ (nano < 2000000000 ∧ second % 60 = 59)
deriving DecidableEq

namespace Instant

/-- Nanoseconds in a second. -/
def nanosPerSecond : Nat := 1000000000

/-- The instant with these parts, if it exists. -/
def ofParts? (date : Date) (second nano : Nat) : Option Instant :=
  if h : second < 86400 ∧ (nano < 1000000000 ∨ (nano < 2000000000 ∧ second % 60 = 59)) then
    some ⟨date, second, nano, h.1, h.2⟩
  else none

/-- The beginning of a day. -/
def midnight (date : Date) : Instant := ⟨date, 0, 0, by decide, by decide⟩

/-- The beginning of 1970. -/
def epoch : Instant := midnight .epoch

/-- Orders instants by time. -/
def compare (a b : Instant) : Ordering :=
  (a.date.compare b.date).then
    ((Ord.compare a.second b.second).then (Ord.compare a.nano b.nano))

/-- The nanoseconds from the second instant to the first.  Between a leap second and an instant at a
later time of day one more second has passed than the clock shows. -/
def since (a b : Instant) : Int :=
  let seconds := (a.date.dayNumber - b.date.dayNumber) * 86400 + ((a.second : Int) - b.second)
  let leap : Int :=
    if b.second < a.second ∧ nanosPerSecond ≤ b.nano then 1
    else if a.second < b.second ∧ nanosPerSecond ≤ a.nano then -1
    else 0
  (seconds + leap) * nanosPerSecond + ((a.nano : Int) - b.nano)

/-- Nanoseconds in a day. -/
def nanosPerDay : Int := 86400 * nanosPerSecond

/-- The whole days from `now` until `due`, rounded toward zero: less than a day in either
direction is no day. -/
def daysUntil (due now : Instant) : Int := (due.since now).tdiv nanosPerDay

/-- The instant some seconds later, or earlier for a negative number; `none` outside the range of
dates. -/
def plusSeconds? (t : Instant) (seconds : Int) : Option Instant := do
  let total := t.second + seconds
  let date ← Date.ofDayNumber? (t.date.dayNumber + total / 86400)
  ofParts? date (total % 86400).toNat t.nano

/-- The instant some nanoseconds later. -/
def plusNanos? (t : Instant) (nanos : Nat) : Option Instant := do
  let total := t.nano + nanos
  let t ← plusSeconds? { t with nano := 0, nano_lt := .inl (by decide) } (total / nanosPerSecond)
  ofParts? t.date t.second (total % nanosPerSecond)

end Instant

end TaskPipeline
