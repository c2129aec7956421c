import Reidentify.Text.Column

/-!
# Points in time

A point in time by the digits of a calendar and a clock in coordinated universal time. The
archive keeps it as a stamp, a text without fractions of a second; years are written with as few
digits as they have, so only stamps of years with four digits can be read back.
-/

namespace Reidentify

/-- A point in time by the digits of a calendar and a clock. The parts need not be in their ranges;
`isValid` says whether they are. -/
structure Timestamp where
  /-- The year. -/
  year : Nat
  /-- The month, from one. -/
  month : Nat
  /-- The day of the month, from one. -/
  day : Nat
  /-- The hour, from `0` to `23`. -/
  hour : Nat
  /-- The minute, from `0` to `59`. -/
  minute : Nat
  /-- The second, from `0` to `59`. -/
  second : Nat
  /-- The millionth parts of a second, which a `stamp` leaves out. -/
  microsecond : Nat
  deriving DecidableEq, Repr

namespace Timestamp

/-- The number of days of `month` in `year`, leap years included. -/
def daysIn (year month : Nat) : Nat :=
  if month = 2 then
    if year % 4 = 0 ∧ (year % 100 ≠ 0 ∨ year % 400 = 0) then 29 else 28
  else if month = 4 ∨ month = 6 ∨ month = 9 ∨ month = 11 then 30
  else 31

/-- Whether the parts of `t` make up a point in time, i.e. each of them is in its range. -/
def isValid (t : Timestamp) : Bool :=
  1 ≤ t.year && 1 ≤ t.month && t.month ≤ 12 && 1 ≤ t.day && t.day ≤ daysIn t.year t.month
    && t.hour < 24 && t.minute < 60 && t.second < 60

/-- The month and the day with dashes in front, the `separator`, and the clock up to the minutes. -/
def behindYear (t : Timestamp) (separator : String) : String :=
  "-" ++ Text.zeroPadded 2 t.month ++ "-" ++ Text.zeroPadded 2 t.day ++ separator
    ++ Text.zeroPadded 2 t.hour ++ ":" ++ Text.zeroPadded 2 t.minute

/-- The text of `t` that the archive keeps, without fractions of a second. -/
def stamp (t : Timestamp) : String :=
  toString t.year ++ t.behindYear "T" ++ ":" ++ Text.zeroPadded 2 t.second ++ "Z"

/-- The full text of `t` with its distance to coordinated universal time, which is none. A fraction
is written only if there is one. -/
def iso (t : Timestamp) : String :=
  let fraction := if t.microsecond = 0 then "" else "." ++ Text.zeroPadded 6 t.microsecond
  Text.zeroPadded 4 t.year ++ t.behindYear "T" ++ ":" ++ Text.zeroPadded 2 t.second ++ fraction
    ++ "+00:00"

/-- The day and the time of `t` up to the minute. A year has as few digits as it has. -/
def short (t : Timestamp) : String :=
  toString t.year ++ t.behindYear " "

/-- The number that `digits` of ASCII write, or `none` if one of them is something else. -/
def number? (digits : List Char) : Option Nat :=
  if digits.all fun c => '0' ≤ c && c ≤ '9' then
    some (digits.foldl (fun n c => 10 * n + (c.toNat - 48)) 0)
  else none

/-- The day, and the clock behind a separator, that some characters begin with, and what follows.
The separator may be any character. -/
def ofDigits? : List Char → Option (Timestamp × List Char)
  | y1 :: y2 :: y3 :: y4 :: '-' :: m1 :: m2 :: '-' :: d1 :: d2 :: _ ::
      h1 :: h2 :: ':' :: n1 :: n2 :: ':' :: s1 :: s2 :: rest => do
    let year ← number? [y1, y2, y3, y4]
    let month ← number? [m1, m2]
    let day ← number? [d1, d2]
    let hour ← number? [h1, h2]
    let minute ← number? [n1, n2]
    let second ← number? [s1, s2]
    return (⟨year, month, day, hour, minute, second, 0⟩, rest)
  | _ => none

/-- Reads the `text` of a stamp, whose parts have to be in their ranges. -/
def ofStamp? (text : String) : Option Timestamp :=
  match ofDigits? text.toList with
  | some (t, ['Z']) => if t.isValid then some t else none
  | _ => none

/-- The date of a day, `days` behind the first of March of the year zero. Years are counted from a
first of March, so that a leap day ends its year. -/
def dateOfDay (days : Nat) : Nat × Nat × Nat :=
  let cycle := days / 146097
  let dayOfCycle := days % 146097
  let yearOfCycle :=
    (dayOfCycle - dayOfCycle / 1460 + dayOfCycle / 36524 - dayOfCycle / 146096) / 365
  let dayOfYear := dayOfCycle - (365 * yearOfCycle + yearOfCycle / 4 - yearOfCycle / 100)
  let monthOfYear := (5 * dayOfYear + 2) / 153
  let month := if monthOfYear < 10 then monthOfYear + 3 else monthOfYear - 9
  (yearOfCycle + 400 * cycle + (if month ≤ 2 then 1 else 0), month,
    dayOfYear - (153 * monthOfYear + 2) / 5 + 1)

/-- The point in time that lies `seconds`, and `microsecond` millionths of a second, behind the
beginning of the year 1970. -/
def ofEpoch (seconds microsecond : Nat) : Timestamp :=
  let (year, month, day) := dateOfDay (seconds / 86400 + 719468)
  { year, month, day, microsecond
    hour := seconds % 86400 / 3600
    minute := seconds % 3600 / 60
    second := seconds % 60 }

end Timestamp

end Reidentify
