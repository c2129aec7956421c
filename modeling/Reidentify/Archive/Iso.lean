import Reidentify.Archive.Timestamp
import Reidentify.Fault

/-!
# Points in time as texts

The forms in which a point in time can be given. A date is a calendar date or a day of a week of a
year, with or without dashes; behind any one character may follow a clock, with or without colons,
and a distance to coordinated universal time. The distance is checked but not taken into account.
What has the form of a point in time may still have parts out of their ranges.
-/

namespace Reidentify

/-- The parts of a clock in a text, whichever of them the text leaves out. -/
structure Clock where
  /-- The hour. -/
  hour : Nat
  /-- The minute. -/
  minute : Nat
  /-- The second. -/
  second : Nat
  /-- The millionth parts of a second. -/
  microsecond : Nat
  deriving DecidableEq, Repr

namespace Iso

/-! ## Dates -/

/-- Whether `c` is a decimal digit of ASCII, the only ones in a point in time. -/
def isDigit (c : Char) : Bool := '0' ≤ c && c ≤ '9'

/-- The number that the first `count` of `chars` write as digits, and what follows. -/
def digits? (count : Nat) (chars : List Char) : Option (Nat × List Char) :=
  if chars.length < count then none
  else (Timestamp.number? (chars.take count)).map fun n => (n, chars.drop count)

/-- The number of `chars` that a date takes. A week that is followed by a dash and two characters,
the second one a digit, is taken to end at the dash. Of several digits behind a week without dashes,
the first one is the day of the week if their number is even. -/
def dateLength (chars : List Char) : Nat :=
  if chars.length = 7 then 7
  else if chars[4]? = some '-' then
    if chars[5]? = some 'W' then
      if chars[8]? != some '-' then 8
      else if chars[10]?.any isDigit then 8
      else 10
    else 10
  else if chars[4]? = some 'W' then
    let behind := ((chars.drop 7).takeWhile isDigit).length
    if behind < 2 then 7 + behind else 8 - behind % 2
  else 8

/-- The number of days in front of `year`, from the first of March of the year zero. -/
def daysBefore (year : Nat) : Nat :=
  let past := year - 1
  306 + 365 * past + past / 4 - past / 100 + past / 400

/-- The day of the week on which `year` begins, counted from Monday as zero. Days are counted from a
Wednesday. -/
def firstWeekday (year : Nat) : Nat :=
  (daysBefore year + 2) % 7

/-- Whether `year` has a fifty-third week: it begins on a Thursday, or is a leap year that begins on
a Wednesday. -/
def isLong (year : Nat) : Bool :=
  firstWeekday year == 3 || (firstWeekday year == 2 && Timestamp.daysIn year 2 == 29)

/-- The date of the day `day` of the week `week`. The first week of a year is the one that has its
first Thursday, so it may begin in the year before. -/
def dateOfWeek (year week day : Nat) : Nat × Nat × Nat :=
  let start := daysBefore year
  let weekday := firstWeekday year
  let monday := if 3 < weekday then start + 7 - weekday else start - weekday
  Timestamp.dateOfDay (monday + 7 * (week - 1) + (day - 1))

/-- A `year`, a `month` and a `day` of a text, not yet looked at for their ranges. -/
abbrev Date := Nat × Nat × Nat

/-- The date of a week of `year`, and of a day of it if one is given, behind a dash where `dashes`
are used. The weeks of the year zero have no date; its month is out of range. -/
def weekDate? (year : Nat) (dashes : Bool) (chars : List Char) : Option Date := do
  let (week, behind) ← digits? 2 chars
  let (day, rest) ←
    match dashes, behind with
    | _, [] => some (1, [])
    | true, '-' :: more => digits? 1 more
    | true, _ => none
    | false, more => digits? 1 more
  let weeks := if isLong year then 53 else 52
  if rest.isEmpty && 1 ≤ week && week ≤ weeks && 1 ≤ day && day ≤ 7 then
    return if year = 0 then (1, 0, 0) else dateOfWeek year week day
  else none

/-- The date that `chars` write, by a month or by a week. Its parts may be out of their ranges. -/
def date? (chars : List Char) : Option Date := do
  let (year, behind) ← digits? 4 chars
  let (dashes, body) :=
    match behind with
    | '-' :: more => (true, more)
    | more => (false, more)
  match body with
  | 'W' :: more => weekDate? year dashes more
  | more =>
    let (month, behind) ← digits? 2 more
    let rest ←
      match dashes, behind with
      | true, '-' :: more => some more
      | true, _ => none
      | false, more => some more
    let (day, left) ← digits? 2 rest
    if left.isEmpty then return (year, month, day) else none

/-! ## Clocks -/

/-- The numbers of a clock, and the characters of a fraction if there are any, as `clockParts?`
reads them. -/
structure ClockParts where
  /-- The numbers, the hour first. -/
  numbers : List Nat
  /-- The characters of the fraction. -/
  fraction : Option (List Char)
  /-- Whether nothing is left over behind the numbers and the fraction. -/
  isComplete : Bool
  deriving DecidableEq, Repr

/-- The parts `parts` with `number` in front. -/
def ClockParts.cons (number : Nat) (parts : ClockParts) : ClockParts :=
  { parts with numbers := number :: parts.numbers }

/-- Reads at most some numbers of a clock. Whether they stand between colons is decided behind the
first one. A single character at the end is left over, unless it is the character zero; whatever
follows the last number is a fraction. -/
def clockParts? : Nat → Option Bool → List Char → Option ClockParts
  | 0, _, chars => some ⟨[], some chars, true⟩
  | count + 1, separated, chars =>
    match digits? 2 chars with
    | none => none
    | some (number, []) => some ⟨[number], none, true⟩
    | some (number, c :: rest) =>
      let colons := separated.getD (c == ':')
      if rest.isEmpty && c.toNat < 0x80 then some ⟨[number], none, c == '\x00'⟩
      else if colons && c == ':' then (clockParts? count (some colons) rest).map (·.cons number)
      else if c == '.' || c == ',' then some ⟨[number], some rest, true⟩
      else if colons then none
      else (clockParts? count (some colons) (c :: rest)).map (·.cons number)

/-- The millionth parts of a second that the fraction `chars` writes, and whether nothing is left
over. Its first six characters have to be digits, further digits are passed over. -/
def fraction? (chars : List Char) : Option (Nat × Bool) :=
  let shown := chars.take 6
  (Timestamp.number? shown).map fun n =>
    (n * Nat.pow 10 (6 - shown.length), ((chars.dropWhile isDigit).headD '\x00') == '\x00')

/-- The clock that `chars` write, and whether nothing is left over behind it. -/
def clock? (chars : List Char) : Option (Clock × Bool) := do
  let parts ← clockParts? 3 none chars
  let (microsecond, isComplete) ←
    match parts.fraction with
    | none => some (0, parts.isComplete)
    | some digits => fraction? digits
  let number (i : Nat) : Nat := parts.numbers.getD i 0
  return (⟨number 0, number 1, number 2, microsecond⟩, isComplete)

/-- The millionth parts of a second of `clock`. A clock without whole seconds counts as zero. -/
def span (clock : Clock) : Int :=
  let seconds := 3600 * clock.hour + 60 * clock.minute + clock.second
  if seconds = 0 then 0 else 1000000 * seconds + clock.microsecond

/-- Whether a distance to coordinated universal time begins with the character `c`. -/
def beginsOffset (c : Char) : Bool := c == '+' || c == '-' || c == 'Z'

/-- The distance to coordinated universal time that `rest` writes behind its `sign`. -/
def offset? (sign : Char) (rest : List Char) : Option Int :=
  if sign = 'Z' then if rest.headD '\x00' = '\x00' then some 0 else none
  else
    match clock? rest with
    | some (clock, true) => some (if sign = '-' then -span clock else span clock)
    | _ => none

/-- The clock and the distance to coordinated universal time that `chars` write. A character may be
left over in front of the distance, but not at the end. -/
def time? (chars : List Char) : Option (Clock × Int) := do
  let (clock, isComplete) ← clock? (chars.takeWhile fun c => !beginsOffset c)
  match chars.dropWhile fun c => !beginsOffset c with
  | [] => if isComplete then return (clock, 0) else none
  | sign :: rest => return (clock, ← offset? sign rest)

/-! ## Points in time -/

/-- The date, the clock and the distance that `text` writes. Half a pair of code units may stand for
the character between date and clock, but nowhere else. -/
def parts? (text : String) : Option (Date × Clock × Int) := do
  let chars := text.toList
  let length := dateLength chars
  let date ← date? (chars.take length)
  match chars.drop length with
  | [] => return (date, ⟨0, 0, 0, 0⟩, 0)
  | _ :: rest =>
    let (clock, offset) ← time? rest
    if rest.any Text.isUnpaired then none else return (date, clock, offset)

/-- The part of `t` that is out of its range, the largest one first, or `none` if `t.isValid`. -/
def wrongPart? (t : Timestamp) : Option TimePart :=
  if t.year < 1 || 9999 < t.year then some (.year t.year)
  else if t.month < 1 || 12 < t.month then some .month
  else if t.day < 1 || Timestamp.daysIn t.year t.month < t.day then some .day
  else if 24 ≤ t.hour then some .hour
  else if 60 ≤ t.minute then some .minute
  else if 60 ≤ t.second then some .second
  else none

/-- Reads the point in time that `text` writes, and moves it to coordinated universal time. -/
def read (text : String) : Except ValueFault Timestamp :=
  match parts? text with
  | none => .error (.timestamp text)
  | some ((year, month, day), clock, offset) =>
    let found : Timestamp :=
      ⟨year, month, day, clock.hour, clock.minute, clock.second, clock.microsecond⟩
    if 86400000000 ≤ offset.natAbs then .error (.timeOffset offset)
    else
      match wrongPart? found with
      | some part => .error (.timePart part)
      | none => .ok found

end Iso

end Reidentify
