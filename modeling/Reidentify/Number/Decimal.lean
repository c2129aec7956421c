import Reidentify.Number.Binary64

/-!
# Decimal text of floating-point numbers

A number is written with the fewest digits that read back to it. The digits are chosen in exact
integer arithmetic: the numbers that round to a double fill an interval, and for one digit, two
digits and so on the two decimals next to the double are tested against it. How the digits are
laid out (where positional notation ends, how an exponent looks) is a separate record.
-/

namespace Reidentify

/-- A positive decimal number, worth `digits * 10 ^ exponent`. -/
structure Decimal where
  /-- The digits as an integer. -/
  digits : Nat
  /-- The power of ten that `digits` is multiplied by. -/
  exponent : Int
  deriving DecidableEq, Repr

namespace Decimal

/-- Drops zeros at the end of the digits of a decimal, at most as many as its first argument says.
The number stays the same. -/
def stripZeros : Nat → Decimal → Decimal
  | 0, d => d
  | fuel + 1, d =>
    if d.digits ≠ 0 ∧ d.digits % 10 = 0 then stripZeros fuel ⟨d.digits / 10, d.exponent + 1⟩
    else d

/-- The power of ten that the leading digit of `d` counts. -/
def leadingPower (d : Decimal) : Int :=
  d.exponent + (toString d.digits).length - 1

/-- The fraction `num / den` multiplied by `10 ^ -power`, again as a pair of numerator and
denominator. -/
def scaledRatio (num den : Nat) (power : Int) : Nat × Nat :=
  if 0 ≤ power then (num, den * Nat.pow 10 power.toNat)
  else (num * Nat.pow 10 (-power).toNat, den)

/-- The power of ten of the leading digit of a positive fraction `num / den`, starting from a
`guess` that is at most two off. -/
def leadingPowerOf (num den : Nat) : Int :=
  let guess : Int := ((Nat.log2 num : Int) - Nat.log2 den) * 30103 / 100000
  let reaches (power : Int) : Bool :=
    let (n, d) := scaledRatio num den power
    d ≤ n
  if reaches (guess + 2) then guess + 2
  else if reaches (guess + 1) then guess + 1
  else if reaches guess then guess
  else if reaches (guess - 1) then guess - 1
  else guess - 2

/-- The fraction `num / den` rounded to `count` significant digits, a tie going away from zero. -/
def rounded (num den count : Nat) : Decimal :=
  let power := leadingPowerOf num den - (count : Int) + 1
  let (n, d) := scaledRatio num den power
  ⟨(2 * n + d) / (2 * d), power⟩

/-- The interval of a positive double: the double itself and the bounds of the numbers that round to
it, all three as numerators over one denominator, and whether the bounds count. -/
structure RoundingInterval where
  /-- The lower bound, half way to the double below. -/
  low : Nat
  /-- The double itself, between `low` and `high`. -/
  value : Nat
  /-- The upper bound, half way to the double above. -/
  high : Nat
  /-- The denominator that `low`, `value` and `high` share. -/
  den : Nat
  /-- Whether the bounds themselves round to the double, its significand being even. -/
  closed : Bool
  deriving DecidableEq, Repr

/-- The rounding interval of the size of a finite double `x`. The gap below a power of two is half
the gap above it. -/
def RoundingInterval.of (x : Binary64) : RoundingInterval :=
  let m := x.significand
  let q := x.scale
  let narrow := m == Binary64.leadingBit && decide (1 < x.exponentField.val)
  let low := if narrow then 4 * m - 1 else 4 * m - 2
  let closed := m % 2 == 0
  if 2 ≤ q then
    let unit := Nat.pow 2 (q - 2).toNat
    ⟨low * unit, 4 * m * unit, (4 * m + 2) * unit, 1, closed⟩
  else ⟨low, 4 * m, 4 * m + 2, Nat.pow 2 (2 - q).toNat, closed⟩

/-- Whether the decimal `d` lies in `interval`, with or without its bounds. -/
def RoundingInterval.holds (interval : RoundingInterval) (d : Decimal) : Bool :=
  let (n, scaled) :=
    if 0 ≤ d.exponent then (d.digits * Nat.pow 10 d.exponent.toNat * interval.den, 1)
    else (d.digits * interval.den, Nat.pow 10 (-d.exponent).toNat)
  if interval.closed then interval.low * scaled ≤ n && n ≤ interval.high * scaled
  else interval.low * scaled < n && n < interval.high * scaled

/-- The decimal of `count` digits that is nearest to a double and reads back to it. If the nearest
one does not, its neighbour on the other side of the double may. -/
def readingBack? (interval : RoundingInterval) (count : Nat) : Option Decimal :=
  let power := leadingPowerOf interval.value interval.den - (count : Int) + 1
  let (n, d) := scaledRatio interval.value interval.den power
  let nearest := Rounding.divideToEven n d
  let other := if nearest * d ≤ n then nearest + 1 else nearest - 1
  if interval.holds ⟨nearest, power⟩ then some ⟨nearest, power⟩
  else if interval.holds ⟨other, power⟩ then some ⟨other, power⟩
  else none

/-- The decimal with the fewest digits that reads back to a positive finite double `x`. Seventeen
digits always do. -/
def shortest (x : Binary64) : Decimal :=
  let interval := RoundingInterval.of x
  let candidates := (List.range 17).filterMap fun k => readingBack? interval (k + 1)
  stripZeros 400 (candidates.headD (rounded interval.value interval.den 17))

end Decimal

/-- How the digits of a number are laid out, which differs between messages (`Value.numberLayout`)
and documents. -/
structure NumberLayout where
  /-- The least power of the leading digit that is still written positionally. -/
  positionalFrom : Int
  /-- The first power of the leading digit that is no longer written positionally. -/
  positionalBelow : Int
  /-- Whether a number with an exponent and a single digit keeps a fraction `.0`. -/
  fractionBeforeExponent : Bool
  /-- The text of infinity. -/
  infinityText : String
  /-- The text of negative infinity. -/
  negativeInfinityText : String
  /-- The text of a value that is no number. -/
  notANumberText : String
  deriving DecidableEq, Repr

namespace NumberLayout

/-- The text of `digits` with a point behind the first `whole` of them; zeros fill up what is
missing, and a missing fraction is `.0`. -/
def withPoint (digits : List Char) (whole : Nat) : List Char :=
  let filled := digits ++ List.replicate (whole - digits.length) '0'
  let fraction := filled.drop whole
  filled.take whole ++ '.' :: (if fraction.isEmpty then ['0'] else fraction)

/-- The exponent of a number: the letter `e`, the sign of `power` and at least two digits. -/
def exponentText (power : Int) : List Char :=
  let digits := (toString power.natAbs).toList
  'e' :: (if power < 0 then '-' else '+') ::
    (if digits.length < 2 then '0' :: digits else digits)

/-- The text of the positive decimal number `d` in `layout`: with a point if its leading digit
counts a power in the positional range, with an exponent otherwise. -/
def textOf (layout : NumberLayout) (d : Decimal) : List Char :=
  let digits := (toString d.digits).toList
  let power := d.leadingPower
  if layout.positionalFrom ≤ power && power < layout.positionalBelow then
    if power < 0 then '0' :: '.' :: List.replicate ((-power).toNat - 1) '0' ++ digits
    else withPoint digits (power.toNat + 1)
  else
    let mantissa :=
      if digits.length = 1 && !layout.fractionBeforeExponent then digits
      else withPoint digits 1
    mantissa ++ exponentText power

/-- The text of `x` in `layout`, its digits being chosen by `decimalOf`. -/
def render (layout : NumberLayout) (decimalOf : Binary64 → Decimal) (x : Binary64) : String :=
  if x.isNotANumber then layout.notANumberText
  else if x.isInfinite then
    if x.negative then layout.negativeInfinityText else layout.infinityText
  else
    let size := if x.isZero then ['0', '.', '0'] else layout.textOf (decimalOf x)
    String.ofList (if x.negative then '-' :: size else size)

end NumberLayout

end Reidentify
