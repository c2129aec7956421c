import Reidentify.Number.Decimal
import Reidentify.Number.Extended
import Reidentify.Text.Integer

/-!
# Numerals of cells

How a cell turns a text into a number and a number into a text. Neither is exact: a numeral is read
with as many digits as a signed integer of 64 bits holds and is scaled by a power of ten with
extended arithmetic, and a number is written with fifteen digits that are peeled off its extended
quotient by a power of ten.
-/

namespace Reidentify

namespace Binary64

/-- The double-precision product of `x` and `y`, two finite numbers that are not negative, with the
sign `negative`. -/
def scaledUp (negative : Bool) (x y : Binary64) : Binary64 :=
  Extended.toBinary64 negative ⟨x.significand * y.significand, x.scale + y.scale⟩

/-- The double-precision quotient of `x` by `y`, two positive finite numbers, with the sign
`negative`. -/
def scaledDown (negative : Bool) (x y : Binary64) : Binary64 :=
  let scale := x.scale - y.scale
  if 0 ≤ scale then ofRatio negative (x.significand * Nat.pow 2 scale.toNat) y.significand
  else ofRatio negative x.significand (y.significand * Nat.pow 2 (-scale).toNat)

end Binary64

/-- The digits that a text gives for a number, `significand * 10 ^ power` up to its sign. -/
structure Numeral where
  /-- Whether a minus sign stands in front. -/
  isNegative : Bool
  /-- The digits that are read, as an integer. -/
  significand : Nat
  /-- The power of ten that `significand` is multiplied by. -/
  power : Int
  deriving DecidableEq, Repr

namespace Numeral

/-! ## Reading -/

/-- A significand that has reached this number takes no more digits (`ofWhole`, `withFraction`). -/
def fullAt : Nat := 922337203685477579

/-- The number that the decimal digit `c` stands for. -/
def digit (c : Char) : Nat := c.toNat - 48

/-- The `significand` with the digits in front of a point, and how many digits it does not take. -/
def ofWhole (significand : Nat) : List Char → Nat × Nat
  | [] => (significand, 0)
  | c :: rest =>
    let next := 10 * significand + digit c
    if fullAt ≤ next then (next, rest.length) else ofWhole next rest

/-- The `significand` that goes on with the digits behind a point, and how many digits it takes. -/
def withFraction (significand : Nat) : List Char → Nat × Nat
  | [] => (significand, 0)
  | c :: rest =>
    if fullAt ≤ significand then (significand, 0)
    else
      let (last, taken) := withFraction (10 * significand + digit c) rest
      (last, taken + 1)

/-- The power that the `digits` of an exponent write. Beyond five digits it is not counted. -/
def exponentOf (digits : List Char) : Nat :=
  digits.foldl (fun power c => if power < 10000 then 10 * power + digit c else 10000) 0

/-- The numeral of a sign, the digits `whole` in front of and `fraction` behind a point, and an
exponent. -/
def ofParts (isNegative : Bool) (whole fraction : List Char) (exponent : Int) : Numeral :=
  let (front, skipped) := ofWhole 0 whole
  let (significand, taken) := withFraction front fraction
  ⟨isNegative, significand, exponent + skipped - taken⟩

/-- Moves zeros between the significand and the power, so that the power comes closer to zero. The
significand stays below two to the sixty-third power, so twenty steps are enough. -/
def settled : Nat → Nat → Int → Nat × Int
  | 0, significand, power => (significand, power)
  | fuel + 1, significand, power =>
    if 0 < power ∧ significand ≤ fullAt then settled fuel (10 * significand) (power - 1)
    else if power < 0 ∧ significand % 10 = 0 then settled fuel (significand / 10) (power + 1)
    else (significand, power)

/-- The largest power of ten that a double-precision number is scaled by at once, in `toBinary64`.
-/
def largest : Binary64 := Binary64.ofDecimal false 1 308

/-- The number of `numeral`. Beyond the power 307 it is scaled in two steps, and the second one is
in double precision. -/
def toBinary64 (numeral : Numeral) : Binary64 :=
  let negative := numeral.isNegative
  if numeral.significand = 0 then .zero negative
  else
    let (significand, power) := settled 20 numeral.significand numeral.power
    let start := Extended.ofNat significand
    let size := power.natAbs
    if 0 ≤ power then
      if size ≤ 307 then (start.mul (.powerOfTen size)).toBinary64 negative
      else if size < 342 then
        .scaledUp negative ((start.mul (.powerOfTen (size - 308))).toBinary64 false) largest
      else .infinity negative
    else if size ≤ 307 then (start.div (.powerOfTen size)).toBinary64 negative
    else if size < 342 then
      .scaledDown negative ((start.div (.powerOfTen (size - 308))).toBinary64 false) largest
    else .zero negative

/-! ## Writing -/

/-- The number of digits that `decimalOf` peels off the size of a number. -/
def digitCount : Nat := 15

/-- The extended number of ten to the `power`, rounded to double precision. -/
def powerOfTen (power : Int) : Extended := .ofSize (Binary64.ofDecimal false 1 power)

/-- Half a unit of the last digit that is written, the product of two numbers in double precision.
-/
def halfUnit : Extended :=
  .ofSize (.scaledUp false (Binary64.ofDecimal false 5 (-5)) (Binary64.ofDecimal false 1 (-10)))

/-- Multiplies a scale by ten to the `power` as long as `size` reaches the product, and counts the
power. -/
def climb (size : Extended) (power : Nat) : Nat → Extended × Int → Extended × Int
  | 0, reached => reached
  | fuel + 1, (scale, reached) =>
    let next := scale.mul (powerOfTen power)
    if size.isBelow next then (scale, reached)
    else climb size power fuel (next, reached + power)

/-- Multiplies a number by ten to the `power` as long as it lies below `bound`, and counts the
power. -/
def raise (bound : Extended) (power : Nat) : Nat → Extended × Int → Extended × Int
  | 0, reached => reached
  | fuel + 1, (size, reached) =>
    if size.isBelow bound then raise bound power fuel (size.mul (powerOfTen power), reached - power)
    else (size, reached)

/-- Peels as many digits off a number as the first argument says, and puts them behind those that
are there already. -/
def peel : Nat → Extended → Nat → Nat
  | 0, _, digits => digits
  | fuel + 1, size, digits =>
    peel fuel (size.fraction.mul (powerOfTen 1)) (10 * digits + size.floor)

/-- The decimal of at most `digitCount` digits that is written for the size of `x`, a finite number
that is not zero. -/
def decimalOf (x : Binary64) : Decimal :=
  let size := Extended.ofSize x
  let one := Extended.ofNat 1
  let (scale, high) :=
    climb size 1 10 (climb size 10 10 (climb size 100 4 (one, 0)))
  let (leading, power) :=
    raise one 1 10 (raise (powerOfTen (-8)) 8 50 (size.div scale, high))
  let upper := leading.add halfUnit
  let (shown, last) :=
    if upper.isBelow (powerOfTen 1) then (upper, power)
    else (upper.mul (powerOfTen (-1)), power + 1)
  Decimal.stripZeros digitCount ⟨peel digitCount shown 0, last - digitCount + 1⟩

end Numeral

end Reidentify
