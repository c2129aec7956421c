import Reidentify.Number.Rounding

/-!
# Floating-point numbers of 64 bits

A double-precision number is kept by its three fields, so that every operation on it is exact
integer arithmetic: reading a decimal rounds a fraction to the nearest representable number,
ties going to the even one, and comparing with an integer compares the exact values.
-/

namespace Reidentify

/-- A double-precision number: its sign, its biased exponent and the fraction behind the leading
bit. The largest exponent belongs to the infinities and, with a fraction, to the numbers that are no
number. -/
structure Binary64 where
  /-- Whether the sign bit is set, which tells the two zeros apart as well. -/
  negative : Bool
  /-- The exponent field: `0` for the numbers without a leading bit, `2047` for those that are not
  finite. -/
  exponentField : Fin 2048
  /-- The fraction field, the 52 bits behind the leading one. -/
  fraction : Fin 4503599627370496
  deriving DecidableEq, Repr

namespace Binary64

/-- The weight of the leading bit in the `significand` of a normal number, two to the fifty-second
power. -/
def leadingBit : Nat := 4503599627370496

/-- The number zero with the sign `negative`: there are two zeros, which are equal. -/
def zero (negative : Bool) : Binary64 := ⟨negative, 0, 0⟩

/-- The infinity with the sign `negative`, larger than every finite number. -/
def infinity (negative : Bool) : Binary64 := ⟨negative, 2047, 0⟩

/-- A value that is no number; all of them count alike, in `isNotANumber`. -/
def notANumber : Binary64 := ⟨false, 2047, ⟨2251799813685248, by decide⟩⟩

/-- Whether `x` is no number: the largest exponent with a fraction. -/
def isNotANumber (x : Binary64) : Bool :=
  x.exponentField.val == 2047 && x.fraction.val != 0

/-- Whether `x` is one of the infinities: the largest exponent without a fraction. -/
def isInfinite (x : Binary64) : Bool :=
  x.exponentField.val == 2047 && x.fraction.val == 0

/-- Whether `x` is a number of finite size, the only ones that `significand` and `scale` are about.
-/
def isFinite (x : Binary64) : Bool :=
  x.exponentField.val != 2047

/-- The integer significand of a finite number, which is worth `significand * 2 ^ scale`. -/
def significand (x : Binary64) : Nat :=
  if x.exponentField.val = 0 then x.fraction.val else leadingBit + x.fraction.val

/-- The power of two that the `significand` of a finite number is multiplied by. -/
def scale (x : Binary64) : Int :=
  if x.exponentField.val = 0 then -1074 else (x.exponentField.val : Int) - 1075

/-- Whether `x` is a `zero` of either sign. -/
def isZero (x : Binary64) : Bool :=
  x.exponentField.val == 0 && x.fraction.val == 0

/-- The number `m * 2 ^ q` for a significand `m` below two to the fifty-third power, or infinity if
it is too large. A significand without the leading bit is taken only at the least scale. -/
def ofScaled (negative : Bool) (m : Nat) (q : Int) : Binary64 :=
  if h : m < 4503599627370496 then ⟨negative, 0, ⟨m, h⟩⟩
  else if h : (q + 1075).toNat < 2047 then
    ⟨negative, ⟨(q + 1075).toNat, by omega⟩, ⟨(m - leadingBit) % 4503599627370496,
      Nat.mod_lt _ (by decide)⟩⟩
  else infinity negative

/-- The double nearest to the fraction `num / den` with the sign `negative`, a tie going to the even
significand. -/
def ofRatio (negative : Bool) (num den : Nat) : Binary64 :=
  if num = 0 then zero negative
  else
    let q := max (-1074) (Rounding.scaleFor 53 num den)
    let m := Rounding.significandAt num den q
    -- rounding up may carry into a fifty-fourth bit
    if m < 2 * leadingBit then ofScaled negative m q
    else ofScaled negative leadingBit (q + 1)

/-- The double nearest to `digits * 10 ^ exponent` with the sign `negative`. Exponents far outside
the range of doubles are decided without raising ten to them. -/
def ofDecimal (negative : Bool) (digits : Nat) (exponent : Int) : Binary64 :=
  let size : Int := (toString digits).length + exponent
  if digits = 0 || size < -400 then zero negative
  else if 400 < size then infinity negative
  else if 0 ≤ exponent then ofRatio negative (digits * Nat.pow 10 exponent.toNat) 1
  else ofRatio negative digits (Nat.pow 10 (-exponent).toNat)

/-- The integer part of a finite `x`: the number without its fraction, so it goes towards zero. -/
def truncate (x : Binary64) : Int :=
  let size : Nat :=
    if 0 ≤ x.scale then x.significand * Nat.pow 2 x.scale.toNat
    else x.significand / Nat.pow 2 (-x.scale).toNat
  if x.negative then -(size : Int) else size

/-- Whether `x` is finite and has no fraction, i.e. is the same number as `truncate x`. -/
def isIntegral (x : Binary64) : Bool :=
  x.isFinite && (0 ≤ x.scale || x.significand % Nat.pow 2 (-x.scale).toNat == 0)

/-- Whether `x` is finite and has exactly the value of the integer `n`. -/
def equalsInt (x : Binary64) (n : Int) : Bool :=
  x.isIntegral && x.truncate == n

/-- Numerical equality of `x` and `y`: the two zeros are equal, and a value that is no number equals
none. -/
def equals (x y : Binary64) : Bool :=
  !x.isNotANumber && !y.isNotANumber && (x == y || (x.isZero && y.isZero))

/-- Whether `x` is strictly below the integer `n`, which `floor` decides for finite numbers. -/
def belowInt (x : Binary64) (n : Int) : Bool :=
  if x.isNotANumber then false
  else if x.isInfinite then x.negative
  else
    -- below zero `truncate` rounds up, so a number with a fraction lies above the integer before
    let floor := if x.negative && !x.isIntegral then x.truncate - 1 else x.truncate
    floor < n

/-- Whether `x` is strictly above the integer `n`: a number neither below nor equal to it. -/
def aboveInt (x : Binary64) (n : Int) : Bool :=
  !x.isNotANumber && !x.belowInt n && !x.equalsInt n

end Binary64

end Reidentify
