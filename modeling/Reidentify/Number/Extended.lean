import Reidentify.Number.Binary64

/-!
# Arithmetic with significands of 64 bits

Conversions between numbers and decimal texts that go through several multiplications do each of
them with more bits than a double-precision number has, and round to double precision at the end.
An extended number is not negative and has a significand of 64 bits; its exponent has no bounds,
because no conversion comes near those that it would have. Every operation rounds its exact result
to the nearest extended number, a tie going to the even significand.
-/

namespace Reidentify

/-- A number that is not negative, worth `significand * 2 ^ scale`. -/
structure Extended where
  /-- The significand, of at most `Extended.bits` bits once it is rounded. -/
  significand : Nat
  /-- The power of two that `significand` is multiplied by. -/
  scale : Int
  deriving DecidableEq, Repr

namespace Extended

/-- The number of bits that `rounded` leaves to a significand, which is 64. -/
def bits : Nat := 64

/-- The number nearest to `num / den * 2 ^ scale` with a significand of `bits` bits. -/
def rounded (num den : Nat) (scale : Int) : Extended :=
  if num = 0 then ⟨0, 0⟩
  else
    let q := Rounding.scaleFor bits num den
    ⟨Rounding.significandAt num den q, q + scale⟩

/-- The natural number `n`, rounded to a significand of `bits` bits. -/
def ofNat (n : Nat) : Extended := rounded n 1 0

/-- The size of a finite double-precision number `x`, which is exact. -/
def ofSize (x : Binary64) : Extended := ⟨x.significand, x.scale⟩

/-- The double-precision number nearest to `x`, with the sign `negative`. -/
def toBinary64 (negative : Bool) (x : Extended) : Binary64 :=
  if 0 ≤ x.scale then Binary64.ofRatio negative (x.significand * Nat.pow 2 x.scale.toNat) 1
  else Binary64.ofRatio negative x.significand (Nat.pow 2 (-x.scale).toNat)

/-- The significand of `x` at a `scale` that is not larger than its own, so that two numbers can be
compared and added. -/
def significandBelow (x : Extended) (scale : Int) : Nat :=
  x.significand * Nat.pow 2 (x.scale - scale).toNat

/-- Whether `x` is strictly smaller than `y`, compared at the smaller of their scales. -/
def isBelow (x y : Extended) : Bool :=
  let scale := min x.scale y.scale
  x.significandBelow scale < y.significandBelow scale

/-- The product of `x` and `y`, rounded once to `bits` bits. -/
def mul (x y : Extended) : Extended :=
  rounded (x.significand * y.significand) 1 (x.scale + y.scale)

/-- The quotient of `x` and `y`, rounded once to `bits` bits. -/
def div (x y : Extended) : Extended :=
  rounded x.significand y.significand (x.scale - y.scale)

/-- The sum of `x` and `y`, rounded once to `bits` bits. -/
def add (x y : Extended) : Extended :=
  let scale := min x.scale y.scale
  rounded (x.significandBelow scale + y.significandBelow scale) 1 scale

/-- The integer part of `x`, which is not negative. -/
def floor (x : Extended) : Nat :=
  if 0 ≤ x.scale then x.significand * Nat.pow 2 x.scale.toNat
  else x.significand / Nat.pow 2 (-x.scale).toNat

/-- What is left of `x` without its `floor`, which is exact. -/
def fraction (x : Extended) : Extended :=
  if 0 ≤ x.scale then ⟨0, 0⟩ else ⟨x.significand % Nat.pow 2 (-x.scale).toNat, x.scale⟩

/-- Ten to the `power`, rounded after every multiplication: the product of the squares of ten that
the bits of `power` ask for. -/
def powerOfTen (power : Nat) : Extended :=
  collect 16 power (ofNat 10) (ofNat 1)
where
  /-- Goes through the bits of a power, the lowest one first, with a bound on their number. -/
  collect : Nat → Nat → Extended → Extended → Extended
    | 0, _, _, product => product
    | fuel + 1, rest, square, product =>
      let next := if rest % 2 = 1 then product.mul square else product
      if rest / 2 = 0 then next else collect fuel (rest / 2) (square.mul square) next

end Extended

end Reidentify
