/-!
# Rounding to a number of bits

A fraction of natural numbers is rounded to the nearest number that has a significand of a given
number of bits, a tie going to the even significand. The significand is found at the least scale
at which it fits.
-/

namespace Reidentify.Rounding

/-- The integer nearest to the quotient `num / den`, a tie going to the even neighbour. -/
def divideToEven (num den : Nat) : Nat :=
  let low := num / den
  let rest := 2 * (num % den)
  if rest < den then low
  else if den < rest then low + 1
  else if low % 2 = 0 then low else low + 1

/-- The quotient `num / (den * 2 ^ q)`, rounded to the nearest integer with `divideToEven`. -/
def significandAt (num den : Nat) (q : Int) : Nat :=
  if 0 ≤ q then divideToEven num (den * Nat.pow 2 q.toNat)
  else divideToEven (num * Nat.pow 2 (-q).toNat) den

/-- The least scale at which the significand of a positive fraction `num / den` fits into `bits`
bits. -/
def scaleFor (bits num den : Nat) : Int :=
  let guess : Int := (Nat.log2 num : Int) - Nat.log2 den - bits
  let fits : Bool :=
    if 0 ≤ guess then num / (den * Nat.pow 2 guess.toNat) < Nat.pow 2 bits
    else num * Nat.pow 2 (-guess).toNat / den < Nat.pow 2 bits
  if fits then guess else guess + 1

end Reidentify.Rounding
