import SketchScreen.Number.Basic

/-!
# Rounded Quotients of Integers

A quotient of integers is a float before it is rounded to an integer again.  For small numbers
this is the same as rounding once; for numbers beyond the precision of floats it is not.

## Main Definitions

- `roundQuotient`: the integer nearest to the float nearest to a quotient.
-/

namespace SketchScreen.Number

/-- The integer nearest to the float nearest to `m / n`, for a positive divisor. -/
def roundQuotient (m : Int) (n : Nat) : Except NumberFault Int :=
  if m = 0 then .ok 0
  else if Binary.nearestBits m.natAbs n
    < Binary.exponentLimit * twoTo Binary.mantissaBits then
    let (mantissa, exponent) := Binary.nearestParts m.natAbs n
    let (num, den) := Binary.fraction (m < 0) mantissa exponent
    .ok (roundDivInt num den)
  else .error .quotientTooLarge

end SketchScreen.Number
