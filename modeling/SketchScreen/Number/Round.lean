/-!
# Rounding of Exact Quotients

Every rounded number of the simulator, be it a screen coordinate, a colour channel
or a binary float, is an exact quotient rounded to the nearest integer, a half
going to the even neighbour.

## Main Definitions

- `roundDiv`: the integer nearest to a quotient of natural numbers, ties to even.
- `roundDivInt`: the same for a signed numerator.
- `twoTo`, `tenTo`: the powers of the two bases.
-/

namespace SketchScreen.Number

/-- The natural number nearest to `num / den`; a half goes to the even neighbour. -/
def roundDiv (num den : Nat) : Nat :=
  let whole := num / den
  let rest := num % den
  if den < 2 * rest ∨ (2 * rest = den ∧ whole % 2 = 1) then whole + 1 else whole

/-- The integer nearest to `num / den`; a half goes to the even neighbour. -/
def roundDivInt (num : Int) (den : Nat) : Int :=
  if num < 0 then -(roundDiv num.natAbs den : Int) else roundDiv num.natAbs den

/-- A power of two. -/
def twoTo (n : Nat) : Nat := Nat.pow 2 n

/-- A power of ten. -/
def tenTo (n : Nat) : Nat := Nat.pow 10 n

end SketchScreen.Number
