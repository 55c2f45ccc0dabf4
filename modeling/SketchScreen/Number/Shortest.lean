import SketchScreen.Number.Binary

/-!
# Shortest Decimal Digits

The digits of a finite float are the fewest that still read back as the same float, and of
those the nearest to it.

## Main Definitions

- `Digits`: a row of decimal digits with the place of its last digit.
- `shortest`: the digits of a positive float.

## Design Notes

A float stands for the interval of reals that round to it; its ends belong to it when the
mantissa is even.  On the grid of multiples of a power of ten, one of the two neighbours of
the float lies in the interval as soon as any point of the grid does, so the search tries
both, from the coarsest grid to the finest.  All numbers are exact: lengths are counted in
quarters of the last binary place.
-/

namespace SketchScreen.Number

/-- The number `significand * 10 ^ exponent`. -/
structure Digits where
  significand : Nat
  exponent : Int
deriving DecidableEq, Repr

/-- The reals that round to one float, in quarters of its last binary place. -/
structure Interval where
  low : Nat
  high : Nat
  closed : Bool
deriving DecidableEq, Repr

/-- The reals that round to `mantissa * 2 ^ exponent`.  Below a power of two the
floats lie twice as close. -/
def Interval.ofBinary (mantissa : Nat) (exponent : Int) : Interval where
  low :=
    if mantissa = twoTo Binary.mantissaBits ∧
        Binary.minExponent < exponent then 4 * mantissa - 1
    else 4 * mantissa - 2
  high := 4 * mantissa + 2
  closed := mantissa % 2 = 0

/-- Whether `num / den` lies in the interval. -/
def Interval.holds (i : Interval) (num den : Nat) : Bool :=
  if i.closed then i.low * den ≤ num && num ≤ i.high * den
  else i.low * den < num && num < i.high * den

/-- The number of decimal digits of a natural number. -/
def digitCount (n : Nat) : Nat :=
  (Nat.toDigits 10 n).length

/-- The factor by which `num * 2 ^ exponent` is multiplied and divided to be counted in
units of `10 ^ place`. -/
def gridFactors (exponent place : Int) : Nat × Nat :=
  (twoTo exponent.toNat * tenTo (-place).toNat, twoTo (-exponent).toNat * tenTo place.toNat)

/-- The decimal place just above the leading digit of `mantissa * 2 ^ exponent`. -/
def leadingPlace (mantissa : Nat) (exponent : Int) : Int :=
  let whole := mantissa * twoTo exponent.toNat
  let part := twoTo (-exponent).toNat
  if part ≤ whole then digitCount (whole / part)
  else
    -- The number of zeros after the point is one less than the digits of the
    -- inverse, or equal to it.
    let zeros := digitCount (part / whole) - 1
    if whole * tenTo zeros < part then -(zeros : Int) else 1 - (zeros : Int)

/-- The neighbour of the float on the grid of `10 ^ place` that reads back as the float, the
nearer one if both do; a tie goes to the even one. -/
def onGrid? (mantissa : Nat) (exponent : Int) (place : Int) : Option Nat :=
  let interval := Interval.ofBinary mantissa exponent
  let (up, down) := gridFactors exponent place
  let below := mantissa * up / down
  let rest := mantissa * up % down
  let above := below + 1
  let belowHolds := interval.holds (4 * below * down) up
  let aboveHolds := interval.holds (4 * above * down) up
  if belowHolds && aboveHolds then
    if 2 * rest < down ∨ (2 * rest = down ∧ below % 2 = 0) then some below else some above
  else if belowHolds then some below
  else if aboveHolds then some above
  else none

/-- Drops the zeros at the end of a row of digits; `fuel` bounds their number. -/
def Digits.dropZeros (fuel : Nat) (d : Digits) : Digits :=
  match fuel with
  | 0 => d
  | fuel + 1 =>
    if d.significand % 10 = 0 then
      Digits.dropZeros fuel ⟨d.significand / 10, d.exponent + 1⟩
    else d

/-- The most digits that a float needs. -/
def maxDigits : Nat := 17

/-- The digits of the positive float `mantissa * 2 ^ exponent`: the fewest that read back. -/
def shortest (mantissa : Nat) (exponent : Int) : Digits :=
  let lead := leadingPlace mantissa exponent
  let attempt (count : Nat) : Option Digits :=
    let place := lead - count
    (onGrid? mantissa exponent place).map fun n => ⟨n, place⟩
  let found := (List.range maxDigits).findSome? fun k => attempt (k + 1)
  (found.getD ⟨mantissa, exponent⟩).dropZeros maxDigits

end SketchScreen.Number
