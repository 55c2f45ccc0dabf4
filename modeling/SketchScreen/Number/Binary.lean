import SketchScreen.Number.Round

/-!
# Binary Floats as Exact Numbers

A finite binary float is a sign, a natural mantissa and a power of two.  Conversions between
floats and integers, comparisons of the two and the reading and writing of decimal text all go
through this exact view.

## Main Definitions

- `Binary`: what a float denotes.
- `Binary.ofFloat`: the exact view of a float.
- `Binary.nearest?`: the float nearest to a positive quotient, if it is not too large.
- `Binary.compareInt`: the exact order of a float and an integer.

## Design Notes

The bits of the nearest float are the exponent times `2 ^ 52` plus the rounded mantissa: a
mantissa that rounds up to the next power of two carries into the exponent by itself.
-/

namespace SketchScreen.Number

/-- What a binary float denotes. -/
inductive Binary where
  /-- Not a number. -/
  | nan
  /-- An infinity with its sign. -/
  | infinite (negative : Bool)
  /-- The number `± mantissa * 2 ^ exponent`; zero keeps its sign. -/
  | finite (negative : Bool) (mantissa : Nat) (exponent : Int)
deriving DecidableEq, Repr

namespace Binary

/-- The number of bits of a stored mantissa. -/
def mantissaBits : Nat := 52

/-- The smallest exponent of a finite float. -/
def minExponent : Int := -1074

/-- The first exponent field that no finite float has. -/
def exponentLimit : Nat := 2047

/-- The exact view of a float. -/
def ofFloat (x : Float) : Binary :=
  let bits := x.toBits.toNat
  let negative := bits / twoTo 63 == 1
  let field := bits / twoTo mantissaBits % twoTo 11
  let fraction := bits % twoTo mantissaBits
  if field = exponentLimit then
    if fraction = 0 then infinite negative else nan
  else if field = 0 then finite negative fraction minExponent
  else finite negative (fraction + twoTo mantissaBits) (field - 1 + minExponent)

/-- The exponent that leaves a quotient of positive numbers a mantissa of full width, or the
smallest exponent if the quotient is too small for that. -/
def scale (num den : Nat) : Int :=
  let guess : Int := (num.log2 : Int) - den.log2 - mantissaBits
  let exponent :=
    if num * twoTo (-guess).toNat < den * twoTo (mantissaBits + guess.toNat) then guess - 1
    else guess
  max exponent minExponent

/-- The mantissa and exponent of the float nearest to a quotient of positive numbers. -/
def nearestParts (num den : Nat) : Nat × Int :=
  let exponent := scale num den
  (roundDiv (num * twoTo (-exponent).toNat) (den * twoTo exponent.toNat), exponent)

/-- The bits of the float nearest to a quotient, without its sign. -/
def nearestBits (num den : Nat) : Nat :=
  if num = 0 then 0
  else
    let (mantissa, exponent) := nearestParts num den
    (exponent - minExponent).toNat * twoTo mantissaBits + mantissa

/-- The float with the given sign and bits. -/
def signed (negative : Bool) (bits : Nat) : Float :=
  Float.ofBits (UInt64.ofNat (if negative then twoTo 63 + bits else bits))

/-- Positive infinity. -/
def infinity : Float :=
  signed false (exponentLimit * twoTo mantissaBits)

/-- Not a number. -/
def notANumber : Float :=
  Float.ofBits 0x7FF8000000000000

/-- The float nearest to `± num / den`, or nothing if the quotient rounds beyond the finite
floats. -/
def nearest? (negative : Bool) (num den : Nat) : Option Float :=
  let bits := nearestBits num den
  if bits < exponentLimit * twoTo mantissaBits then some (signed negative bits) else none

/-- The float nearest to `± num / den`, an infinity if the quotient is too large. -/
def nearest (negative : Bool) (num den : Nat) : Float :=
  (nearest? negative num den).getD (signed negative (exponentLimit * twoTo mantissaBits))

/-- The signed numerator and the denominator of `± mantissa * 2 ^ exponent`. -/
def fraction (negative : Bool) (mantissa : Nat) (exponent : Int) : Int × Nat :=
  let num : Int := (mantissa * twoTo exponent.toNat : Nat)
  (if negative then -num else num, twoTo (-exponent).toNat)

/-- The order of a float and an integer, nothing for not-a-number. -/
def compareInt (b : Binary) (n : Int) : Option Ordering :=
  match b with
  | nan => none
  | infinite negative => some (if negative then .lt else .gt)
  | finite negative mantissa exponent =>
    let (num, den) := fraction negative mantissa exponent
    some (compare num (n * den))

/-- Whether the sign bit is set; not-a-number counts as positive. -/
def isNegative : Binary → Bool
  | nan => false
  | infinite negative => negative
  | finite negative _ _ => negative

/-- Whether the float is a real number. -/
def isFinite : Binary → Bool
  | finite _ _ _ => true
  | _ => false

end Binary

end SketchScreen.Number
