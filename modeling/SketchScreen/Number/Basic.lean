import SketchScreen.Number.Binary
import SketchScreen.Number.Fault

/-!
# Numbers

A number of a sketch is an unbounded integer or a binary float.  Integers stay integers until
they meet a float or are divided.

## Main Definitions

- `Number`: an integer or a float.
- `Number.add`, `Number.sub`, `Number.mul`, `Number.divide`, `Number.neg`: arithmetic.
- `Number.compare?`: the exact order, nothing if one side is not-a-number.
- `Number.min`, `Number.max`: the first argument unless the second is strictly beyond it.
- `Number.truncate`, `Number.round`: conversion to an integer.
- `Number.isFinite`: the test that drawing code makes of every coordinate.

## Design Notes

An integer that meets a float is rounded to the nearest float first, and that fails beyond the
range of floats.  Comparisons are exact and never fail.
-/

namespace SketchScreen

/-- A number of a sketch. -/
inductive Number where
  /-- An unbounded integer. -/
  | int (n : Int)
  /-- A binary float. -/
  | float (x : Float)
deriving DecidableEq

namespace Number

instance : Inhabited Number := ⟨int 0⟩

instance {n : Nat} : OfNat Number n := ⟨int n⟩

/-- The float nearest to an integer. -/
def intToFloat (n : Int) : Except NumberFault Float :=
  match Binary.nearest? (n < 0) n.natAbs 1 with
  | some x => .ok x
  | none => .error .intTooLarge

/-- The float nearest to a number. -/
def toFloat : Number → Except NumberFault Float
  | int n => intToFloat n
  | float x => .ok x

/-- Applies an operation of integers to two integers, and one of floats to any other pair. -/
def combine (onInts : Int → Int → Int) (onFloats : Float → Float → Float) :
    Number → Number → Except NumberFault Number
  | int m, int n => .ok (int (onInts m n))
  | a, b => do
    let x ← a.toFloat
    let y ← b.toFloat
    return float (onFloats x y)

/-- The sum of two numbers. -/
def add (a b : Number) : Except NumberFault Number :=
  combine (· + ·) (· + ·) a b

/-- The difference of two numbers. -/
def sub (a b : Number) : Except NumberFault Number :=
  combine (· - ·) (· - ·) a b

/-- The product of two numbers. -/
def mul (a b : Number) : Except NumberFault Number :=
  combine (· * ·) (· * ·) a b

/-- The number with its sign turned. -/
def neg : Number → Number
  | int n => int (-n)
  | float x => float (-x)

/-- The exact order of two numbers, nothing if one of them is not-a-number. -/
def compare? : Number → Number → Option Ordering
  | int m, int n => some (compare m n)
  | float x, int n => (Binary.ofFloat x).compareInt n
  | int m, float y => ((Binary.ofFloat y).compareInt m).map Ordering.swap
  | float x, float y =>
    if x < y then some .lt else if y < x then some .gt else if x == y then some .eq else none

/-- Whether the first number is less than the second. -/
def lt (a b : Number) : Bool := compare? a b == some .lt

/-- Whether the first number is at most the second. -/
def le (a b : Number) : Bool := compare? a b == some .lt || compare? a b == some .eq

/-- Whether two numbers are equal as numbers. -/
def eq (a b : Number) : Bool := compare? a b == some .eq

/-- Whether a number is zero, of either sign. -/
def isZero (a : Number) : Bool := a.eq 0

/-- The smaller of two numbers: the first unless the second is strictly smaller. -/
def min (a b : Number) : Number := if b.lt a then b else a

/-- The larger of two numbers: the first unless the second is strictly larger. -/
def max (a b : Number) : Number := if a.lt b then b else a

/-- Whether the sign of a number is negative; a zero float keeps its sign. -/
def isNegative : Number → Bool
  | int n => n < 0
  | float x => (Binary.ofFloat x).isNegative

/-- Whether a number is not-a-number. -/
def isNaN : Number → Bool
  | int _ => false
  | float x => Binary.ofFloat x == .nan

/-- The quotient of two integers, rounded once. -/
def divideInts (m n : Int) : Except NumberFault Float :=
  match Binary.nearest? ((m < 0) != (n < 0)) m.natAbs n.natAbs with
  | some x => .ok x
  | none => .error .quotientTooLarge

/-- The quotient of two numbers.  A zero divisor gives an infinity whose sign is that of both
operands together, and not-a-number if the dividend is zero or not-a-number. -/
def divide (a b : Number) : Except NumberFault Number := do
  if b.isZero then
    if a.isZero then return float Binary.notANumber
    let x ← a.toFloat
    if a.isNaN then return float Binary.notANumber
    let negative := (float x).isNegative != b.isNegative
    return float (if negative then -Binary.infinity else Binary.infinity)
  else
    match a, b with
    | int m, int n => return float (← divideInts m n)
    | a, b =>
      let x ← a.toFloat
      let y ← b.toFloat
      return float (x / y)

/-- Whether a number is finite.  The test is one of floats, so an integer beyond
their range is a fault. -/
def isFinite : Number → Except NumberFault Bool
  | int n => do
    let _ ← intToFloat n
    return true
  | float x => .ok (Binary.ofFloat x).isFinite

/-- The integer part of a number. -/
def truncate : Number → Except NumberFault Int
  | int n => .ok n
  | float x =>
    match Binary.ofFloat x with
    | .nan => .error .nanToInt
    | .infinite _ => .error .infinityToInt
    | .finite negative mantissa exponent =>
      let (num, den) := Binary.fraction negative mantissa exponent
      .ok (num.tdiv den)

/-- The integer nearest to a number; a half goes to the even neighbour. -/
def round : Number → Except NumberFault Int
  | int n => .ok n
  | float x =>
    match Binary.ofFloat x with
    | .nan => .error .nanToInt
    | .infinite _ => .error .infinityToInt
    | .finite negative mantissa exponent =>
      let (num, den) := Binary.fraction negative mantissa exponent
      .ok (roundDivInt num den)

/-- The integer that a number is equal to, if there is one. -/
def toInt? : Number → Option Int
  | int n => some n
  | float x =>
    match Binary.ofFloat x with
    | .finite negative mantissa exponent =>
      let (num, den) := Binary.fraction negative mantissa exponent
      if num % den = 0 then some (num / den) else none
    | _ => none

end Number

end SketchScreen
