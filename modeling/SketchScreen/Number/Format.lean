import SketchScreen.Number.Basic
import SketchScreen.Number.Shortest

/-!
# Writing Numbers

Integers are written with all their digits.  Floats are written with the shortest digits that
read back, positionally where the decimal exponent is moderate and with an exponent elsewhere.

## Main Definitions

- `FloatLayout`: the decisions of a notation for floats.
- `FloatLayout.plain`: the notation of every message and file of the simulator.
- `writeInt`, `writeFloat`, `Number.write`: the text of a number.
- `Number.writeCompact`: the text of a number in a sketch, without a fraction of zero.
-/

namespace SketchScreen.Number

/-- The decisions of a notation for floats. -/
structure FloatLayout where
  /-- The smallest decimal exponent that is written positionally. -/
  firstPositional : Int
  /-- The first decimal exponent above those that are written positionally. -/
  afterPositional : Int
  /-- The least number of digits of a written exponent. -/
  exponentWidth : Nat
  nan : String
  infinity : String
deriving Repr

/-- Positional from `1e-4` to below `1e16`, exponents of at least two digits. -/
def FloatLayout.plain : FloatLayout := ⟨-4, 16, 2, "nan", "inf"⟩

/-- The decimal digits of a natural number. -/
def decimalDigits (n : Nat) : List Char := Nat.toDigits 10 n

/-- An exponent mark, a sign and at least `width` digits. -/
def writeExponent (width : Nat) (exponent : Int) : List Char :=
  let digits := decimalDigits exponent.natAbs
  'e' :: (if exponent < 0 then '-' else '+')
    :: (List.replicate (width - digits.length) '0' ++ digits)

/-- The digits of a positive float in a notation. -/
def FloatLayout.writeDigits (layout : FloatLayout) (d : Digits) : List Char :=
  let digits := decimalDigits d.significand
  let exponent : Int := d.exponent + digits.length - 1
  if exponent < layout.firstPositional ∨ layout.afterPositional ≤ exponent then
    let tail := digits.drop 1
    let body := digits.take 1 ++ (if tail.isEmpty then [] else '.' :: tail)
    body ++ writeExponent layout.exponentWidth exponent
  else if 0 ≤ d.exponent then
    digits ++ List.replicate d.exponent.toNat '0' ++ ['.', '0']
  else if exponent < 0 then
    '0' :: '.' :: (List.replicate (-exponent - 1).toNat '0' ++ digits)
  else
    let whole := (exponent + 1).toNat
    digits.take whole ++ '.' :: digits.drop whole

/-- The text of a float in a notation. -/
def FloatLayout.write (layout : FloatLayout) (x : Float) : String :=
  match Binary.ofFloat x with
  | .nan => layout.nan
  | .infinite negative => (if negative then "-" else "") ++ layout.infinity
  | .finite negative mantissa exponent =>
    let body := if mantissa = 0 then ['0', '.', '0']
      else layout.writeDigits (shortest mantissa exponent)
    String.ofList (if negative then '-' :: body else body)

/-- The text of a float. -/
def writeFloat (x : Float) : String := FloatLayout.plain.write x

/-- The decimal digits of an integer after its sign. -/
def intDigits (n : Int) : List Char :=
  if n < 0 then '-' :: decimalDigits n.natAbs else decimalDigits n.natAbs

/-- The text of an integer, if it is not too long. -/
def writeInt (n : Int) : Except NumberFault String :=
  if n.natAbs < tenTo digitLimit then .ok (String.ofList (intDigits n))
  else .error .tooLongToWrite

/-- The text of a number; a float always shows that it is one. -/
def write : Number → Except NumberFault String
  | int n => writeInt n
  | float x => .ok (writeFloat x)

/-- The text of a number in a sketch: `240` rather than `240.0`. -/
def writeCompact : Number → Except NumberFault String
  | int n => writeInt n
  | float x =>
    match (float x).toInt? with
    | some n => writeInt n
    | none => .ok (writeFloat x)

end SketchScreen.Number
