import SketchScreen.Number.Basic
import SketchScreen.Text.Digit
import SketchScreen.Text.Space

/-!
# Reading Numbers

Numbers are read from decimal text with the digits of any script, from hexadecimal text, and
from the looser notation of stored settings, which allows blanks around the number and an
underscore between two digits.

## Main Definitions

- `numberLength`: the length of the longest number at the start of a text.
- `readUnsigned`: a text of that form as a number.
- `readNumber?`: a whole text as a number.
- `readIntTo`, `readInt`: a setting as an integer to a base, and to the base ten.
- `readHexInt?`: a setting in hexadecimal.
- `readSettingFloat?`: a setting as a float.
-/

namespace SketchScreen.Number

open SketchScreen.Text

/-- The digits at the start of a text. -/
def takeDigits (cs : List Char) : List Char := cs.takeWhile isDigit

/-- What follows the digits at the start of a text. -/
def dropDigits (cs : List Char) : List Char := cs.dropWhile isDigit

/-- The exponent at the start of a text: `e` or `E`, perhaps a sign, and at least one digit.
Its length in characters is returned, zero if there is none. -/
def exponentLength (cs : List Char) : Nat :=
  match cs with
  | mark :: rest =>
    if mark == 'e' || mark == 'E' then
      match rest with
      | sign :: digits =>
        if (sign == '+' || sign == '-') then
          match (takeDigits digits).length with
          | 0 => 0
          | n + 1 => n + 3
        else
          match (takeDigits rest).length with
          | 0 => 0
          | n + 1 => n + 2
      | [] => 0
    else 0
  | [] => 0

/-- The length of the mantissa at the start of a text: digits with a point after, between or
before them, but at least one digit. -/
def mantissaLength (cs : List Char) : Nat :=
  let whole := (takeDigits cs).length
  match dropDigits cs with
  | '.' :: rest =>
    let part := (takeDigits rest).length
    if whole = 0 ∧ part = 0 then 0 else whole + 1 + part
  | _ => whole

/-- The length of the number at the start of a text, zero if there is none. -/
def numberLength (cs : List Char) : Nat :=
  match mantissaLength cs with
  | 0 => 0
  | n + 1 => n + 1 + exponentLength (cs.drop (n + 1))

/-- The sign at the start of a text: whether it is a minus, and the text after it. -/
def takeSign : List Char → Bool × List Char
  | '-' :: rest => (true, rest)
  | '+' :: rest => (false, rest)
  | cs => (false, cs)

/-- The value of a row of decimal digits. -/
def digitsValue (cs : List Char) : Nat :=
  ofDigits 10 (cs.map digitValue)

/-- A row of decimal digits as an integer, if it is not too long. -/
def readDigits (cs : List Char) : Except NumberFault Nat :=
  if digitLimit < cs.length then .error (.tooLongToRead cs.length) else .ok (digitsValue cs)

/-- A row of digits without the zeros in front. -/
def dropLeadingZeros (cs : List Char) : List Char := cs.dropWhile fun c => digitValue c = 0

/-- The float nearest to `± digits * 10 ^ exponent`.  A number of `n` digits that do not start
with a zero lies between `10 ^ (n - 1)` and `10 ^ n`, so numbers far beyond the range of
floats are settled without computing the power. -/
def scaleTen (negative : Bool) (digits : List Char) (exponent : Int) : Float :=
  let significant := dropLeadingZeros digits
  let significand := digitsValue significant
  if significant.isEmpty then Binary.signed negative 0
  else if 400 < exponent + significant.length then Binary.nearest negative (twoTo 1024) 1
  else if exponent + significant.length < -400 then Binary.signed negative 0
  else Binary.nearest negative (significand * tenTo exponent.toNat) (tenTo (-exponent).toNat)

/-- The value of an exponent such as `e-3`, zero for the empty text. -/
def exponentValue (cs : List Char) : Int :=
  let (negative, digits) := takeSign (cs.drop 1)
  let value : Int := digitsValue digits
  if negative then -value else value

/-- A text of number form without a sign as a float. -/
def readFloat (negative : Bool) (cs : List Char) : Float :=
  let mantissa := cs.take (mantissaLength cs)
  let exponent := exponentValue (cs.drop (mantissaLength cs))
  let whole := takeDigits mantissa
  let part := (dropDigits mantissa).drop 1
  let digits := whole ++ part
  scaleTen negative digits (exponent - part.length)

/-- A text of number form without a sign: an integer if it holds digits only, a
float otherwise. -/
def readUnsigned (negative : Bool) (cs : List Char) : Except NumberFault Number :=
  if cs.all isDigit then do
    let n ← readDigits cs
    return .int (if negative then -n else n)
  else .ok (.float (readFloat negative cs))

/-- A whole text as a decimal number with an optional sign, blanks around it allowed. -/
def readNumber? (cs : List Char) : Except NumberFault (Option Number) :=
  let (negative, body) := takeSign (trim cs)
  if body ≠ [] ∧ numberLength body = body.length then do
    return some (← readUnsigned negative body)
  else .ok none

/-- A blank that may stand around a setting. -/
def isSettingSpace (c : Char) : Bool :=
  isSpace c && !(0x1C ≤ c.toNat && c.toNat ≤ 0x1F)

/-- A text without the blanks that may stand around a setting. -/
def trimSetting (cs : List Char) : List Char :=
  ((cs.dropWhile isSettingSpace).reverse.dropWhile isSettingSpace).reverse

/-- A text without the underscore in front of it, if a digit follows the underscore. -/
def dropUnderscore (value? : Char → Option Nat) : List Char → List Char
  | '_' :: next :: rest => if (value? next).isSome then next :: rest else '_' :: next :: rest
  | cs => cs

theorem length_dropUnderscore_le (value? : Char → Option Nat) (cs : List Char) :
    (dropUnderscore value? cs).length ≤ cs.length := by
  unfold dropUnderscore
  split
  · split <;> simp
  · exact Nat.le_refl _

/-- The digits at the start of a text in which single underscores may stand between
two digits, given as values; and the text after them, an underscore that is followed
by no digit included. -/
def takeSpaced (value? : Char → Option Nat) : List Char → List Nat × List Char
  | [] => ([], [])
  | c :: rest =>
    match value? c with
    | none => ([], c :: rest)
    | some digit =>
      let (digits, tail) := takeSpaced value? (dropUnderscore value? rest)
      (digit :: digits, tail)
termination_by cs => cs.length
decreasing_by
  have := length_dropUnderscore_le value? rest
  simp only [List.length_cons]
  omega

/-- The value of a digit of a setting to a base: the decimal digits of any
script, and ASCII letters. -/
def settingDigit? (base : Nat) (c : Char) : Option Nat :=
  ((digitValue? c).or (hexValue? c)).filter fun digit => digit < base

/-- The letter that marks a base, where one does. -/
def baseLetter? : Nat → Option Char
  | 2 => some 'b'
  | 8 => some 'o'
  | 16 => some 'x'
  | _ => none

/-- The digits of a setting without the mark of its base and an underscore after the mark. -/
def dropBaseMark (base : Nat) : List Char → List Char
  | '0' :: mark :: rest =>
    if baseLetter? base == some mark.toLower then dropUnderscore (settingDigit? base) rest
    else '0' :: mark :: rest
  | cs => cs

/-- A setting as an integer to a base: blanks around it, a sign, the mark of the base, and
underscores between digits are allowed.  A row of decimal digits that is too long is reported
before anything that follows it. -/
def readIntTo (base : Nat) (s : String) : Except NumberFault Int :=
  let (negative, body) := takeSign (trimSetting s.toList)
  let (digits, tail) := takeSpaced (settingDigit? base) (dropBaseMark base body)
  if digits.isEmpty || tail.head? == some '_' then .error (.notAnInteger base s)
  else if base = 10 ∧ digitLimit < digits.length then .error (.tooLongToRead digits.length)
  else if tail ≠ [] then .error (.notAnInteger base s)
  else
    let n : Int := ofDigits base digits
    .ok (if negative then -n else n)

/-- A setting as a decimal integer. -/
def readInt (s : String) : Except NumberFault Int := readIntTo 10 s

/-- A setting as a float without underscores: blanks around it and a sign are allowed, and the
words for infinity and not-a-number. -/
def readSettingFloat? (s : String) : Option Float :=
  let (negative, body) := takeSign (trimSetting s.toList)
  let word := String.ofList (body.map Char.toLower)
  if word == "nan" then some Binary.notANumber
  else if word == "inf" || word == "infinity" then
    some (if negative then -Binary.infinity else Binary.infinity)
  else if body ≠ [] ∧ numberLength body = body.length then some (readFloat negative body)
  else none

/-- A setting that starts with `0x` as an integer. -/
def readHexInt? (s : String) : Option Nat :=
  match trimSetting s.toList with
  | '0' :: _ :: body =>
    let hexDigit? := settingDigit? 16
    let (digits, tail) := takeSpaced hexDigit? (dropUnderscore hexDigit? body)
    if digits.isEmpty || tail ≠ [] then none else some (ofDigits 16 digits)
  | _ => none

end SketchScreen.Number
