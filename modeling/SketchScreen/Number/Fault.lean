import SketchScreen.Text.Quoted

/-!
# Faults of Numbers

What can go wrong when a number is converted.  Arithmetic itself never fails: an integer that
has to become a float may be too large, and a row of digits may be too long.

## Main Definitions

- `NumberFault`: the causes.
- `NumberFault.message`: their wording.
- `NumberFault.rejectsValue`: whether the fault is about the value that was given, or
  about the range of floats.
-/

namespace SketchScreen

/-- The longest row of decimal digits that is read or written. -/
def digitLimit : Nat := 4300

/-- The causes for which a conversion of a number fails. -/
inductive NumberFault where
  /-- An integer beyond the range of floats. -/
  | intTooLarge
  /-- A quotient of integers beyond the range of floats. -/
  | quotientTooLarge
  /-- A row of decimal digits too long to be read. -/
  | tooLongToRead (digits : Nat)
  /-- An integer with too many decimal digits to be written. -/
  | tooLongToWrite
  /-- Not-a-number has no integer part. -/
  | nanToInt
  /-- An infinity has no integer part. -/
  | infinityToInt
  /-- A text that is no integer to a base. -/
  | notAnInteger (base : Nat) (text : String)
  /-- A text that is no float. -/
  | notAFloat (text : String)
deriving DecidableEq, Repr

namespace NumberFault

/-- The greatest length of a text that is shown in a message, quotes included. -/
def shownLimit : Nat := 200

/-- The wording of a fault. -/
def message : NumberFault → String
  | intTooLarge => "int too large to convert to float"
  | quotientTooLarge => "integer division result too large for a float"
  | tooLongToRead digits =>
    s!"Exceeds the limit ({digitLimit} digits) for integer string conversion: "
      ++ s!"value has {digits} digits; use sys.set_int_max_str_digits() to increase the limit"
  | tooLongToWrite =>
    s!"Exceeds the limit ({digitLimit} digits) for integer string conversion; "
      ++ "use sys.set_int_max_str_digits() to increase the limit"
  | nanToInt => "cannot convert float NaN to integer"
  | infinityToInt => "cannot convert float infinity to integer"
  | notAnInteger base text =>
    s!"invalid literal for int() with base {base}: "
      ++ String.ofList ((Text.quote text).toList.take shownLimit)
  | notAFloat text => "could not convert string to float: " ++ Text.quote text

/-- Whether the value itself is at fault, rather than the range of floats. -/
def rejectsValue : NumberFault → Bool
  | intTooLarge | quotientTooLarge | infinityToInt => false
  | tooLongToRead _ | tooLongToWrite | nanToInt | notAnInteger _ _ | notAFloat _ => true

end NumberFault

end SketchScreen
