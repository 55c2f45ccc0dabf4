import SketchScreen.Text.Base64
import SketchScreen.Text.Lower
import SketchScreen.Value
import SketchScreen.Yaml.Tag

/-!
# Values of YAML Scalars

The value of a text that is known to be of some kind.  A kind that a tag asks for may have a
text that is not written like it.

## Main Definitions

- `Yaml.intOf`, `Yaml.floatOf`, `Yaml.momentOf`: numbers and dates.
- `Yaml.Tag.atom`: the value of a scalar of a kind.
-/

namespace SketchScreen.Yaml

/-- A failure of a value. -/
def fail {α : Type} (problem : YamlProblem) : Except YamlFault α :=
  .error (.syntactic problem none)

/-- The text of a number: without underscores, and with its sign taken off. -/
def unsigned (s : String) : Except YamlFault (Bool × List Char) :=
  match s.toList.filter (· != '_') with
  | [] => .error .noDigits
  | cs => .ok (Number.takeSign cs)

/-- An integer to a base. -/
def intTo (base : Nat) (cs : List Char) : Except YamlFault Int :=
  (Number.readIntTo base (String.ofList cs)).mapError .number

/-- An integer without a sign, whose first characters tell the base. -/
def unsignedInt (cs : List Char) : Except YamlFault Int :=
  match cs with
  | [] => .error .noDigits
  | ['0'] => .ok 0
  | '0' :: 'b' :: digits => intTo 2 digits
  | '0' :: 'x' :: digits => intTo 16 digits
  | '0' :: _ => intTo 8 cs
  | cs => do
    let digits ← (Text.cutAt ':' cs).mapM (intTo 10)
    return digits.foldl (fun n digit => n * 60 + digit) 0

/-- The integer that a text writes. -/
def intOf (s : String) : Except YamlFault Int := do
  let (negative, body) ← unsigned s
  let n ← unsignedInt body
  return if negative then -n else n

/-- A part of a float. -/
def floatPart (cs : List Char) : Except YamlFault Float :=
  let s := String.ofList cs
  match Number.readSettingFloat? s with
  | some x => .ok x
  | none => .error (.number (.notAFloat s))

/-- The sum of digits to the base 60, the last one first; `weight` is that of
the first of them. -/
def sumSixty (weight : Nat) (sum : Float) : List Float → Except YamlFault Float
  | [] => .ok sum
  | digit :: rest => do
    let factor ← (Number.intToFloat weight).mapError .number
    sumSixty (weight * 60) (sum + digit * factor) rest

/-- A float without a sign. -/
def unsignedFloat (cs : List Char) : Except YamlFault Float :=
  match String.ofList cs with
  | ".inf" => .ok Number.Binary.infinity
  | ".nan" => .ok Number.Binary.notANumber
  | _ => do
    match Text.cutAt ':' cs with
    | [part] => floatPart part
    | parts => sumSixty 1 0.0 (← parts.mapM floatPart).reverse

/-- The float that a text writes. -/
def floatOf (s : String) : Except YamlFault Float := do
  let (negative, body) ← unsigned (Text.lower s)
  let x ← unsignedFloat body
  return if negative then -x else x

/-- The truth value that a word stands for. -/
def truthOf (s : String) : Except YamlFault Bool :=
  let word := Text.lower s
  match truthWords.lookup word with
  | some b => .ok b
  | none => .error (.truth word)

/-- The date that a text writes. -/
def momentOf (s : String) : Except YamlFault Moment :=
  match Plain.readMoment? (Text.dropFinalNewline s.toList) with
  | some m => (Moment.create m.year m.month m.day m.time).mapError .moment
  | none => .error .noMoment

/-- The octets that a text stands for. -/
def octetsOf (s : String) : Except YamlFault (List UInt8) :=
  let cs := s.toList
  if cs.all fun c => c.toNat < 0x80 then
    match Text.decode64? cs with
    | some data => .ok data
    | none => fail .binary
  else fail .binary

/-- The value of a scalar of a kind.  Some kinds are none of scalars, or none of
values at all. -/
def Tag.atom (tag : Tag) (s : String) : Except YamlFault Value :=
  match tag with
  | null => .ok .null
  | bool => do return .bool (← truthOf s)
  | int => do return .number (.int (← intOf s))
  | float => do return .number (.float (← floatOf s))
  | octets => do return .octets (← octetsOf s)
  | moment => do return .moment (← momentOf s)
  | text => .ok (.text s)
  | list | map | set | pairs => fail .scalarKind
  | merge | value | unknown => fail .unknownTag

end SketchScreen.Yaml
