import SketchScreen.Color
import SketchScreen.Fault
import SketchScreen.Number.Decimal
import SketchScreen.Number.Format
import SketchScreen.Value.Moment

/-!
# Values

Arguments of commands and the contents of project files are values whose kind is known only
when the simulator runs.

## Main Definitions

- `Value`: null, truth values, numbers, texts, moments, octets and collections.
- `Value.shown`, `Value.text`: a value in a message, and as a text.
- `Value.toInt`, `Value.toColor`: a value as an integer and as a colour.
- `Value.insert`: adds a pair to a map; the last value of a key counts, at the
  place of the first.

## Design Notes

Values are trees.  A stored value may refer to a collection that it is inside of; only the
kind of that collection is kept.
-/

namespace SketchScreen

/-- A value of any kind. -/
inductive Value where
  | null
  | bool (b : Bool)
  | number (n : Number)
  | text (s : String)
  | moment (m : Moment)
  | octets (data : List UInt8)
  | list (items : List Value)
  /-- Two values, as a list that cannot grow. -/
  | pair (first second : Value)
  /-- Values without an order, each of them once. -/
  | set (items : List Value)
  /-- Pairs in the order in which their keys first came. -/
  | map (pairs : List (Value × Value))
  /-- A list, or a map, that the value is inside of. -/
  | enclosing (isMap : Bool)

namespace Value

instance : Inhabited Value := ⟨null⟩

/-! ## Kinds -/

/-- The name of a value's kind. -/
def typeName : Value → String
  | null => "NoneType"
  | bool _ => "bool"
  | number (.int _) => "int"
  | number (.float _) => "float"
  | text _ => "str"
  | moment m => "datetime." ++ m.typeName
  | octets _ => "bytes"
  | list _ => "list"
  | pair _ _ => "tuple"
  | set _ => "set"
  | map _ => "dict"
  | enclosing isMap => if isMap then "dict" else "list"

/-- Whether a value counts as given: zero, null and whatever is empty do not. -/
def isTruthy : Value → Bool
  | null => false
  | bool b => b
  | number n => !n.isZero
  | text s => !s.isEmpty
  | moment _ | pair _ _ | enclosing _ => true
  | octets data => !data.isEmpty
  | list items | set items => !items.isEmpty
  | map pairs => !pairs.isEmpty

/-- The number that a value is; truth values are no numbers. -/
def number? : Value → Option Number
  | number n => some n
  | _ => none

/-- The number that a value counts as where truth values are 0 and 1. -/
def numeric? : Value → Option Number
  | number n => some n
  | bool b => some (.int (if b then 1 else 0))
  | _ => none

/-! ## Text -/

/-- The characters whose codes octets are. -/
def octetChars (data : List UInt8) : List Char := data.map fun octet => Char.ofNat octet.toNat

/-- One octet inside quotes of the given kind: what is not ASCII is an escape. -/
def shownOctet (mark : Char) (octet : UInt8) : List Char :=
  let c := Char.ofNat octet.toNat
  if octet.toNat < 0x80 then Text.quoteChar mark c else Text.codeEscape c

/-- Octets in a message. -/
def shownOctets (data : List UInt8) : String :=
  let mark := Text.quoteMark (octetChars data)
  String.ofList ('b' :: mark :: (data.flatMap (shownOctet mark) ++ [mark]))

mutual

/-- A value in a message: texts are quoted. -/
def shown : Value → Except NumberFault String
  | null => .ok "None"
  | bool b => .ok (if b then "True" else "False")
  | number n => n.write
  | text s => .ok (Text.quote s)
  | moment m => .ok m.shown
  | octets data => .ok (shownOctets data)
  | list items => do
    let parts ← shownItems items
    return "[" ++ ", ".intercalate parts ++ "]"
  | pair first second => do
    let a ← shown first
    let b ← shown second
    return "(" ++ a ++ ", " ++ b ++ ")"
  | set items => do
    let parts ← shownItems items
    return if parts.isEmpty then "set()" else "\x7b" ++ ", ".intercalate parts ++ "\x7d"
  | map pairs => do
    let parts ← shownPairs pairs
    return "\x7b" ++ ", ".intercalate parts ++ "\x7d"
  | enclosing isMap => .ok (if isMap then "\x7b...\x7d" else "[...]")

/-- The items of a list in a message. -/
def shownItems : List Value → Except NumberFault (List String)
  | [] => .ok []
  | item :: rest => do
    let part ← shown item
    let parts ← shownItems rest
    return part :: parts

/-- The pairs of a map in a message. -/
def shownPairs : List (Value × Value) → Except NumberFault (List String)
  | [] => .ok []
  | (key, value) :: rest => do
    let k ← shown key
    let v ← shown value
    let parts ← shownPairs rest
    return (k ++ ": " ++ v) :: parts

end

/-- A value as a text: a text is itself, and an integral float is written as an integer. -/
def asText : Value → Except NumberFault String
  | text s => .ok s
  | number n => n.writeCompact
  | moment m => .ok (m.textWith " ")
  | value => value.shown

/-! ## Conversions -/

/-- The integer part of a value; a text is read as an integer, and so are octets. -/
def toInt : Value → Except Fault Int
  | bool b => .ok (if b then 1 else 0)
  | number n => Fault.liftNumber n.truncate
  | text s => Fault.liftNumber (Number.readInt s)
  | octets data => Fault.liftNumber (Number.readInt (String.ofList (octetChars data)))
  | value => .error (.noInteger value.typeName)

/-- The colour of a text: a named colour or a hexadecimal 16-bit value, and
white for anything else. -/
def colorOfText (s : String) : Color :=
  match Color.constant? s with
  | some code => Color.ofRgb565 code
  | none =>
    if Text.hasHexMark s.toList then
      match Number.readHexInt? s with
      | some n => Color.ofRgb565 n
      | none => Color.white
    else Color.white

/-- The colour that a value stands for; what is not recognised is white. -/
def toColor : Value → Color
  | number n => Color.ofNumber n
  | text s => colorOfText s
  | _ => Color.white

/-- The colour of the low 16 bits of a value. -/
def toRgb565Color : Value → Except Fault Color
  | number (.float x) => .ok (Color.ofNumber (.float x))
  | value => do return Color.ofRgb565 (← value.toInt)

/-- Whether a value is a finite number. -/
def isFinite (value : Value) : Except Fault Bool :=
  match value.numeric? with
  | some n => Fault.liftNumber n.isFinite
  | none => .error (.noNumber value.typeName)

/-- Whether all values are finite numbers; those after the first that is not are
not looked at. -/
def allFinite : List Value → Except Fault Bool
  | [] => .ok true
  | value :: rest => do
    if ← value.isFinite then allFinite rest else return false

/-! ## Maps -/

/-- Whether two values are the same key of a map.  Truth values are the numbers 0 and 1. -/
def sameKey (a b : Value) : Bool :=
  match a.numeric?, b.numeric? with
  | some m, some n => m.eq n
  | _, _ =>
    match a, b with
    | null, null => true
    | text s, text t => s == t
    | moment m, moment n => m.isSame n
    | octets a, octets b => a == b
    | _, _ => false

/-- Adds a pair to the pairs of a map whose keys are compared by `same`.  A key that is there
keeps its place and gets the new value. -/
def insertBy (same : Value → Value → Bool) (key value : Value) :
    List (Value × Value) → List (Value × Value)
  | [] => [(key, value)]
  | (k, v) :: rest =>
    if same k key then (k, value) :: rest else (k, v) :: insertBy same key value rest

/-- Adds a pair to the pairs of a map. -/
def insert (key value : Value) (pairs : List (Value × Value)) : List (Value × Value) :=
  insertBy sameKey key value pairs

/-- The pairs of a map that is built by adding pairs one after another. -/
def ofPairs (pairs : List (Value × Value)) : List (Value × Value) :=
  pairs.foldl (fun built pair => insert pair.1 pair.2 built) []

/-- The value of a text key. -/
def field? (key : String) (pairs : List (Value × Value)) : Option Value :=
  (pairs.find? fun pair => sameKey pair.1 (text key)).map Prod.snd

end Value

end SketchScreen
