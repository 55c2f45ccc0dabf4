import SketchScreen.Value

/-!
# Writing JSON

A value as a text in JSON, each item on a line of its own.  Characters outside
ASCII are escaped.

## Main Definitions

- `JsonWriteFault`: why a value cannot be written.
- `Json.write`: the text of a value.
-/

namespace SketchScreen

/-- Why a value cannot be written. -/
inductive JsonWriteFault where
  /-- A number has too many digits. -/
  | number (fault : NumberFault)
  /-- A value of a kind that JSON lacks. -/
  | value (kind : String)
  /-- A key of a kind that no name can be made of. -/
  | key (kind : String)
  /-- A value that is inside of itself. -/
  | circular
deriving DecidableEq, Repr

/-- The wording of a fault. -/
def JsonWriteFault.message : JsonWriteFault → String
  | number fault => fault.message
  | value kind => s!"Object of type {kind} is not JSON serializable"
  | key kind => s!"keys must be str, int, float, bool or None, not {kind}"
  | circular => "Circular reference detected"

namespace Json

/-- The escape of a 16-bit unit. -/
def writeUnit (n : Nat) : List Char :=
  let digits := Nat.toDigits 16 n
  '\\' :: 'u' :: (List.replicate (4 - digits.length) '0' ++ digits)

/-- A character of a text. -/
def writeChar (c : Char) : List Char :=
  match c with
  | '"' => ['\\', '"']
  | '\\' => ['\\', '\\']
  | '\n' => ['\\', 'n']
  | '\r' => ['\\', 'r']
  | '\t' => ['\\', 't']
  | '\x0c' => ['\\', 'f']
  | '\x08' => ['\\', 'b']
  | c =>
    if ' ' ≤ c && c ≤ '~' then [c]
    else if c.toNat < 0x10000 then writeUnit c.toNat
    else
      match Text.half? c with
      | some n => writeUnit n
      | none =>
        let n := c.toNat - 0x10000
        writeUnit (0xD800 + n / 0x400) ++ writeUnit (0xDC00 + n % 0x400)

/-- A text between quotes. -/
def writeText (s : String) : String :=
  "\"" ++ String.ofList (s.toList.flatMap writeChar) ++ "\""

/-- A float. -/
def writeFloat (x : Float) : String :=
  match Number.Binary.ofFloat x with
  | .nan => "NaN"
  | .infinite negative => if negative then "-Infinity" else "Infinity"
  | .finite _ _ _ => Number.writeFloat x

/-- A number. -/
def writeNumber : Number → Except JsonWriteFault String
  | .int n => (Number.writeInt n).mapError .number
  | .float x => .ok (writeFloat x)

/-- A truth value. -/
def writeBool (b : Bool) : String := if b then "true" else "false"

/-- The name that a key becomes. -/
def writeKey : Value → Except JsonWriteFault String
  | .text s => .ok (writeText s)
  | .number n => do return "\"" ++ (← writeNumber n) ++ "\""
  | .bool b => .ok ("\"" ++ writeBool b ++ "\"")
  | .null => .ok "\"null\""
  | .moment m => .error (.key m.typeName)
  | value => .error (.key value.typeName)

/-- The start of a line at a depth. -/
def newLine (depth : Nat) : String :=
  "\n" ++ String.ofList (List.replicate (2 * depth) ' ')

/-- Parts between brackets, each on a line of its own. -/
def bracket (opening closing : String) (depth : Nat) (parts : List String) : String :=
  if parts.isEmpty then opening ++ closing
  else
    opening ++ newLine (depth + 1) ++ ("," ++ newLine (depth + 1)).intercalate parts
      ++ newLine depth ++ closing

mutual

/-- The text of a value at a depth. -/
def writeAt (depth : Nat) : Value → Except JsonWriteFault String
  | .null => .ok "null"
  | .bool b => .ok (writeBool b)
  | .number n => writeNumber n
  | .text s => .ok (writeText s)
  | .moment m => .error (.value m.typeName)
  | .octets data => .error (.value (Value.octets data).typeName)
  | .set items => .error (.value (Value.set items).typeName)
  | .list items => do return bracket "[" "]" depth (← writeItems (depth + 1) items)
  | .pair first second => do
    let a ← writeAt (depth + 1) first
    let b ← writeAt (depth + 1) second
    return bracket "[" "]" depth [a, b]
  | .map pairs => do return bracket "\x7b" "\x7d" depth (← writePairs (depth + 1) pairs)
  | .enclosing _ => .error .circular

/-- The texts of the items of a list. -/
def writeItems (depth : Nat) : List Value → Except JsonWriteFault (List String)
  | [] => .ok []
  | item :: rest => do
    let part ← writeAt depth item
    let parts ← writeItems depth rest
    return part :: parts

/-- The texts of the pairs of a map. -/
def writePairs (depth : Nat) : List (Value × Value) → Except JsonWriteFault (List String)
  | [] => .ok []
  | (key, value) :: rest => do
    let name ← writeKey key
    let part ← writeAt depth value
    let parts ← writePairs depth rest
    return (name ++ ": " ++ part) :: parts

end

/-- The text of a value. -/
def write (value : Value) : Except JsonWriteFault String := writeAt 0 value

end Json

end SketchScreen
