import SketchScreen.Value

/-!
# Reading JSON

A text in JSON as a value.  `NaN` and the infinities are numbers.  The first place where the
text leaves the notation is reported.

## Main Definitions

- `JsonProblem`, `JsonFault`: what is wrong with a text, and where.
- `Json.read`: the value of a text.

## Design Notes

The reader counts the characters that it has passed, so a fault has its place without
the whole text at hand.  Every value takes at least one character, so the length of the
text bounds the nesting.
-/

namespace SketchScreen

/-- What a text in JSON can go wrong with. -/
inductive JsonProblem where
  | value
  | propertyName
  | colon
  | comma
  | extraData
  | unterminated
  | controlCharacter
  | escape
  | unicodeEscape
  | byteOrderMark
deriving DecidableEq, Repr

/-- The wording of a problem. -/
def JsonProblem.text : JsonProblem → String
  | value => "Expecting value"
  | propertyName => "Expecting property name enclosed in double quotes"
  | colon => "Expecting ':' delimiter"
  | comma => "Expecting ',' delimiter"
  | extraData => "Extra data"
  | unterminated => "Unterminated string starting at"
  | controlCharacter => "Invalid control character at"
  | escape => "Invalid \\escape"
  | unicodeEscape => "Invalid \\uXXXX escape"
  | byteOrderMark => "Unexpected UTF-8 BOM (decode using utf-8-sig)"

/-- Why a text has no value. -/
inductive JsonFault where
  /-- The text leaves the notation after `position` characters. -/
  | syntactic (problem : JsonProblem) (position : Nat)
  /-- A number cannot be read. -/
  | number (fault : NumberFault)
deriving DecidableEq, Repr

namespace Json

/-- A place in a text: what follows it, and how many characters are before it. -/
structure Place where
  rest : List Char
  position : Nat
deriving DecidableEq, Repr

namespace Place

/-- The place after `n` characters. -/
def skip (p : Place) (n : Nat) : Place := ⟨p.rest.drop n, p.position + n⟩

/-- The fault at a place. -/
def fail {α : Type} (p : Place) (problem : JsonProblem) : Except JsonFault α :=
  .error (.syntactic problem p.position)

/-- Whether a character is a blank. -/
def isBlank (c : Char) : Bool := c == ' ' || c == '\t' || c == '\n' || c == '\r'

/-- The place after the blanks. -/
def skipBlanks (p : Place) : Place := p.skip (p.rest.takeWhile isBlank).length

end Place

/-! ## Texts -/

/-- The character of a one-letter escape. -/
def escaped? : Char → Option Char
  | '"' => some '"'
  | '\\' => some '\\'
  | '/' => some '/'
  | 'b' => some '\x08'
  | 'f' => some '\x0c'
  | 'n' => some '\n'
  | 'r' => some '\r'
  | 't' => some '\t'
  | _ => none

/-- The value of the four hexadecimal digits at the start of a text; a character
has to follow. -/
def fourDigits? (cs : List Char) : Option Nat :=
  let digits := cs.take 4
  if digits.all Text.isHexDigit && 4 < cs.length then
    some (Text.ofDigits 16 (digits.map Text.hexValue))
  else none

/-- The character of an escape whose digits start at a place, and the place after it. -/
def readUnicode (p : Place) : Except JsonFault (Char × Place) :=
  match fourDigits? p.rest with
  | none => .error (.syntactic .unicodeEscape (p.position - 1))
  | some n =>
    let next := p.skip 4
    match Text.isHighHalf n && 6 < next.rest.length, next.rest with
    | true, '\\' :: 'u' :: digits =>
      match fourDigits? digits with
      | none => .error (.syntactic .unicodeEscape (next.position + 1))
      | some m =>
        if Text.isLowHalf m then .ok (Text.joinHalves n m, next.skip 6)
        else .ok (Text.ofUnit n, next)
    | _, _ => .ok (Text.ofUnit n, next)

/-- The text from a place up to the closing quote, for an opening quote at `start`. -/
def readText (start : Nat) : Nat → Place → Except JsonFault (List Char × Place)
  | 0, _ => .error (.syntactic .unterminated start)
  | fuel + 1, p =>
    match p.rest with
    | [] => .error (.syntactic .unterminated start)
    | '"' :: _ => .ok ([], p.skip 1)
    | ['\\'] => .error (.syntactic .unterminated start)
    | '\\' :: 'u' :: _ => do
      let (c, next) ← readUnicode (p.skip 2)
      let (cs, stop) ← readText start fuel next
      return (c :: cs, stop)
    | '\\' :: letter :: _ =>
      match escaped? letter with
      | none => p.fail .escape
      | some c => do
        let (cs, stop) ← readText start fuel (p.skip 2)
        return (c :: cs, stop)
    | c :: _ =>
      if c.toNat < 0x20 then p.fail .controlCharacter
      else do
        let (cs, stop) ← readText start fuel (p.skip 1)
        return (c :: cs, stop)

/-- The text whose opening quote is at a place. -/
def readQuoted (p : Place) : Except JsonFault (String × Place) := do
  let (cs, stop) ← readText p.position p.rest.length (p.skip 1)
  return (String.ofList cs, stop)

/-! ## Numbers and words -/

/-- Whether a character is one of the ten digits. -/
def isDigit (c : Char) : Bool := '0' ≤ c && c ≤ '9'

/-- The length of the integer at the start of a text, zero if there is none. -/
def integerLength : List Char → Nat
  | '0' :: _ => 1
  | cs => (cs.takeWhile isDigit).length

/-- The length of the fraction at the start of a text. -/
def fractionLength : List Char → Nat
  | '.' :: rest =>
    match (rest.takeWhile isDigit).length with
    | 0 => 0
    | n + 1 => n + 2
  | _ => 0

/-- The length of the exponent at the start of a text. -/
def exponentLength : List Char → Nat
  | mark :: rest =>
    if mark == 'e' || mark == 'E' then
      let sign := if rest.head? == some '+' || rest.head? == some '-' then 1 else 0
      match ((rest.drop sign).takeWhile isDigit).length with
      | 0 => 0
      | n + 1 => n + 2 + sign
    else 0
  | [] => 0

/-- The number at a place. -/
def readNumber (p : Place) : Except JsonFault (Number × Place) :=
  let (negative, body) := match p.rest with
    | '-' :: rest => (true, rest)
    | rest => (false, rest)
  let sign := if negative then 1 else 0
  let whole := integerLength body
  if whole = 0 then p.fail .value
  else
    let fraction := fractionLength (body.drop whole)
    let exponent := exponentLength (body.drop (whole + fraction))
    let length := whole + fraction + exponent
    match Number.readUnsigned negative (body.take length) with
    | .ok n => .ok (n, p.skip (sign + length))
    | .error fault => .error (.number fault)

/-- The words that are values. -/
def words : List (String × Value) := [
  ("null", .null), ("true", .bool true), ("false", .bool false),
  ("NaN", .number (.float Number.Binary.notANumber)),
  ("Infinity", .number (.float Number.Binary.infinity)),
  ("-Infinity", .number (.float (-Number.Binary.infinity)))]

/-- The word at a place. -/
def readWord? (p : Place) : Option (Value × Place) :=
  (words.find? fun w => w.1.toList.isPrefixOf p.rest).map fun w => (w.2, p.skip w.1.length)

/-- The value at a place that is no collection. -/
def readAtom (p : Place) : Except JsonFault (Value × Place) :=
  match readWord? p with
  | some found => .ok found
  | none => do
    let (n, stop) ← readNumber p
    return (.number n, stop)

/-! ## Collections -/

mutual

/-- The value at a place. -/
def readValue : Nat → Place → Except JsonFault (Value × Place)
  | 0, p => p.fail .value
  | fuel + 1, p =>
    match p.rest with
    | '"' :: _ => do
      let (s, stop) ← readQuoted p
      return (.text s, stop)
    | '\x7b' :: _ => do
      let inside := (p.skip 1).skipBlanks
      match inside.rest with
      | '\x7d' :: _ => return (.map [], inside.skip 1)
      | _ =>
        let (pairs, stop) ← readMembers fuel inside []
        return (.map pairs, stop)
    | '[' :: _ => do
      let inside := (p.skip 1).skipBlanks
      match inside.rest with
      | ']' :: _ => return (.list [], inside.skip 1)
      | _ =>
        let (items, stop) ← readItems fuel inside
        return (.list items, stop)
    | _ => readAtom p

/-- The pairs of a map from a place on, added to those before. -/
def readMembers : Nat → Place → List (Value × Value) →
    Except JsonFault (List (Value × Value) × Place)
  | 0, p, _ => p.fail .propertyName
  | fuel + 1, p, pairs =>
    match p.rest with
    | '"' :: _ => do
      let (key, afterKey) ← readQuoted p
      let colon := afterKey.skipBlanks
      match colon.rest with
      | ':' :: _ =>
        let (value, afterValue) ← readValue fuel (colon.skip 1).skipBlanks
        let pairs := Value.insert (.text key) value pairs
        let mark := afterValue.skipBlanks
        match mark.rest with
        | '\x7d' :: _ => return (pairs, mark.skip 1)
        | ',' :: _ => readMembers fuel (mark.skip 1).skipBlanks pairs
        | _ => mark.fail .comma
      | _ => colon.fail .colon
    | _ => p.fail .propertyName

/-- The items of a list from a place on. -/
def readItems : Nat → Place → Except JsonFault (List Value × Place)
  | 0, p => p.fail .value
  | fuel + 1, p => do
    let (value, afterValue) ← readValue fuel p
    let mark := afterValue.skipBlanks
    match mark.rest with
    | ']' :: _ => return ([value], mark.skip 1)
    | ',' :: _ =>
      let (items, stop) ← readItems fuel (mark.skip 1).skipBlanks
      return (value :: items, stop)
    | _ => mark.fail .comma

end

/-- The value of a text. -/
def read (cs : List Char) : Except JsonFault Value :=
  let start : Place := ⟨cs, 0⟩
  if cs.head? == some '\uFEFF' then start.fail .byteOrderMark
  else do
    let (value, stop) ← readValue (2 * cs.length + 1) start.skipBlanks
    let tail := stop.skipBlanks
    if tail.rest.isEmpty then return value else tail.fail .extraData

end Json

/-- The wording of a fault in a given text, with the line and the column. -/
def JsonFault.message (source : List Char) : JsonFault → String
  | number fault => fault.message
  | syntactic problem position =>
    let before := source.take position
    let line := before.count '\n' + 1
    let column := (before.reverse.takeWhile (· != '\n')).length + 1
    s!"{problem.text}: line {line} column {column} (char {position})"

end SketchScreen
