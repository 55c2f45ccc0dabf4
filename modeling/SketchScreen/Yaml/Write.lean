import SketchScreen.Yaml.Read

/-!
# Writing YAML

A value as a text in YAML: maps and lists as blocks, texts plain where they cannot be mistaken
for anything else, and between quotes elsewhere.

## Main Definitions

- `Yaml.Style`: how a text is written.
- `Yaml.styleOf`: the style of a text.
- `Yaml.write`: the text of a value.

## Design Notes

Between single quotes the end of a line is written as an empty line, because the reader folds
lines.  A text with blanks around the end of a line, or with characters that a file may not
hold, is written between double quotes.
-/

namespace SketchScreen.Yaml

/-- How a text is written. -/
inductive Style where
  | plain
  | single
  | double
deriving DecidableEq, Repr

/-- An end of a line that may stand between single quotes. -/
def isSoftBreak (c : Char) : Bool :=
  c == '\n' || c == '\u0085' || c == '\u2028' || c == '\u2029'

/-- A character that can be written only as an escape. -/
def needsEscape (c : Char) : Bool :=
  !isAcceptable c || c == '\t' || c == '\r' || c == '\uFEFF' || c.toNat == 0x10FFFF
    || (Text.half? c).isSome

/-- Whether a blank and the end of a line meet in a text. -/
def hasLooseBreak : List Char → Bool
  | a :: b :: rest =>
    (a == ' ' && isSoftBreak b) || (isSoftBreak a && b == ' ') || hasLooseBreak (b :: rest)
  | _ => false

/-- A character that may stand anywhere in a plain text. -/
def isPlainChar (c : Char) : Bool :=
  ('a' ≤ c && c ≤ 'z') || ('A' ≤ c && c ≤ 'Z') || ('0' ≤ c && c ≤ '9') || c == '_' || c == ' '
    || c == '.' || c == '(' || c == ')' || c == ';' || c == '/' || c == '+'

/-- Whether a text may be written plain: it starts with a letter, does not end with a blank,
and cannot be mistaken for anything else. -/
def isPlainText (cs : List Char) : Bool :=
  cs.head?.any Char.isAlpha && cs.getLast? != some ' ' && cs.all isPlainChar
    && Tag.ofPlain (String.ofList cs) == .text

/-- The style of a text. -/
def styleOf (cs : List Char) : Style :=
  if cs.any needsEscape || hasLooseBreak cs then .double
  else if isPlainText cs then .plain
  else .single

/-- The ends of lines between single quotes, in a block with the given indentation. -/
def writeBreaks (indent : Nat) (breaks : List Char) : List Char :=
  (if breaks.head? == some '\n' then ['\n'] else []) ++ breaks ++ List.replicate indent ' '

/-- A text between single quotes; `breaks` are the ends of lines just before,
the last one first. -/
def writeSingleFrom (indent : Nat) (breaks : List Char) : List Char → List Char
  | [] => if breaks.isEmpty then [] else writeBreaks indent breaks.reverse
  | c :: rest =>
    if isSoftBreak c then writeSingleFrom indent (c :: breaks) rest
    else
      (if breaks.isEmpty then [] else writeBreaks indent breaks.reverse)
        ++ (if c == '\'' then ['\'', '\''] else [c]) ++ writeSingleFrom indent [] rest

/-- A character as an escape with digits. -/
def writeCode (mark : Char) (width n : Nat) : List Char :=
  let digits := Nat.toDigits 16 n
  '\\' :: mark :: (List.replicate (width - digits.length) '0' ++ digits)

/-- A character between double quotes. -/
def writeDoubleChar (c : Char) : List Char :=
  match c with
  | '"' => ['\\', '"']
  | '\\' => ['\\', '\\']
  | '\n' => ['\\', 'n']
  | '\r' => ['\\', 'r']
  | '\t' => ['\\', 't']
  | c =>
    let n := (Text.half? c).getD c.toNat
    if ' ' ≤ c && c ≤ '~' then [c]
    else if n ≤ 0xFF then writeCode 'x' 2 n
    else if n ≤ 0xFFFF then writeCode 'u' 4 n
    else writeCode 'U' 8 n

/-- A text in a block with the given indentation. -/
def writeText (indent : Nat) (s : String) : String :=
  let cs := s.toList
  match styleOf cs with
  | .plain => s
  | .single => "'" ++ String.ofList (writeSingleFrom indent [] cs) ++ "'"
  | .double => "\"" ++ String.ofList (cs.flatMap writeDoubleChar) ++ "\""

/-- The digits of a float, which always has a point. -/
def withPoint (cs : List Char) : List Char :=
  if cs.contains '.' then cs
  else cs.takeWhile (· != 'e') ++ ['.', '0'] ++ cs.dropWhile (· != 'e')

/-- A float. -/
def writeFloat (x : Float) : String :=
  match Number.Binary.ofFloat x with
  | .nan => ".nan"
  | .infinite negative => if negative then "-.inf" else ".inf"
  | .finite _ _ _ => String.ofList (withPoint (Number.writeFloat x).toList)

/-- A number. -/
def writeNumber : Number → Except NumberFault String
  | .int n => Number.writeInt n
  | .float x => .ok (writeFloat x)

/-- The start of a line with the given indentation. -/
def lineStart (indent : Nat) : String := "\n" ++ String.ofList (List.replicate indent ' ')

/-- Whether a value is written on lines of its own: a collection that is not empty. -/
def isBlock : Value → Bool
  | .list items => !items.isEmpty
  | .map pairs => !pairs.isEmpty
  | .pair _ _ => true
  | _ => false

/-- The length from which on a key is written after a question mark. -/
def longKey : Nat := 128

/-- Whether a key is written after a question mark: it is long, or a text that is empty or
on more than one line. -/
def isLongKey (key : Value) (written : String) : Bool :=
  longKey ≤ written.length ||
    match key with
    | .text s => s.isEmpty || s.toList.any isSoftBreak
    | _ => false

/-- A set without its items, which are written like keys without values. -/
def setTag : String := "!!set"

/-- A value that is no collection; a collection is written as an empty one.  A collection that
the value is inside of cannot be written. -/
def writeAtom (indent : Nat) : Value → Except NumberFault String
  | .null => .ok "null"
  | .bool b => .ok (if b then "true" else "false")
  | .number n => writeNumber n
  | .text s => .ok (writeText (indent + 2) s)
  | .moment m => .ok (m.textWith " ")
  | .octets data => .ok ("!!binary \"" ++ String.ofList (Text.encode64 data) ++ "\"")
  | .list _ | .pair _ _ | .enclosing false => .ok "[]"
  | .map _ | .enclosing true => .ok "\x7b\x7d"
  | .set _ => .ok (setTag ++ " \x7b\x7d")

mutual

/-- A value that starts in the middle of a line, at the column that is its indentation. -/
def writeAt (indent : Nat) : Value → Except NumberFault String
  | .list (item :: rest) => do
    return "- " ++ (← writeAt (indent + 2) item) ++ (← writeItems indent rest)
  | .pair first second => do
    let a ← writeAt (indent + 2) first
    let b ← writeAt (indent + 2) second
    return "- " ++ a ++ lineStart indent ++ "- " ++ b
  | .set (item :: rest) => do
    return setTag ++ (← writeKeys indent (item :: rest))
  | .map ((key, value) :: rest) => do
    return (← writeEntry indent key value) ++ (← writePairs indent rest)
  | value => writeAtom indent value

/-- The items of a list after the first, each on a line of its own. -/
def writeItems (indent : Nat) : List Value → Except NumberFault String
  | [] => .ok ""
  | item :: rest => do
    let text ← writeAt (indent + 2) item
    return lineStart indent ++ "- " ++ text ++ (← writeItems indent rest)

/-- The items of a set, each on a line of its own. -/
def writeKeys (indent : Nat) : List Value → Except NumberFault String
  | [] => .ok ""
  | item :: rest => do
    let text ← writeAtom indent item
    return lineStart indent ++ "? " ++ text ++ (← writeKeys indent rest)

/-- The pairs of a map after the first, each on a line of its own. -/
def writePairs (indent : Nat) : List (Value × Value) → Except NumberFault String
  | [] => .ok ""
  | (key, value) :: rest => do
    let text ← writeEntry indent key value
    return lineStart indent ++ text ++ (← writePairs indent rest)

/-- A pair of a map. -/
def writeEntry (indent : Nat) (key : Value) : Value → Except NumberFault String
  | value => do
    let name ← writeAtom indent key
    let content ← writeAt (indent + 2) value
    let opening := if isLongKey key name then "? " ++ name ++ lineStart indent ++ ":"
      else name ++ ":"
    return opening ++ (if isBlock value then lineStart (indent + 2) else " ") ++ content

end

/-- The text of a value. -/
def write (value : Value) : Except NumberFault String := do
  return (← writeAt 0 value) ++ "\n"

end SketchScreen.Yaml
