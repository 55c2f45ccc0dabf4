import SketchScreen.Source
import SketchScreen.Token.Lexer

/-!
# Statements

A line of a sketch is a declaration such as `int x = 5`, a call such as
`tft.fillRect(0, 0, 9, 9, x)`, or neither.

## Main Definitions

- `Statement`: a declaration or a call.
- `Statement.classify`: the statement of a line.
- `Statement.ofSource`: the lines of a sketch with their statements.

## Design Notes

A declaration is tried first, from the start of the line.  A call may stand anywhere in the
line; the leftmost one counts, and its arguments reach to the last closing parenthesis.  The
text of a line may hold newlines when it does not come from a sketch: arguments end before
one, and an initial value holds none but for one at its very end.
-/

namespace SketchScreen

open SketchScreen.Text

/-- A statement of a sketch. -/
inductive Statement where
  /-- A variable gets the value of an expression. -/
  | declaration (kind name expression : String)
  /-- A command is called with the text of its arguments. -/
  | call (command arguments : String)
deriving DecidableEq, Repr

namespace Statement

/-- The words that declare a variable, the longest first. -/
def typeKeywords : List String :=
  ["uint16_t", "uint32_t", "uint8_t", "double", "float", "short", "long", "byte", "int"]

/-- Whether a word declares a variable. -/
def isTypeKeyword (word : String) : Bool := typeKeywords.contains word

/-- What every call starts with. -/
def receiver : List Char := "tft.".toList

/-- What follows `start` at the start of a text. -/
def dropStart? (start cs : List Char) : Option (List Char) :=
  if start.isPrefixOf cs then some (cs.drop start.length) else none

/-- The keyword at the start of a line, and what follows it; a blank must follow. -/
def takeKeyword? (cs : List Char) : Option (String × List Char) :=
  typeKeywords.findSome? fun keyword => do
    let rest ← dropStart? keyword.toList cs
    if rest.head?.any isSpace then some (keyword, rest) else none

/-- The expression after the equals sign of a declaration. -/
def initialValue? (cs : List Char) : Option (List Char) :=
  let body := dropFinalNewline cs
  let core := if isBlank body then body.drop (body.length - 1) else trimLeft body
  if core.isEmpty || core.contains '\n' then none else some (trim body)

/-- The declaration that a line is. -/
def declaration? (cs : List Char) : Option Statement := do
  let (keyword, rest) ← takeKeyword? cs
  let rest := trimLeft rest
  let length := Lexeme.nameLength rest
  if length = 0 then none
  else
    match trimLeft (rest.drop length) with
    | '=' :: value => do
      let expression ← initialValue? value
      return declaration keyword (String.ofList (rest.take length)) (String.ofList expression)
    | _ => none

/-- The part of a text before its last closing parenthesis. -/
def beforeLastParen? (cs : List Char) : Option (List Char) :=
  match cs.reverse.dropWhile (· != ')') with
  | [] => none
  | _ :: rest => some rest.reverse

/-- The call at the start of a text. -/
def callAt? (cs : List Char) : Option Statement := do
  let rest ← dropStart? receiver cs
  let command := rest.takeWhile isWord
  if command.isEmpty then none
  else
    match rest.dropWhile isWord with
    | '(' :: rest => do
      let arguments ← beforeLastParen? (rest.takeWhile (· != '\n'))
      return call (String.ofList command) (String.ofList arguments)
    | _ => none

/-- The leftmost call in a text. -/
def call? : List Char → Option Statement
  | [] => none
  | c :: rest => (callAt? (c :: rest)).or (call? rest)

/-- The statement of a line. -/
def classify (line : List Char) : Option Statement :=
  (declaration? line).or (call? line)

/-- The lines of a sketch that hold code, with their numbers, texts and statements. -/
def ofSource (source : List Char) : List (Nat × List Char × Option Statement) :=
  (Source.lines source).map fun (number, code) => (number, code, classify code)

end Statement

end SketchScreen
