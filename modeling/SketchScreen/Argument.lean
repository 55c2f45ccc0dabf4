import SketchScreen.Expr.Eval
import SketchScreen.Source

/-!
# Arguments of Calls

The text between the parentheses of a call is cut at its top-level commas.  Each piece is a
quoted text, the name of a colour, a hexadecimal number, an expression, a variable or a
number; a piece that is none of these stands for its own text.

## Main Definitions

- `Argument.pieces`: the untrimmed pieces between the top-level commas.
- `Argument.split`: the arguments as texts.
- `Argument`: a number or a text.
- `Argument.resolve`: what an argument text stands for.
- `Argument.readAll`: the arguments of a call.
-/

namespace SketchScreen

open SketchScreen.Text

/-- The value of an argument. -/
inductive Argument where
  | number (n : Number)
  | text (s : String)
deriving DecidableEq

namespace Argument

/-! ## Cutting -/

/-- Where a scan of an argument list stands. -/
structure Scan where
  /-- The character just before. -/
  previous : Option Char
  /-- The quote of the text that the scan is inside of. -/
  quote : Option Char
  /-- How many parentheses are open. -/
  depth : Int
deriving DecidableEq, Repr

namespace Scan

/-- The scan of a list that has not begun. -/
def start : Scan := ⟨none, none, 0⟩

/-- Whether a character opens or closes texts: a quote with no backslash before it. -/
def marks (s : Scan) (c : Char) : Bool :=
  Source.isQuote c && s.previous != some '\\'

/-- Whether a character separates arguments. -/
def separates (s : Scan) (c : Char) : Bool :=
  !s.marks c && s.quote.isNone && c == ',' && s.depth == 0

/-- The scan after a character. -/
def advance (s : Scan) (c : Char) : Scan :=
  if s.marks c then
    match s.quote with
    | none => ⟨some c, some c, s.depth⟩
    | some mark => ⟨some c, if c == mark then none else some mark, s.depth⟩
  else if s.quote.isNone then
    ⟨some c, none, if c == '(' then s.depth + 1 else if c == ')' then s.depth - 1
      else s.depth⟩
  else ⟨some c, s.quote, s.depth⟩

end Scan

/-- The pieces between the separators of a text; `piece` is what has been read of the current
one, the last character first. -/
def piecesFrom (s : Scan) (piece : List Char) : List Char → List (List Char)
  | [] => [piece.reverse]
  | c :: rest =>
    if s.separates c then piece.reverse :: piecesFrom (s.advance c) [] rest
    else piecesFrom (s.advance c) (c :: piece) rest

/-- The pieces between the top-level commas of a text. -/
def pieces (cs : List Char) : List (List Char) :=
  piecesFrom Scan.start [] cs

/-- Trims every piece and drops the last one if nothing is left of it. -/
def trimPieces : List (List Char) → List (List Char)
  | [] => []
  | [last] => if isBlank last then [] else [trim last]
  | piece :: rest => trim piece :: trimPieces rest

/-- The arguments of a call as texts. -/
def split (cs : List Char) : List (List Char) :=
  trimPieces (pieces cs)

/-! ## Resolving -/

/-- The number at the place of the digits after `0x`: as many hexadecimal digits
as stand there. -/
def readHex? (cs : List Char) : Option Nat :=
  match (cs.drop 2).takeWhile isHexDigit with
  | [] => none
  | digits => some (ofDigits 16 (digits.map hexValue))

/-- Whether a text starts with a quote. -/
def isQuoted (cs : List Char) : Bool :=
  cs.head?.any Source.isQuote

/-- The text between quotes; the closing quote may be missing. -/
def unquote : List Char → List Char
  | [] => []
  | mark :: rest => if rest.getLast? == some mark then rest.dropLast else rest

/-- Whether a text holds an operator or a parenthesis. -/
def isExpression (cs : List Char) : Bool :=
  cs.any fun c => (TokenContent.ofOperator? c).isSome

/-- The number that a text writes out, or else the text. -/
def plain (cs : List Char) : Except Fault Argument := do
  match ← Fault.liftNumber (Number.readNumber? cs) with
  | some n => return number n
  | none => return text (String.ofList cs)

/-- The value of a text with operators; a text without a value stands for itself. -/
def ofExpression (lookup : Lookup) (cs : List Char) : Except Fault Argument :=
  match evaluate lookup (String.ofList cs) with
  | .ok n => .ok (number n)
  | .error (.evaluation _ _) => plain cs
  | .error fault => .error fault

/-- What an argument text stands for. -/
def resolve (lookup : Lookup) (cs : List Char) : Except Fault Argument :=
  if isQuoted cs then .ok (text (String.ofList (unquote cs)))
  else if Color.nameStart.toList.isPrefixOf cs then .ok (text (String.ofList cs))
  else if hasHexMark cs then
    match readHex? cs with
    | some n => .ok (number (.int n))
    | none => .ok (text (String.ofList cs))
  else if isExpression cs then ofExpression lookup cs
  else
    match (if isName cs then lookup (String.ofList cs) else none) with
    | some n => .ok (number n)
    | none => plain cs

/-- The arguments of a call. -/
def readAll (lookup : Lookup) (arguments : String) : Except Fault (List Argument) :=
  (split arguments.toList).mapM (resolve lookup)

end Argument

end SketchScreen
