import SketchScreen.Token

/-!
# Faults of Statements

Why a statement of a sketch, or a call to a surface, fails.

## Main Definitions

- `ExprFault`: why an expression has no value.
- `Fault`: why a statement fails.
- `Fault.code`, `Fault.message`, `Fault.hints`: how it is reported.
-/

namespace SketchScreen

/-- What an expression could have gone on with. -/
inductive Expected where
  /-- A number, a name or an opening parenthesis. -/
  | operand
  /-- A closing parenthesis. -/
  | closing
  /-- An operator, or the end. -/
  | operator
deriving DecidableEq, Repr

/-- The wording of what was expected. -/
def Expected.text : Expected → String
  | operand => "number, name or '('"
  | closing => "')'"
  | operator => "operator"

/-- Why an expression has no value. -/
inductive ExprFault where
  /-- A character at which no token starts. -/
  | unexpectedChar (c : Char) (offset : Nat)
  /-- A token that cannot follow those before it. -/
  | unexpectedToken (expected : Expected) (found : Token)
  /-- A name that is neither a variable nor a colour. -/
  | undefined (name : String)
  /-- A node without content. -/
  | blankNode
  /-- A node with an operator that takes no two operands. -/
  | unknownBinary (operator : TokenKind)
  /-- A node with an operator that takes no single operand. -/
  | unknownUnary (operator : TokenKind)
  /-- A reason in words. -/
  | note (text : String)
deriving DecidableEq

/-- The wording of a token in a message. -/
def Token.found (t : Token) : String :=
  if t.kind = .endMark then "end of expression" else Text.quote t.lexeme

/-- The hint that explains a fault of an expression. -/
def ExprFault.hint : ExprFault → String
  | unexpectedChar c offset => s!"unexpected character '{c}' at offset {offset}"
  | unexpectedToken expected found =>
    s!"expected {expected.text}, found {found.found} at offset {found.position}"
  | undefined name => s!"undefined variable '{name}'"
  | blankNode => "unknown expression type: Expression"
  | unknownBinary operator => s!"unknown operator: TokenType.{operator.label}"
  | unknownUnary operator => s!"unknown unary operator: TokenType.{operator.label}"
  | note text => text

/-- Why a statement of a sketch, or a call to a surface, fails. -/
inductive Fault where
  /-- An expression has no value. -/
  | evaluation (expression : String) (reason : Option ExprFault)
  /-- No command has the name. -/
  | unknownCommand (name : String)
  /-- Fewer arguments than the command takes. -/
  | argumentCount (command : String) (required : Int) (parameters : List String)
  /-- An argument that should be a number and is not. -/
  | argumentType (command parameter shown : String)
  /-- A number that cannot be converted. -/
  | number (cause : NumberFault)
  /-- A circle with a radius below zero. -/
  | negativeRadius (shown : String)
  /-- The border of a mask on a screen without pixels. -/
  | emptyAxis (axis : Nat)
  /-- A polygon of less than two corners. -/
  | fewCorners
  /-- A row of tokens without any token. -/
  | noTokens
  /-- A value of a kind that has no integer part. -/
  | noInteger (kind : String)
  /-- A value of a kind that is no number. -/
  | noNumber (kind : String)
  /-- A screen with a side below zero. -/
  | negativeSize
  /-- A grid whose lines have no distance. -/
  | gridSpacing
  /-- A pixel outside the screen. -/
  | outsideScreen
  /-- Whatever else a surface reports: the kind of the problem, its text, and
  whether it rejects a value. -/
  | foreign (kind text : String) (rejectsValue : Bool)
deriving DecidableEq

namespace Fault

instance : Coe NumberFault Fault := ⟨number⟩

/-- A computation with numbers, as a computation of a statement. -/
def liftNumber {α : Type} (x : Except NumberFault α) : Except Fault α :=
  x.mapError number

instance : MonadLift (Except NumberFault) (Except Fault) := ⟨liftNumber⟩

/-- Whether the fault rejects a value that was given. -/
def rejectsValue : Fault → Bool
  | number cause => cause.rejectsValue
  | negativeRadius _ | emptyAxis _ | negativeSize | gridSpacing => true
  | foreign _ _ rejects => rejects
  | _ => false

/-- The code under which a fault is reported. -/
def code (f : Fault) : String :=
  match f with
  | unknownCommand _ => "E401"
  | argumentCount _ _ _ => "E402"
  | argumentType _ _ _ => "E403"
  | evaluation _ _ => "E404"
  | _ => if f.rejectsValue then "E405" else "E400"

/-- The text of a fault, which may be empty for a problem of a surface. -/
def text : Fault → String
  | evaluation expression _ => "Cannot evaluate expression: " ++ expression
  | unknownCommand name => "Unknown command: " ++ name
  | argumentCount command required parameters =>
    let noun := if required = 1 then "argument" else "arguments"
    s!"{command} requires {required} {noun}: " ++ ", ".intercalate parameters
  | argumentType command parameter shown =>
    s!"{command}: argument '{parameter}' must be a number, got {shown}"
  | number cause => cause.message
  | negativeRadius shown => s!"The radius provided ({shown}) is negative"
  | emptyAxis axis =>
    s!"can't extend empty axis {axis} using modes other than 'constant' or 'empty'"
  | fewCorners => "coordinate list must contain at least 2 coordinates"
  | noTokens => "list index out of range"
  | noInteger kind =>
    s!"int() argument must be a string, a bytes-like object or a real number, not '{kind}'"
  | noNumber kind => s!"must be real number, not {kind}"
  | negativeSize => "Width and height must be >= 0"
  | gridSpacing => "range() arg 3 must not be zero"
  | outsideScreen => "image index out of range"
  | foreign _ text _ => text

/-- The message of a fault: its text, or the kind of a problem that has no text. -/
def message (f : Fault) : String :=
  match f with
  | foreign kind "" _ => kind
  | f => f.text

/-- The hints of a fault. -/
def hints : Fault → List String
  | evaluation _ (some reason) => if reason.hint.isEmpty then [] else [reason.hint]
  | _ => []

/-- A reason that says something is a hint. -/
theorem hints_evaluation (expression : String) {reason : ExprFault} (h : reason.hint ≠ "") :
    (evaluation expression (some reason)).hints = [reason.hint] := by
  rw [hints, if_neg]
  simpa using h

end Fault

end SketchScreen
