import SketchScreen.Color
import SketchScreen.Expr.Parser

/-!
# Values of Expressions

An expression has a value once all its names have one.  A variable hides the
colour of the same name.

## Main Definitions

- `Lookup`: the values of variables.
- `Expr.eval`: the value of a tree.
- `Expr.evalText`, `evaluate`: the value of a text, taken as it is or trimmed first.
-/

namespace SketchScreen

/-- The values of variables. -/
abbrev Lookup := String → Option Number

/-- No variable has a value. -/
def Lookup.empty : Lookup := fun _ => none

/-- The value of a name: that of a variable, or else the 16-bit value of a colour. -/
def Lookup.value? (lookup : Lookup) (name : String) : Option Number :=
  (lookup name).or ((Color.constant? name).map fun code => .int code)

namespace Expr

/-- The value of two operands under an operator. -/
def applyBinary (source : String) (operator : TokenKind) (left right : Number) :
    Except Fault Number :=
  match operator with
  | .plus => Fault.liftNumber (left.add right)
  | .minus => Fault.liftNumber (left.sub right)
  | .star => Fault.liftNumber (left.mul right)
  | .slash => Fault.liftNumber (left.divide right)
  | operator => .error (.evaluation source (some (.unknownBinary operator)))

/-- The value of an operand under a sign. -/
def applyUnary (source : String) (operator : TokenKind) (operand : Number) :
    Except Fault Number :=
  match operator with
  | .minus => .ok operand.neg
  | .plus => .ok operand
  | operator => .error (.evaluation source (some (.unknownUnary operator)))

/-- The value of a tree that was read from `source`. -/
def eval (source : String) (lookup : Lookup) : Expr → Except Fault Number
  | blank _ => .error (.evaluation source (some .blankNode))
  | literal _ value => .ok value
  | name _ text =>
    match lookup.value? text with
    | some value => .ok value
    | none => .error (.evaluation source (some (.undefined text)))
  | unary _ operator operand => do
    let value ← eval source lookup operand
    applyUnary source operator value
  | binary _ operator left right => do
    let a ← eval source lookup left
    let b ← eval source lookup right
    applyBinary source operator a b

/-- The value of a text as it stands. -/
def evalText (lookup : Lookup) (source : String) : Except Fault Number := do
  let tree ← parse source
  tree.eval source lookup

end Expr

/-- The value of a text without the blanks around it. -/
def evaluate (lookup : Lookup) (source : String) : Except Fault Number :=
  Expr.evalText lookup (Text.trimString source)

end SketchScreen
