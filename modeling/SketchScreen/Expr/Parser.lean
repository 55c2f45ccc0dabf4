import SketchScreen.Expr
import SketchScreen.Token.Lexer

/-!
# Reading Expressions

The tree of a row of tokens.  Signs bind tighter than products and products tighter than sums;
products and sums group to the left.

## Main Definitions

- `Level`: what has been read inside one pair of parentheses.
- `Reading`: whether an operand or an operator comes next.
- `Reading.step`: what one token does.
- `Expr.parseTokens`, `Expr.parseStart`: the tree of all tokens, or of those at the start.
- `Expr.parse`: the tree of a text.

## Design Notes

Tokens are read one at a time, each exactly once, and a token is rejected as soon as
no expression can go on with it; so reading ends on every input, and a fault names
the first impossible token.

A row of tokens that lacks its end mark is read as if its last token went on.
-/

namespace SketchScreen

/-- An operand that waits for its right neighbour, with the operator between them. -/
abbrev Pending := Expr × TokenKind

/-- What has been read inside one pair of parentheses, up to the operand that comes next. -/
structure Level where
  /-- The left operand of a sum or difference. -/
  sum : Option Pending
  /-- The left operand of a product or quotient. -/
  product : Option Pending
  /-- The signs in front of the operand with their offsets, the innermost first. -/
  signs : List (Nat × TokenKind)
deriving DecidableEq

namespace Level

/-- Nothing has been read. -/
def start : Level := ⟨none, none, []⟩

/-- A node of two operands. -/
def join (left : Option Pending) (right : Expr) : Expr :=
  match left with
  | none => right
  | some (left, operator) => .binary left.position operator left right

/-- An operand with its signs. -/
def sign (signs : List (Nat × TokenKind)) (operand : Expr) : Expr :=
  signs.foldl (fun e s => .unary s.1 s.2 e) operand

/-- The product that an operand completes. -/
def complete (level : Level) (operand : Expr) : Expr :=
  join level.product (sign level.signs operand)

end Level

/-- How far the reading of an expression has come. -/
inductive Reading where
  /-- An operand comes next. -/
  | operand (level : Level) (outer : List Level)
  /-- A product has been read, and an operator comes next. -/
  | operator (sum : Option Pending) (product : Expr) (outer : List Level)
deriving DecidableEq

/-- What a token does to a reading. -/
inductive Reading.Step where
  /-- The token belongs to the expression. -/
  | next (reading : Reading)
  /-- The expression is complete before the token. -/
  | done (tree : Expr)
  /-- The token is impossible. -/
  | fail (expected : Expected)
deriving DecidableEq

namespace Reading

/-- An operand has been read inside the given parentheses. -/
def afterOperand (operand : Expr) (level : Level) (outer : List Level) : Reading :=
  operator level.sum (level.complete operand) outer

/-- What a token does where an operand comes next. -/
def operandStep (level : Level) (outer : List Level) (t : Token) : Step :=
  match t.content with
  | .int n => .next (afterOperand (.literal t.position (.int n)) level outer)
  | .float x => .next (afterOperand (.literal t.position (.float x)) level outer)
  | .name text => .next (afterOperand (.name t.position text) level outer)
  | .plus | .minus =>
    .next (operand ⟨level.sum, level.product, (t.position, t.kind) :: level.signs⟩ outer)
  | .leftParen => .next (operand Level.start (level :: outer))
  | _ => .fail .operand

/-- What a token does where an operator comes next. -/
def operatorStep (sum : Option Pending) (product : Expr) (outer : List Level) (t : Token) :
    Step :=
  match t.content, outer with
  | .star, _ | .slash, _ => .next (operand ⟨sum, some (product, t.kind), []⟩ outer)
  | .plus, _ | .minus, _ =>
    .next (operand ⟨some (Level.join sum product, t.kind), none, []⟩ outer)
  | .rightParen, level :: outer => .next (afterOperand (Level.join sum product) level outer)
  | _, [] => .done (Level.join sum product)
  | _, _ :: _ => .fail .closing

/-- What a token does to a reading. -/
def step : Reading → Token → Step
  | operand level outer, t => operandStep level outer t
  | operator sum product outer, t => operatorStep sum product outer t

end Reading

/-- An expression that has been read. -/
structure Parsed where
  tree : Expr
  /-- The number of tokens that belong to it. -/
  length : Nat
  /-- The token after it. -/
  next : Token
deriving DecidableEq

namespace Expr

/-- Reads the expression at the start of a row of tokens, `length` tokens of
which have been read. -/
def readTokens (source : String) (last : Token) (reading : Reading) (length : Nat) :
    List Token → Except Fault Parsed
  | [] => .error (.evaluation source (some (.unexpectedToken .operand last)))
  | t :: tokens =>
    match reading.step t with
    | .next reading => readTokens source last reading (length + 1) tokens
    | .done tree => .ok ⟨tree, length, t⟩
    | .fail expected => .error (.evaluation source (some (.unexpectedToken expected t)))

/-- The expression at the start of a row of tokens. -/
def parseStart (source : String) (tokens : List Token) : Except Fault Parsed :=
  match tokens.getLast? with
  | none => .error .noTokens
  | some last =>
    readTokens source last (.operand Level.start []) 0
      (tokens ++ List.replicate tokens.length last)

/-- The expression that a whole row of tokens forms. -/
def parseTokens (source : String) (tokens : List Token) : Except Fault Parsed := do
  let parsed ← parseStart source tokens
  if parsed.next.kind = .endMark then return parsed
  else .error (.evaluation source (some (.unexpectedToken .operator parsed.next)))

/-- The expression that a text forms. -/
def parse (source : String) : Except Fault Expr := do
  let tokens ← Token.scan source
  let parsed ← parseTokens source tokens
  return parsed.tree

end Expr

end SketchScreen
