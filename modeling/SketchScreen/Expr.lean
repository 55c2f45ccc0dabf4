import SketchScreen.Token

/-!
# Expressions

The tree of an arithmetic expression.  Parentheses leave no node; every node keeps the offset
of its first token that is not a parenthesis.

## Main Definitions

- `Expr`: the tree.
- `Expr.position`: the offset of a node.

## Design Notes

Operators are kinds of tokens, so a tree built by hand may hold one that is no operator, or a
blank node; evaluating such a tree reports it.  Trees read from text never do.
-/

namespace SketchScreen

/-- The tree of an arithmetic expression. -/
inductive Expr where
  /-- A node without content. -/
  | blank (position : Nat)
  /-- A number. -/
  | literal (position : Nat) (value : Number)
  /-- A variable or a colour. -/
  | name (position : Nat) (text : String)
  /-- A sign in front of an operand. -/
  | unary (position : Nat) (operator : TokenKind) (operand : Expr)
  /-- An operator between two operands. -/
  | binary (position : Nat) (operator : TokenKind) (left right : Expr)
deriving DecidableEq

/-- The offset of a node's first token that is not a parenthesis. -/
def Expr.position : Expr → Nat
  | blank position => position
  | literal position _ => position
  | name position _ => position
  | unary position _ _ => position
  | binary position _ _ _ => position

end SketchScreen
