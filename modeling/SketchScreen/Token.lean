import SketchScreen.Number.Basic

/-!
# Tokens of Expressions

An expression is a row of tokens: literals, names, the four operators and
parentheses, closed by an end mark.

## Main Definitions

- `TokenKind`: the kinds of tokens, with their labels.
- `TokenContent`: a kind together with what a token of that kind carries.
- `Token`: a token with its place in the text.
-/

namespace SketchScreen

/-- The kinds of tokens. -/
inductive TokenKind where
  | intLiteral
  | floatLiteral
  | identifier
  | plus
  | minus
  | star
  | slash
  | leftParen
  | rightParen
  | endMark
deriving DecidableEq, Repr

namespace TokenKind

/-- The label of a kind in messages. -/
def label : TokenKind → String
  | intLiteral => "INT_LITERAL"
  | floatLiteral => "FLOAT_LITERAL"
  | identifier => "IDENTIFIER"
  | plus => "PLUS"
  | minus => "MINUS"
  | star => "STAR"
  | slash => "SLASH"
  | leftParen => "LPAREN"
  | rightParen => "RPAREN"
  | endMark => "EOF"

/-- All kinds in order. -/
def all : List TokenKind :=
  [intLiteral, floatLiteral, identifier, plus, minus, star, slash, leftParen, rightParen,
    endMark]

/-- The kind with a label. -/
def ofLabel? (text : String) : Option TokenKind :=
  all.find? fun kind => kind.label == text

end TokenKind

/-- What a token is and carries. -/
inductive TokenContent where
  /-- An integer, decimal or hexadecimal. -/
  | int (n : Int)
  /-- A decimal number with a point or an exponent. -/
  | float (x : Float)
  /-- The name of a variable or of a colour. -/
  | name (text : String)
  | plus
  | minus
  | star
  | slash
  | leftParen
  | rightParen
  /-- The end of the expression. -/
  | endMark
deriving DecidableEq

/-- The kind of a token's content. -/
def TokenContent.kind : TokenContent → TokenKind
  | int _ => .intLiteral
  | float _ => .floatLiteral
  | name _ => .identifier
  | plus => .plus
  | minus => .minus
  | star => .star
  | slash => .slash
  | leftParen => .leftParen
  | rightParen => .rightParen
  | endMark => .endMark

/-- The content of an operator or a parenthesis. -/
def TokenContent.ofOperator? : Char → Option TokenContent
  | '+' => some plus
  | '-' => some minus
  | '*' => some star
  | '/' => some slash
  | '(' => some leftParen
  | ')' => some rightParen
  | _ => none

/-- A token with its place in the text. -/
structure Token where
  content : TokenContent
  /-- The offset of the token's first character. -/
  position : Nat
  /-- The text of the token. -/
  lexeme : String
deriving DecidableEq

namespace Token

/-- The kind of a token. -/
def kind (t : Token) : TokenKind := t.content.kind

/-- A token as its label, with its text if it has one. -/
def describe (t : Token) : String :=
  if t.lexeme.isEmpty then t.kind.label else s!"{t.kind.label}({Text.quote t.lexeme})"

end Token

end SketchScreen
