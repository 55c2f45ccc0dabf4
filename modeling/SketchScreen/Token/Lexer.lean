import SketchScreen.Fault
import SketchScreen.Number.Decimal
import SketchScreen.Text.Word

/-!
# Cutting Text into Tokens

At every place of an expression the kinds of tokens are tried in a fixed order: operators,
hexadecimal numbers, decimal numbers, names.  Each takes as many characters as it can.

## Main Definitions

- `Lexeme.at?`: the token at the start of a text.
- `Token.scan`: all tokens of an expression, closed by an end mark.
-/

namespace SketchScreen

open SketchScreen.Text

/-- The content of a token with the number of characters after its first. -/
structure Lexeme where
  content : TokenContent
  extra : Nat

namespace Lexeme

/-- The length of the hexadecimal number at the start of a text, zero if there is none. -/
def hexLength : List Char → Nat
  | '0' :: mark :: rest =>
    if mark == 'x' || mark == 'X' then
      match (rest.takeWhile isHexDigit).length with
      | 0 => 0
      | n + 1 => n + 3
    else 0
  | _ => 0

/-- The value of a hexadecimal number with its mark. -/
def hexNumber (cs : List Char) : Nat :=
  ofDigits 16 ((cs.drop 2).map hexValue)

/-- The length of the name at the start of a text, zero if there is none. -/
def nameLength : List Char → Nat
  | [] => 0
  | c :: rest => if isNameStart c then 1 + (rest.takeWhile isWord).length else 0

/-- The content of a decimal number. -/
def ofNumber : Number → TokenContent
  | .int n => .int n
  | .float x => .float x

/-- The token at the start of a text, if one starts there. -/
def at? (cs : List Char) : Except NumberFault (Option Lexeme) :=
  match cs.head?.bind TokenContent.ofOperator? with
  | some content => .ok (some ⟨content, 0⟩)
  | none =>
    match hexLength cs with
    | extra + 1 => .ok (some ⟨.int (hexNumber (cs.take (extra + 1))), extra⟩)
    | 0 =>
      match Number.numberLength cs with
      | extra + 1 => do
        let value ← Number.readUnsigned false (cs.take (extra + 1))
        return some ⟨ofNumber value, extra⟩
      | 0 =>
        match nameLength cs with
        | extra + 1 => .ok (some ⟨.name (String.ofList (cs.take (extra + 1))), extra⟩)
        | 0 => .ok none

end Lexeme

namespace Token

/-- The tokens of a text that starts at an offset of an expression. -/
def scanFrom (source : String) (offset : Nat) : List Char → Except Fault (List Token)
  | [] => .ok [⟨.endMark, offset, ""⟩]
  | c :: rest =>
    if isSpace c then scanFrom source (offset + 1) rest
    else do
      match ← Fault.liftNumber (Lexeme.at? (c :: rest)) with
      | none => .error (.evaluation source (some (.unexpectedChar c offset)))
      | some ⟨content, extra⟩ =>
        let token : Token := ⟨content, offset, String.ofList (c :: rest.take extra)⟩
        let tokens ← scanFrom source (offset + 1 + extra) (rest.drop extra)
        return token :: tokens
termination_by cs => cs.length
decreasing_by
  all_goals simp only [List.length_cons, List.length_drop]; omega

/-- The tokens of an expression. -/
def scan (source : String) : Except Fault (List Token) :=
  scanFrom source 0 source.toList

end Token

end SketchScreen
