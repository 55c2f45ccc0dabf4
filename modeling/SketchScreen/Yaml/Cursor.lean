import SketchScreen.Number.Fault
import SketchScreen.Value.Moment

/-!
# Places in YAML Texts

A reader of YAML moves through a text and keeps the line and the column, since
indentation counts.

## Main Definitions

- `YamlProblem`, `YamlFault`: what is wrong with a text, and where.
- `Yaml.isBreak`, `Yaml.isGap`, `Yaml.endsWord`: the characters that separate.
- `Yaml.Cursor`: a place in a text.
- `Yaml.Cursor.next`, `Yaml.Cursor.forward`: moving on.
- `Yaml.Cursor.takeBreak?`: the end of a line.
-/

namespace SketchScreen

/-- What a text in YAML can go wrong with. -/
inductive YamlProblem where
  | character
  | noToken
  | keyWithoutColon
  | entryPlace
  | keyPlace
  | valuePlace
  | closingPlace
  | blockHeader
  | escape
  | directive
  | anchorName
  | tagName
  | unclosedQuote
  | documentMark
  | content
  | blockEnd
  | listEnd
  | mapEnd
  | documentStart
  | secondDocument
  | version
  | repeatedDirective
  | undefinedHandle
  | undefinedAlias
  | repeatedAnchor
  | scalarKind
  | listKind
  | mapKind
  | keyKind
  | mergeKind
  | entryKind
  | binary
  | unknownTag
deriving DecidableEq, Repr

/-- The wording of a problem. -/
def YamlProblem.text : YamlProblem → String
  | character => "unacceptable character"
  | noToken => "found a character that cannot start any token"
  | keyWithoutColon => "could not find expected ':'"
  | entryPlace => "sequence entries are not allowed here"
  | keyPlace => "mapping keys are not allowed here"
  | valuePlace => "mapping values are not allowed here"
  | closingPlace => "found a closing bracket without an opening one"
  | blockHeader => "expected chomping or indentation indicators, a comment or a line break"
  | escape => "found unknown escape character"
  | directive => "expected a directive"
  | anchorName => "expected alphabetic or numeric character"
  | tagName => "expected the name of a tag"
  | unclosedQuote => "found unexpected end of stream"
  | documentMark => "found unexpected document separator"
  | content => "expected the node content"
  | blockEnd => "expected <block end>"
  | listEnd => "expected ',' or ']'"
  | mapEnd => "expected ',' or '\x7d'"
  | documentStart => "expected '<document start>'"
  | secondDocument => "expected a single document in the stream"
  | version => "found incompatible YAML document (version 1.* is required)"
  | repeatedDirective => "found duplicate directive"
  | undefinedHandle => "found undefined tag handle"
  | undefinedAlias => "found undefined alias"
  | repeatedAnchor => "found duplicate anchor"
  | scalarKind => "expected a scalar node"
  | listKind => "expected a sequence node"
  | mapKind => "expected a mapping node"
  | keyKind => "found unhashable key"
  | mergeKind => "expected a mapping or list of mappings for merging"
  | entryKind => "expected a mapping of length 1"
  | binary => "failed to decode base64 data"
  | unknownTag => "could not determine a constructor for the tag"

/-- Why a text has no value. -/
inductive YamlFault where
  /-- The text leaves the notation, at a line and a column if they are known. -/
  | syntactic (problem : YamlProblem) (place : Option (Nat × Nat))
  /-- A number cannot be read. -/
  | number (fault : NumberFault)
  /-- A number is asked for, and its text ends too early. -/
  | noDigits
  /-- A truth value is asked for, and a word stands for none. -/
  | truth (word : String)
  /-- A date is asked for, and a text is written like none. -/
  | noMoment
  /-- A date that is not in the calendar. -/
  | moment (fault : MomentFault)
  /-- The number of an escape is that of no character, or not even small enough
  to be looked up. -/
  | noCharacter
  | codeTooLarge
deriving DecidableEq, Repr

/-- The wording of a fault. -/
def YamlFault.message : YamlFault → String
  | syntactic problem none => problem.text
  | syntactic problem (some (line, column)) =>
    s!"{problem.text}, line {line + 1}, column {column + 1}"
  | number fault => fault.message
  | noDigits => "string index out of range"
  | truth word => Text.quote word
  | noMoment => "'NoneType' object has no attribute 'groupdict'"
  | moment fault => fault.message
  | noCharacter => "chr() arg not in range(0x110000)"
  | codeTooLarge => "Python int too large to convert to C int"

namespace Yaml

/-! ## Characters -/

/-- A character that ends a line. -/
def isBreak (c : Char) : Bool :=
  c == '\n' || c == '\r' || c == '\u0085' || c == '\u2028' || c == '\u2029'

/-- A blank within a line. -/
def isGap (c : Char) : Bool := c == ' ' || c == '\t'

/-- A blank, the end of a line or the end of the text. -/
def endsWord : Option Char → Bool
  | none => true
  | some c => isGap c || isBreak c

/-- A character that a text may hold. -/
def isAcceptable (c : Char) : Bool :=
  c == '\t' || c == '\n' || c == '\r' || (' ' ≤ c && c ≤ '~') || c == '\u0085'
    || (0xA0 ≤ c.toNat && c.toNat ≤ 0xFFFD) || 0x10000 ≤ c.toNat

/-! ## Places -/

/-- A place in a text: what follows it, and how far it is from the start. -/
structure Cursor where
  rest : List Char
  index : Nat
  line : Nat
  column : Nat
deriving DecidableEq, Repr

namespace Cursor

/-- The start of a text. -/
def start (cs : List Char) : Cursor := ⟨cs, 0, 0, 0⟩

/-- The fault at a place. -/
def fault (c : Cursor) (problem : YamlProblem) : YamlFault :=
  .syntactic problem (some (c.line, c.column))

/-- A failure at a place. -/
def fail {α : Type} (c : Cursor) (problem : YamlProblem) : Except YamlFault α :=
  .error (c.fault problem)

/-- The character at a place. -/
def peek (c : Cursor) : Option Char := c.rest.head?

/-- The character after the one at a place. -/
def peekNext (c : Cursor) : Option Char := (c.rest.drop 1).head?

/-- Whether the character at a place satisfies a test; the end of the text does not. -/
def sees (c : Cursor) (test : Char → Bool) : Bool := c.peek.any test

/-- The place after one character. -/
def next (c : Cursor) : Cursor :=
  match c.rest with
  | [] => c
  | ch :: rest =>
    if isBreak ch && !(ch == '\r' && rest.head? == some '\n') then
      ⟨rest, c.index + 1, c.line + 1, 0⟩
    else if ch == '\uFEFF' then ⟨rest, c.index + 1, c.line, c.column⟩
    else ⟨rest, c.index + 1, c.line, c.column + 1⟩

/-- The place after `n` characters. -/
def forward (c : Cursor) : Nat → Cursor
  | 0 => c
  | n + 1 => c.next.forward n

/-- The place after the characters that satisfy a test. -/
def skipWhile (c : Cursor) (test : Char → Bool) : Cursor :=
  c.forward (c.rest.takeWhile test).length

/-- The place after the blanks of one kind. -/
def skipSpaces (c : Cursor) : Cursor := c.skipWhile (· == ' ')

/-- The place after a comment, if there is one. -/
def skipComment (c : Cursor) : Cursor :=
  if c.sees (· == '#') then c.skipWhile fun ch => !isBreak ch else c

/-- The end of a line at a place: the character that it counts as, and the place after it. -/
def takeBreak? (c : Cursor) : Option (Char × Cursor) :=
  match c.rest with
  | '\r' :: '\n' :: _ => some ('\n', c.forward 2)
  | '\u2028' :: _ => some ('\u2028', c.next)
  | '\u2029' :: _ => some ('\u2029', c.next)
  | ch :: _ => if isBreak ch then some ('\n', c.next) else none
  | [] => none

/-- Whether a mark of three characters that separates documents is at a place. -/
def atMark (c : Cursor) (mark : Char) : Bool :=
  c.rest.take 3 == [mark, mark, mark] && endsWord (c.rest.drop 3).head?

/-- Whether a mark that separates documents is at a place. -/
def atDocumentMark (c : Cursor) : Bool := c.atMark '-' || c.atMark '.'

end Cursor

end Yaml

end SketchScreen
