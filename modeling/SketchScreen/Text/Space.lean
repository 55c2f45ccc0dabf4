import SketchScreen.Text.Span

/-!
# Blank Characters and Trimming

Lines, arguments and expressions are trimmed of blanks of every kind.

## Main Definitions

- `isSpace`: the class of blank characters.
- `trimLeft`, `trimRight`, `trim`: drop the blanks at one end or at both ends.
- `isBlank`: a text of blanks only.
-/

namespace SketchScreen.Text

/-- The blank characters: controls that move the print position, and the separators. -/
def spaceSpans : List Span := [
  (0x9, 0xD), (0x1C, 0x20), (0x85, 0x85), (0xA0, 0xA0), (0x1680, 0x1680), (0x2000, 0x200A),
  (0x2028, 0x2029), (0x202F, 0x202F), (0x205F, 0x205F), (0x3000, 0x3000)]

/-- A blank character. -/
def isSpace (c : Char) : Bool :=
  Span.anyHolds spaceSpans c

/-- Drops the blanks in front. -/
def trimLeft (cs : List Char) : List Char :=
  cs.dropWhile isSpace

/-- Drops the blanks at the end. -/
def trimRight (cs : List Char) : List Char :=
  (cs.reverse.dropWhile isSpace).reverse

/-- Drops the blanks at both ends. -/
def trim (cs : List Char) : List Char :=
  trimRight (trimLeft cs)

/-- Drops the blanks at both ends of a string. -/
def trimString (s : String) : String :=
  String.ofList (trim s.toList)

/-- A text that holds nothing but blanks. -/
def isBlank (cs : List Char) : Bool :=
  cs.all isSpace

end SketchScreen.Text
