/-!
# Spans of Code Points

A character class is a list of inclusive ranges of code points.

## Main Definitions

- `Span`: an inclusive range, by its first and last code point.
- `Span.anyHolds`: membership of a character in a list of ranges.
-/

namespace SketchScreen.Text

/-- An inclusive range of code points: its first and its last member. -/
abbrev Span := Nat × Nat

/-- Whether one of the ranges holds the character. -/
def Span.anyHolds (spans : List Span) (c : Char) : Bool :=
  spans.any fun span => span.1 ≤ c.toNat && c.toNat ≤ span.2

end SketchScreen.Text
