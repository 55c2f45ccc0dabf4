/-!
# Cutting Texts

Sketches are cut into lines, and paths into parts.

## Main Definitions

- `cutAt`: the parts of a text between marks.
- `dropFinalNewline`: a text without the newline at its end.
-/

namespace SketchScreen.Text

/-- The parts of a text between the characters that are marks; there is always
at least one part. -/
def cutAt (mark : Char) : List Char → List (List Char)
  | [] => [[]]
  | c :: rest =>
    if c == mark then [] :: cutAt mark rest
    else
      match cutAt mark rest with
      | part :: parts => (c :: part) :: parts
      | [] => [[c]]

/-- A text without the newline at its end. -/
def dropFinalNewline (cs : List Char) : List Char :=
  if cs.getLast? == some '\n' then cs.dropLast else cs

end SketchScreen.Text
