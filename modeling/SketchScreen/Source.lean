import SketchScreen.Number.Format
import SketchScreen.Text.Cut
import SketchScreen.Text.Space
import SketchScreen.Text.Word

/-!
# Source Text of Sketches

Before a sketch is run, the words for the size of the screen are replaced by numbers, wherever
they stand.  Then it is cut into lines; blank lines and comment lines are left out, and a
comment after the code of a line is cut off.

## Main Definitions

- `Source.mapWords`: replaces maximal runs of word characters.
- `Source.substitute`: writes the size of the screen into a sketch.
- `Source.stripComment`: a line without the comment after its code.
- `Source.lines`: the lines that hold code, with their numbers.
-/

namespace SketchScreen.Source

open SketchScreen.Text

/-- The word for the width of the screen. -/
def widthWord : List Char := "WIDTH".toList

/-- The word for the height of the screen. -/
def heightWord : List Char := "HEIGHT".toList

/-- Replaces every maximal run of word characters; `word` is the run that has been read so
far, the last character first. -/
def mapWordsFrom (replace : List Char → List Char) (word : List Char) : List Char → List Char
  | [] => if word.isEmpty then [] else replace word.reverse
  | c :: rest =>
    if isWord c then mapWordsFrom replace (c :: word) rest
    else (if word.isEmpty then [] else replace word.reverse) ++ c
      :: mapWordsFrom replace [] rest

/-- Replaces every maximal run of word characters and keeps the text between them. -/
def mapWords (replace : List Char → List Char) (cs : List Char) : List Char :=
  mapWordsFrom replace [] cs

/-- The text that stands for a word once the size of the screen is known. -/
def sizeWord (width height word : List Char) : List Char :=
  if word = widthWord then width else if word = heightWord then height else word

/-- Writes the size of the screen into a sketch, also inside texts and comments. -/
def substitute (width height : Number) (source : String) : Except NumberFault String := do
  let w ← width.writeCompact
  let h ← height.writeCompact
  return String.ofList (mapWords (sizeWord w.toList h.toList) source.toList)

/-- The lines of a text. -/
def splitLines (cs : List Char) : List (List Char) := cutAt '\n' cs

/-- What comment lines start with. -/
def commentStarts : List (List Char) := [['/', '/'], ['/', '*'], ['*']]

/-- Blank lines and comment lines hold no code. -/
def isSkipped (line : List Char) : Bool :=
  line.isEmpty || commentStarts.any fun start => start.isPrefixOf line

/-- A quote of either kind. -/
def isQuote (c : Char) : Bool := c == '"' || c == '\''

/-- The offset of the comment in a line, of which `offset` characters have been read.
A comment mark inside a text is part of the text; inside a text a backslash takes the
next character with it. -/
def commentOffset? (offset : Nat) (quote : Option Char) : List Char → Option Nat
  | [] => none
  | [_] => none
  | c :: next :: rest =>
    match quote with
    | some mark =>
      if c == '\\' then commentOffset? (offset + 2) quote rest
      else if c == mark then commentOffset? (offset + 1) none (next :: rest)
      else commentOffset? (offset + 1) quote (next :: rest)
    | none =>
      if isQuote c then commentOffset? (offset + 1) (some c) (next :: rest)
      else if c == '/' && next == '/' then some offset
      else commentOffset? (offset + 1) none (next :: rest)

/-- A line without the comment after its code. -/
def stripComment (line : List Char) : List Char :=
  match commentOffset? 0 none line with
  | some offset => trimRight (line.take offset)
  | none => line

/-- A line without the semicolon at its end. -/
def stripSemicolon (line : List Char) : List Char :=
  if line.getLast? == some ';' then trim line.dropLast else line

/-- The code of a line, if it holds any. -/
def codeOf? (raw : List Char) : Option (List Char) :=
  let line := trim raw
  if isSkipped line then none else some (stripSemicolon (stripComment line))

/-- The lines with code among the given ones, the first of which has the number `first`. -/
def numberedCode (first : Nat) : List (List Char) → List (Nat × List Char)
  | [] => []
  | raw :: rest =>
    match codeOf? raw with
    | some code => (first, code) :: numberedCode (first + 1) rest
    | none => numberedCode (first + 1) rest

/-- The lines that hold code, with their numbers counted from one. -/
def lines (source : List Char) : List (Nat × List Char) :=
  numberedCode 1 (splitLines source)

end SketchScreen.Source
