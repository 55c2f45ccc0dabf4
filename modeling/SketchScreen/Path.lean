import SketchScreen.Text.Cut

/-!
# Paths

Names of files, with the rules for their last part and its suffix.

## Main Definitions

- `Path`: the root and the parts of a path.
- `Path.ofText`, `Path.text`: reading and writing.
- `Path.name`, `Path.suffix`, `Path.withSuffix`: the last part.
- `Path.extension`: the suffix where dots at the start of a name are part of the name.
-/

namespace SketchScreen

/-- A path: what it starts from, and its parts. -/
structure Path where
  /-- Empty for a path that starts from the working directory, slashes otherwise. -/
  root : String
  parts : List String
deriving DecidableEq, Repr

namespace Path

/-- What a path starts from: two slashes are kept, more than two count as one. -/
def rootOf (cs : List Char) : String :=
  match (cs.takeWhile (· == '/')).length with
  | 0 => ""
  | 2 => "//"
  | _ => "/"

/-- The path that a text writes.  Empty parts and parts that stay where they are
do not count. -/
def ofText (s : String) : Path where
  root := rootOf s.toList
  parts := ((Text.cutAt '/' s.toList).map String.ofList).filter fun part =>
    !part.isEmpty && part != "."

/-- The text of a path. -/
def text (p : Path) : String :=
  if p.root.isEmpty && p.parts.isEmpty then "." else p.root ++ "/".intercalate p.parts

/-- The last part of a path. -/
def name (p : Path) : String := p.parts.getLast?.getD ""

/-- The part of a text from its last dot on, empty if there is none. -/
def fromLastDot (cs : List Char) : List Char :=
  match cs.reverse.dropWhile (· != '.') with
  | [] => []
  | _ :: before => cs.drop before.length

/-- The suffix of a name: what follows the last dot, the dot included, unless the dot is the
first or the last character. -/
def suffixOf (name : List Char) : List Char :=
  let tail := fromLastDot name
  if tail.length ≤ 1 || tail.length == name.length then [] else tail

/-- The suffix of the last part. -/
def suffix (p : Path) : String := String.ofList (suffixOf p.name.toList)

/-- The path with another suffix. -/
def withSuffix (p : Path) (suffix : String) : Path :=
  let name := p.name.toList
  let stem := name.take (name.length - (suffixOf name).length)
  { p with parts := p.parts.dropLast ++ [String.ofList stem ++ suffix] }

/-- What follows the last dot of the last part, the dot included, where dots at the start of
the part do not count. -/
def extension (p : Path) : String :=
  String.ofList (fromLastDot (p.name.toList.dropWhile (· == '.')))

end Path

end SketchScreen
