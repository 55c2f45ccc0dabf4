import SketchScreen.Value

/-!
# Projects

A project is a sketch together with the size of its screen.  It is stored as a map, which may
hold further entries; they are kept.

## Main Definitions

- `Project`: a sketch, its size, and what else is stored with it.
- `ProjectFault`: why a value is no project.
- `Project.checkSize`: a size of whole numbers in range.
- `Project.ofValue`, `Project.toPairs`: a project from a value, and as the pairs of a map.

## Design Notes

A size that is infinite cannot be converted at all; this is a fault of numbers
and not of projects.
-/

namespace SketchScreen

/-- A sketch with the size of its screen. -/
structure Project where
  code : String
  width : Int
  height : Int
  /-- When the project was stored, as a value of any kind; null if it is not known. -/
  timestamp : Value
  /-- The pairs that are stored with it and are not its own. -/
  extra : List (Value × Value)

/-- Why a value is no project. -/
inductive ProjectFault where
  /-- The size is not made of whole numbers. -/
  | size (width height : String)
  /-- The size is out of range. -/
  | range
  /-- The value is no map. -/
  | noMap
  /-- The sketch is no text. -/
  | codeKind
  /-- A number cannot be converted or shown. -/
  | number (fault : NumberFault)
deriving DecidableEq, Repr

namespace Project

/-- The width of a screen for which none is given. -/
def defaultWidth : Int := 240

/-- The height of a screen for which none is given. -/
def defaultHeight : Int := 320

/-- The least side of a screen. -/
def minSide : Int := 1

/-- The greatest side of a screen. -/
def maxSide : Int := 1920

end Project

/-- The wording of a fault. -/
def ProjectFault.message : ProjectFault → String
  | size width height => s!"Invalid dimensions: {width} x {height}"
  | range =>
    s!"Invalid dimensions. Width and height must be between {Project.minSide} and "
      ++ s!"{Project.maxSide}."
  | noMap => "Project file must contain a mapping"
  | codeKind => "Project 'code' must be a string"
  | number fault => fault.message

namespace Project

/-- The project of a sketch with the usual size. -/
def ofCode (code : String) : Project := ⟨code, defaultWidth, defaultHeight, .null, []⟩

/-! ## Sizes -/

/-- Whether a value is equal to an integer. -/
def isInteger (value : Value) (n : Int) : Bool :=
  value.numeric?.any fun m => m.eq (.int n)

/-- Whether a side is in range. -/
def inRange (n : Int) : Bool := minSide ≤ n && n ≤ maxSide

/-- The fault of a size that is not made of whole numbers. -/
def sizeFault {α : Type} (width height : Value) : Except ProjectFault α :=
  match width.shown, height.shown with
  | .ok w, .ok h => .error (.size w h)
  | .error fault, _ => .error (.number fault)
  | .ok _, .error fault => .error (.number fault)

/-- The integer part of a side; nothing for a value that has none.  An infinity is a fault. -/
def side? (value : Value) : Except ProjectFault (Option Int) :=
  match value.toInt with
  | .ok n => .ok (some n)
  | .error (.number fault) => if fault.rejectsValue then .ok none else .error (.number fault)
  | .error _ => .ok none

/-- The size that two values give: both are whole numbers in range.  The second value is not
looked at if the first has no integer part. -/
def checkSize (width height : Value) : Except ProjectFault (Int × Int) := do
  match ← side? width with
  | none => sizeFault width height
  | some w =>
    match ← side? height with
    | none => sizeFault width height
    | some h =>
      if !(isInteger width w && isInteger height h) then sizeFault width height
      else if inRange w && inRange h then return (w, h)
      else .error .range

/-! ## Maps -/

/-- The keys of a project's own entries. -/
def ownKeys : List String := ["code", "width", "height", "timestamp"]

/-- Whether a key is that of one of a project's own entries. -/
def isOwnKey (key : Value) : Bool :=
  ownKeys.any fun name => Value.sameKey key (.text name)

/-- The value of a key, or a default if it is missing or does not count as given. -/
def fieldOr (name : String) (default : Value) (pairs : List (Value × Value)) : Value :=
  match Value.field? name pairs with
  | some value => if value.isTruthy then value else default
  | none => default

/-- The project that a value stores. -/
def ofValue : Value → Except ProjectFault Project
  | .map pairs => do
    let extra := pairs.filter fun pair => !isOwnKey pair.1
    let width := fieldOr "width" (.number (.int defaultWidth)) pairs
    let height := fieldOr "height" (.number (.int defaultHeight)) pairs
    let (w, h) ← checkSize width height
    match fieldOr "code" (.text "") pairs with
    | .text code => return ⟨code, w, h, (Value.field? "timestamp" pairs).getD .null, extra⟩
    | _ => .error .codeKind
  | _ => .error .noMap

/-- The pairs of the map that stores a project at a given time. -/
def toPairs (project : Project) (now : String) : List (Value × Value) :=
  let stamp := if project.timestamp.isTruthy then project.timestamp else .text now
  let own : List (Value × Value) := [(.text "code", .text project.code),
    (.text "width", .number (.int project.width)),
    (.text "height", .number (.int project.height)),
    (.text "timestamp", stamp)]
  own.foldl (fun pairs pair => Value.insert pair.1 pair.2 pairs) project.extra

end Project

end SketchScreen
