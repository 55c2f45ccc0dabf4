import SketchScreen.Diagnostic
import SketchScreen.Expr.Eval
import SketchScreen.Source

/-!
# Context of a Run

What a sketch can change while it runs, apart from the surface: its variables and the style of
its texts; and the diagnostics of the lines that failed.

## Main Definitions

- `Variable`, `Scope`: declared variables in the order of their first declaration.
- `TextStyle`: cursor, colour and size of texts.
- `Context`: the context of a run.
- `Context.create`: the context in which a run starts.
-/

namespace SketchScreen

/-- A declared variable.  Its kind is kept for display only. -/
structure Variable where
  name : String
  kind : String
  value : Number
deriving DecidableEq

/-- The variables of a run. -/
abbrev Scope := List Variable

namespace Scope

/-- The variable with a name. -/
def get? (scope : Scope) (name : String) : Option Variable :=
  scope.find? fun v => v.name == name

/-- The values of the variables. -/
def lookup (scope : Scope) : Lookup := fun name => (get? scope name).map Variable.value

/-- Declares a variable.  One that is declared again keeps its place. -/
def declare (kind name : String) (value : Number) : Scope → Scope
  | [] => [⟨name, kind, value⟩]
  | v :: rest =>
    if v.name == name then ⟨name, kind, value⟩ :: rest else v :: declare kind name value rest

end Scope

/-- The style of texts. -/
structure TextStyle where
  cursorX : Number
  cursorY : Number
  color : Color
  size : Number
deriving DecidableEq

namespace TextStyle

/-- The least size of texts. -/
def minSize : Number := 1

/-- The greatest size of texts. -/
def maxSize : Number := 10

/-- The height of a glyph of size one. -/
def baseHeight : Nat := 8

/-- The style in which a run starts. -/
def start : TextStyle := ⟨0, 0, .white, minSize⟩

/-- The height of glyphs. -/
def fontSize (style : TextStyle) : Number :=
  match style.size with
  | .int n => .int (baseHeight * n)
  | .float x => .float (8.0 * x)

/-- Sets the size of texts, brought into range. -/
def setSize (style : TextStyle) (size : Number) : TextStyle :=
  { style with size := minSize.max (maxSize.min size) }

/-- Moves the cursor. -/
def setCursor (style : TextStyle) (x y : Number) : TextStyle :=
  { style with cursorX := x, cursorY := y }

/-- Sets the colour of texts. -/
def setColor (style : TextStyle) (color : Color) : TextStyle :=
  { style with color := color }

/-- Moves the cursor down by one and a half glyphs. -/
def advanceLine (style : TextStyle) : Except NumberFault TextStyle := do
  let distance ← style.fontSize.mul (.float 1.5)
  let y ← style.cursorY.add distance
  return { style with cursorY := y }

end TextStyle

/-- The context of a run. -/
structure Context where
  width : Number
  height : Number
  scope : Scope
  style : TextStyle
  diagnostics : List Diagnostic
  /-- The lines of the sketch. -/
  sourceLines : List String
deriving DecidableEq

namespace Context

/-- The context in which a run of a sketch starts. -/
def create (width height : Number) (source : String) : Context where
  width := width
  height := height
  scope := []
  style := .start
  diagnostics := []
  sourceLines :=
    if source.isEmpty then [] else (Source.splitLines source.toList).map String.ofList

/-- The text of a line by its number. -/
def sourceLine? (context : Context) (line : Int) : Option String :=
  if 1 ≤ line then context.sourceLines[(line - 1).toNat]? else none

/-- Adds a diagnostic. -/
def report (context : Context) (d : Diagnostic) : Context :=
  { context with diagnostics := context.diagnostics ++ [d] }

/-- Adds the diagnostic of a line that failed. -/
def reportFault (context : Context) (line : Nat) (fault : Fault) : Context :=
  context.report (.ofFault fault line (context.sourceLine? line))

/-- Declares a variable. -/
def declare (context : Context) (kind name : String) (value : Number) : Context :=
  { context with scope := Scope.declare kind name value context.scope }

end Context

end SketchScreen
