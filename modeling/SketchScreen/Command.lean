import SketchScreen.Surface
import SketchScreen.Value

/-!
# Commands

The commands that a sketch may call, with the kinds of their parameters.

## Main Definitions

- `Command`: the commands.
- `ParamKind`, `Parameter`: what a command takes.
- `Arguments`: values that fit a list of kinds.
- `Command.bind`: fits the arguments of a call to a command.
- `Action`, `Command.action`: what a call does.

## Design Notes

The type of fitted arguments follows the kinds of the parameters, so an action
always finds what it needs.
-/

namespace SketchScreen

/-- The kinds of parameters. -/
inductive ParamKind where
  | number
  | color
  | text
deriving DecidableEq, Repr

namespace ParamKind

/-- The name of a kind. -/
def label : ParamKind → String
  | number => "number"
  | color => "color"
  | text => "text"

/-- The type of the values of a kind. -/
abbrev Carrier : ParamKind → Type
  | number => Number
  | color => Color
  | text => String

end ParamKind

/-- A parameter of a command. -/
structure Parameter where
  name : String
  kind : ParamKind
deriving DecidableEq, Repr

/-- A parameter by its name: `color` and `text` are of the kind they are called,
all others are numbers. -/
def Parameter.ofName (name : String) : Parameter :=
  ⟨name, if name = "color" then .color else if name = "text" then .text else .number⟩

/-- Values that fit a list of parameters. -/
def Arguments : List Parameter → Type
  | [] => Unit
  | p :: rest => p.kind.Carrier × Arguments rest

/-- A fitted value of any kind. -/
inductive BoundValue where
  | number (n : Number)
  | color (c : Color)
  | text (s : String)
deriving DecidableEq

/-- A value of a kind as a fitted value. -/
def BoundValue.ofCarrier : (kind : ParamKind) → kind.Carrier → BoundValue
  | .number, n => number n
  | .color, c => color c
  | .text, s => text s

/-- Fitted arguments as a list. -/
def Arguments.toList : (parameters : List Parameter) → Arguments parameters → List BoundValue
  | [], _ => []
  | p :: rest, (value, values) => BoundValue.ofCarrier p.kind value :: toList rest values

/-- The commands. -/
inductive Command where
  | fillScreen
  | fillRect
  | drawRect
  | fillRoundRect
  | drawRoundRect
  | fillCircle
  | drawCircle
  | drawLine
  | fillTriangle
  | drawTriangle
  | drawString
  | setTextColor
  | setTextSize
  | setCursor
  | println
deriving DecidableEq, Repr

namespace Command

/-- All commands. -/
def all : List Command :=
  [fillScreen, fillRect, drawRect, fillRoundRect, drawRoundRect, fillCircle, drawCircle,
    drawLine, fillTriangle, drawTriangle, drawString, setTextColor, setTextSize, setCursor,
    println]

/-- The name of a command. -/
def name : Command → String
  | fillScreen => "fillScreen"
  | fillRect => "fillRect"
  | drawRect => "drawRect"
  | fillRoundRect => "fillRoundRect"
  | drawRoundRect => "drawRoundRect"
  | fillCircle => "fillCircle"
  | drawCircle => "drawCircle"
  | drawLine => "drawLine"
  | fillTriangle => "fillTriangle"
  | drawTriangle => "drawTriangle"
  | drawString => "drawString"
  | setTextColor => "setTextColor"
  | setTextSize => "setTextSize"
  | setCursor => "setCursor"
  | println => "println"

/-- The command with a name. -/
def ofName? (text : String) : Option Command :=
  all.find? fun command => command.name == text

/-- The names of the parameters of a command. -/
abbrev parameterNames : Command → List String
  | fillScreen => ["color"]
  | fillRect | drawRect => ["x", "y", "w", "h", "color"]
  | fillRoundRect | drawRoundRect => ["x", "y", "w", "h", "r", "color"]
  | fillCircle | drawCircle => ["x", "y", "r", "color"]
  | drawLine => ["x0", "y0", "x1", "y1", "color"]
  | fillTriangle | drawTriangle => ["x0", "y0", "x1", "y1", "x2", "y2", "color"]
  | drawString => ["text", "x", "y"]
  | setTextColor => ["color"]
  | setTextSize => ["size"]
  | setCursor => ["x", "y"]
  | println => ["text"]

/-- The parameters of a command. -/
abbrev parameters (command : Command) : List Parameter :=
  command.parameterNames.map Parameter.ofName

/-- The number of arguments that a command requires. -/
def arity (command : Command) : Nat := command.parameters.length

/-- What a command does, in a few words. -/
def summary : Command → String
  | fillScreen => "Fill the whole screen"
  | fillRect => "Filled rectangle"
  | drawRect => "Rectangle outline"
  | fillRoundRect => "Filled rectangle with rounded corners"
  | drawRoundRect => "Rounded rectangle outline"
  | fillCircle => "Filled circle"
  | drawCircle => "Circle outline"
  | drawLine => "Straight line"
  | fillTriangle => "Filled triangle"
  | drawTriangle => "Triangle outline"
  | drawString => "Draw text at a position with the current style"
  | setTextColor => "Set the text color"
  | setTextSize => "Set the text size (1-10)"
  | setCursor => "Move the text cursor"
  | println => "Draw text at the cursor and move to the next line"

/-! ## Fitting arguments -/

/-- The fault of a call with too few arguments. -/
def countFault (command : Command) : Fault :=
  .argumentCount command.name command.arity command.parameterNames

/-- Fits a value to a parameter. -/
def bindValue (command : Command) (p : Parameter) (value : Value) :
    Except Fault p.kind.Carrier :=
  match p.kind with
  | .number =>
    match value.number? with
    | some n => .ok n
    | none => do .error (.argumentType command.name p.name (← Fault.liftNumber value.shown))
  | .color => .ok value.toColor
  | .text => Fault.liftNumber value.asText

/-- Fits values to parameters, from the left; values beyond the parameters are ignored. -/
def bindValues (command : Command) :
    (parameters : List Parameter) → List Value → Except Fault (Arguments parameters)
  | [], _ => .ok ()
  | _ :: _, [] => .error command.countFault
  | p :: parameters, value :: values => do
    let first ← bindValue command p value
    let rest ← bindValues command parameters values
    return (first, rest)

/-- Fits the arguments of a call to a command. -/
def bind (command : Command) (values : List Value) :
    Except Fault (Arguments command.parameters) :=
  if values.length < command.arity then .error command.countFault
  else bindValues command command.parameters values

end Command

/-! ## Actions -/

/-- What a call does. -/
inductive Action where
  /-- Draws a shape. -/
  | draw (shape : Shape)
  /-- Draws a text at a place. -/
  | write (text : String) (location : Point Number)
  /-- Draws a text at the cursor and moves the cursor down. -/
  | writeLine (text : String)
  | setColor (color : Color)
  | setSize (size : Number)
  | setCursor (x y : Number)
deriving DecidableEq

/-- What a call of a command does. -/
def Command.action : (command : Command) → Arguments command.parameters → Action
  | .fillScreen, (color, ()) => .draw (.screen color)
  | .fillRect, (x, y, w, h, color, ()) => .draw (.primitive (.fillRect x y w h color))
  | .drawRect, (x, y, w, h, color, ()) => .draw (.primitive (.drawRect x y w h color))
  | .fillRoundRect, (x, y, w, h, r, color, ()) => .draw (.roundRect true x y w h r color)
  | .drawRoundRect, (x, y, w, h, r, color, ()) => .draw (.roundRect false x y w h r color)
  | .fillCircle, (x, y, r, color, ()) => .draw (.circle true ⟨x, y⟩ r color)
  | .drawCircle, (x, y, r, color, ()) => .draw (.circle false ⟨x, y⟩ r color)
  | .drawLine, (x0, y0, x1, y1, color, ()) =>
    .draw (.primitive (.drawLine ⟨x0, y0⟩ ⟨x1, y1⟩ color))
  | .fillTriangle, (x0, y0, x1, y1, x2, y2, color, ()) =>
    .draw (.triangle true ⟨x0, y0⟩ ⟨x1, y1⟩ ⟨x2, y2⟩ color)
  | .drawTriangle, (x0, y0, x1, y1, x2, y2, color, ()) =>
    .draw (.triangle false ⟨x0, y0⟩ ⟨x1, y1⟩ ⟨x2, y2⟩ color)
  | .drawString, (text, x, y, ()) => .write text ⟨x, y⟩
  | .setTextColor, (color, ()) => .setColor color
  | .setTextSize, (size, ()) => .setSize size
  | .setCursor, (x, y, ()) => .setCursor x y
  | .println, (text, ()) => .writeLine text

end SketchScreen
