import SketchScreen.Argument
import SketchScreen.Command
import SketchScreen.Sketch.Context
import SketchScreen.Statement

/-!
# Running Sketches

A sketch is run line by line.  A line that fails is reported, and the run goes
on with the next line.

## Main Definitions

- `Machine`: the context of a run together with the state of the surface.
- `Machine.perform`, `Machine.callCommand`, `Machine.execute`: an action, a call
  and a statement.
- `Machine.step`: a statement with its line; a fault becomes a diagnostic.
- `Sketch.trace`: the machine after each statement.
- `Sketch.run`: the machine after a whole sketch.
- `Sketch.render`: a run on a cleared screen.

## Design Notes

A statement changes the machine step by step and may stop at any point, so
executing one gives the machine as it then stands, together with the fault if there
is one.  Nothing is rolled back.
-/

namespace SketchScreen

/-- The value of an argument. -/
def Argument.toValue : Argument → Value
  | number n => .number n
  | text s => .text s

/-- The context of a run together with the state of the surface. -/
structure Machine (σ : Type) where
  context : Context
  surface : σ

namespace Machine

variable {σ : Type}

/-- Draws on the surface of a machine. -/
def draw (machine : Machine σ) (drawing : σ → σ × Option Fault) : Machine σ × Option Fault :=
  match drawing machine.surface with
  | (state, fault) => (⟨machine.context, state⟩, fault)

/-- Draws a text in the current style. -/
def drawText (surface : Surface σ) (machine : Machine σ) (text : String)
    (location : Point Number) : Machine σ × Option Fault :=
  let style := machine.context.style
  machine.draw (surface.draw (.drawText text location style.color style.fontSize))

/-- Gives texts a new style. -/
def setStyle (machine : Machine σ) (style : TextStyle) : Machine σ :=
  { machine with context := { machine.context with style := style } }

/-- Moves the cursor down by one line. -/
def advanceLine (machine : Machine σ) : Machine σ × Option Fault :=
  match machine.context.style.advanceLine with
  | .error fault => (machine, some fault)
  | .ok style => (machine.setStyle style, none)

/-- Performs an action. -/
def perform (surface : Surface σ) (machine : Machine σ) : Action → Machine σ × Option Fault
  | .draw shape => machine.draw (surface.drawShape shape)
  | .write text location => drawText surface machine text location
  | .writeLine text =>
    let style := machine.context.style
    match drawText surface machine text ⟨style.cursorX, style.cursorY⟩ with
    | (machine, some fault) => (machine, some fault)
    | (machine, none) => machine.advanceLine
  | .setColor color => (machine.setStyle (machine.context.style.setColor color), none)
  | .setSize size => (machine.setStyle (machine.context.style.setSize size), none)
  | .setCursor x y => (machine.setStyle (machine.context.style.setCursor x y), none)

/-- The action of a call by the name of the command. -/
def actionOf (name : String) (values : List Value) : Except Fault Action :=
  match Command.ofName? name with
  | none => .error (.unknownCommand name)
  | some command => do
    let arguments ← command.bind values
    return command.action arguments

/-- Calls a command by its name. -/
def callCommand (surface : Surface σ) (machine : Machine σ) (name : String)
    (values : List Value) : Machine σ × Option Fault :=
  match actionOf name values with
  | .error fault => (machine, some fault)
  | .ok action => perform surface machine action

/-- Gives a variable the value of an expression. -/
def declare (machine : Machine σ) (kind name expression : String) :
    Machine σ × Option Fault :=
  match evaluate machine.context.scope.lookup expression with
  | .error fault => (machine, some fault)
  | .ok value => ({ machine with context := machine.context.declare kind name value }, none)

/-- Executes a statement. -/
def execute (surface : Surface σ) (machine : Machine σ) : Statement → Machine σ × Option Fault
  | .declaration kind name expression => machine.declare kind name expression
  | .call command arguments =>
    match Argument.readAll machine.context.scope.lookup arguments with
    | .error fault => (machine, some fault)
    | .ok values => callCommand surface machine command (values.map Argument.toValue)

/-- Reports the fault that stopped a line, if there is one. -/
def settle (line : Nat) : Machine σ × Option Fault → Machine σ
  | (machine, none) => machine
  | (machine, some fault) =>
    { machine with context := machine.context.reportFault line fault }

/-- Executes the statement of a line; a fault is reported. -/
def step (surface : Surface σ) (machine : Machine σ) (line : Nat) (statement : Statement) :
    Machine σ :=
  settle line (execute surface machine statement)

end Machine

namespace Sketch

variable {σ : Type}

/-- The statements of a sketch with the numbers of their lines. -/
def statements (source : List Char) : List (Nat × Statement) :=
  (Statement.ofSource source).filterMap fun (number, _, statement) =>
    statement.map fun s => (number, s)

/-- The machine after each of the statements. -/
def trace (surface : Surface σ) (machine : Machine σ) :
    List (Nat × Statement) → List (Nat × Machine σ)
  | [] => []
  | (line, statement) :: rest =>
    let next := machine.step surface line statement
    (line, next) :: trace surface next rest

/-- The machine after all of the statements. -/
def runStatements (surface : Surface σ) (machine : Machine σ)
    (statements : List (Nat × Statement)) : Machine σ :=
  statements.foldl (fun m s => m.step surface s.1 s.2) machine

/-- A sketch with the size of the screen written into it, and the machine that runs it. -/
def load (width height : Number) (source : String) (state : σ) :
    Except NumberFault (String × Machine σ) := do
  let source ← Source.substitute width height source
  return (source, ⟨Context.create width height source, state⟩)

/-- Runs a sketch on a surface. -/
def run (surface : Surface σ) (width height : Number) (source : String) (state : σ) :
    Except NumberFault (Machine σ) := do
  let (source, machine) ← load width height source state
  return runStatements surface machine (statements source.toList)

/-- Runs a sketch on a surface that is cleared first. -/
def render (surface : Surface σ) (width height : Number) (source : String) (state : σ) :
    Except Fault (Machine σ) :=
  match surface.clear state with
  | (_, some fault) => .error fault
  | (state, none) => Fault.liftNumber (run surface width height source state)

end Sketch

end SketchScreen
