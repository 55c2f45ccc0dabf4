import SketchScreen.CommandLine.Parse
import SketchScreen.Preview
import SketchScreen.Project.File
import SketchScreen.Sketch.Render

/-!
# Running Tasks

A task reads and writes files, writes lines, and may open a window.  All this is a
value here: the files before and after, the texts that are written, and what the
window system is asked for.

## Main Definitions

- `Console`: the files, and what a task has written and shown.
- `Ending`: how a command line ends.
- `Job`: a part of a task, which may fail.
- `loadInput`: the project of a file with the size that replaces its own.
- `render`, `check`, `colors`, `save`: the tasks.
- `run`: a whole command line.

## Design Notes

A task whose input cannot be loaded, or whose project cannot be saved, reports the failure and
ends with status one.  Pictures and drawings are taken to be writable: a failure there, and
any failure that is never reported, ends the program.  What was written before it stays.

Lines are written in UTF-8, which has no halves of characters, and strictly: a line that holds
a half is a failure of its own and is not written.  What is written about failures has escapes
for halves instead.
-/

namespace SketchScreen

/-- A diagnostic as a value, without the text of its line. -/
def Diagnostic.toValue (d : Diagnostic) : Value :=
  .map [(.text "code", .text d.code), (.text "message", .text d.message),
    (.text "line", .number (.int d.line)), (.text "hints", .list (d.hints.map Value.text))]

/-- Diagnostics as a value, with their number. -/
def Diagnostic.listValue (ds : List Diagnostic) : Value :=
  .map [(.text "diagnostics", .list (ds.map Diagnostic.toValue)),
    (.text "error_count", .number (.int ds.length))]

namespace CommandLine

/-- The files, and what a task has written and shown. -/
structure Console where
  store : Store
  output : String
  errors : String
  /-- What the window system was asked for. -/
  windows : List WindowEvent

/-- How a command line ends. -/
inductive Ending where
  /-- With a status; zero if all went well. -/
  | status (code : Nat)
  /-- With a failure that is not reported. -/
  | failure (failure : Failure)
  /-- Without a task. -/
  | misuse (fault : UsageFault)
deriving DecidableEq

namespace Console

/-- Files before anything is written. -/
def start (store : Store) : Console := ⟨store, "", "", []⟩

/-- Writes a text. -/
def write (console : Console) (text : String) : Console :=
  { console with output := console.output ++ text }

/-- Writes a text about what went wrong, with escapes for halves of characters. -/
def writeError (console : Console) (text : String) : Console :=
  { console with errors := console.errors ++ Text.escapeHalves text }

end Console

/-- A part of a task: it changes the console, and gives a result or fails. -/
abbrev Job (α : Type) := ExceptT Failure (StateM Console) α

namespace Job

/-- Writes a line, unless it holds halves of characters. -/
def say (line : String) : Job Unit :=
  match Text.looseHalf? line with
  | none => modify fun console => console.write (line ++ "\n")
  | some loose => throw (.unencodable loose)

/-- Writes a line about what went wrong. -/
def complain (line : String) : Job Unit :=
  modify fun console => console.writeError (line ++ "\n")

/-- Changes the files. -/
def change (step : Store → Except Failure Store) : Job Unit := do
  let console ← get
  let store ← step console.store
  set { console with store := store }

/-- Goes on with the result of a job; a failure of it that is reported gives
status one instead. -/
def reporting {α : Type} (job : Job α) (next : α → Job Nat) : Job Nat :=
  ExceptT.mk fun console =>
    match job console with
    | (.ok result, console) => next result console
    | (.error failure, console) =>
      if failure.isReported then
        (.ok 1, console.writeError ("Error: " ++ failure.message ++ "\n"))
      else (.error failure, console)

/-- Does the job of a whole task. -/
def ending (job : Job Nat) (console : Console) : Console × Ending :=
  match job console with
  | (.ok code, console) => (console, .status code)
  | (.error failure, console) => (console, .failure failure)

end Job

/-! ## Input -/

/-- A side that may be replaced; one that lacks its value is an empty list. -/
def replaced (given : Option (Option Int)) (own : Int) : Value :=
  match given with
  | none => .number (.int own)
  | some none => .list []
  | some (some n) => .number (.int n)

/-- The project of a file: a project file, or a sketch. -/
def readProject (store : Store) (path : Path) : Except Failure Project :=
  if Project.isProjectFile path then Project.load store path
  else do
    let code ← store.readText path
    return Project.ofCode (String.ofList code)

/-- The project of a file with the size that replaces its own. -/
def loadInput (store : Store) (input : Input) : Except Failure Project := do
  let path := Path.ofText input.file
  if !(← (store.contains path).mapError Failure.file) then throw (.notFound path)
  let project ← readProject store path
  let (width, height) ← (Project.checkSize (replaced input.width project.width)
    (replaced input.height project.height)).mapError .project
  return { project with width := width, height := height }

/-- Loads the project of an input. -/
def Job.load (input : Input) : Job Project := do
  loadInput (← get).store input

/-- The screen of a project. -/
def rasterOf (project : Project) : Raster := ⟨project.width.toNat, project.height.toNat⟩

/-- Runs the sketch of a project on a new screen. -/
def runOnRaster (project : Project) : Except Failure (Machine Screen) :=
  (Sketch.onRaster (rasterOf project) (.int project.width) (.int project.height)
    project.code).mapError .number

/-- Runs the sketch of a project in a new drawing. -/
def runOnDrawing (project : Project) : Except Failure (Machine (Array Entity)) :=
  (Sketch.onDrawing (.int project.width) (.int project.height) project.code).mapError .surface

/-- The status of a run: one if there are diagnostics. -/
def statusOf (ds : List Diagnostic) : Nat := if ds.isEmpty then 0 else 1

/-! ## Tasks -/

/-- The extensions of pictures. -/
def pictureExtensions : List String := [".png", ".apng"]

/-- Where the picture of a file goes if nothing else is asked for. -/
def picturePath (input : Input) (rendering : Rendering) : Path :=
  match rendering.output with
  | some output =>
    if output.isEmpty then (Path.ofText input.file).withSuffix ".png" else Path.ofText output
  | none => (Path.ofText input.file).withSuffix ".png"

/-- Stores a picture; the extension has to be that of pictures. -/
def savePicture (path : Path) (picture : Picture) : Job Unit := do
  let extension := Text.lower path.extension
  if !pictureExtensions.contains extension then throw (.pictureType extension)
  Job.change fun store => (store.write path (.picture picture)).mapError .file

/-- Exports a sketch as a drawing. -/
def exportDrawing (project : Project) (name : String) : Job Unit := do
  let machine ← runOnDrawing project
  Job.change fun store =>
    (store.writeNamed name (.drawing machine.surface.toList)).mapError .file
  Job.say ("Exported to: " ++ name)

/-- Shows a screen in a window. -/
def showScreen (raster : Raster) (screen : Screen) (title : String) : Job Unit := do
  modify fun console => console.write Viewer.legend
  let events ← (Viewer.present raster screen.image title Viewer.defaultScale).mapError
    Failure.surface
  modify fun console => { console with windows := console.windows ++ events }

/-- Renders the sketch of a project to a picture, and to a drawing if one is asked for. -/
def renderProject (input : Input) (rendering : Rendering) (project : Project) : Job Nat := do
  let raster := rasterOf project
  let machine ← runOnRaster project
  let ds := machine.context.diagnostics
  ds.forM fun d => Job.complain d.brief
  let image := if rendering.grid then machine.surface.image.map (Viewer.gridded raster)
    else machine.surface.image
  let path := picturePath input rendering
  savePicture path ⟨raster.width, raster.height, image⟩
  Job.say s!"Rendered {project.width}x{project.height} to: {path.text}"
  match rendering.drawing with
  | some name => if !name.isEmpty then exportDrawing project name
  | none => pure ()
  if ds.isEmpty then Job.say "Rendering completed successfully!"
  else Job.complain s!"Rendering completed with {ds.length} error(s)"
  if rendering.preview then
    showScreen raster machine.surface ("tftsim - " ++ (Path.ofText input.file).name)
  return statusOf ds

/-- Renders a sketch. -/
def render (input : Input) (rendering : Rendering) : Job Nat :=
  Job.reporting (Job.load input) (renderProject input rendering)

/-- The lines that tell of a run. -/
def checkLines {σ : Type} (input : Input) (machine : Machine σ) : List String :=
  let ds := machine.context.diagnostics
  if ds.isEmpty then
    let count := machine.context.scope.length
    [s!"OK: {(Path.ofText input.file).name} - {count} variable(s), no errors"]
  else [s!"Check failed with {ds.length} error(s):", Diagnostic.report ds]

/-- Runs the sketch of a project and reports its diagnostics only. -/
def checkProject (input : Input) (json : Bool) (project : Project) : Job Nat := do
  let machine ← runOnRaster project
  let ds := machine.context.diagnostics
  if json then
    Job.say (← Project.writeAs .json (Diagnostic.listValue ds))
  else
    (checkLines input machine).forM Job.say
  return statusOf ds

/-- Checks a sketch. -/
def check (input : Input) (json : Bool) : Job Nat :=
  Job.reporting (Job.load input) (checkProject input json)

/-- A text padded with blanks at its end to a width. -/
def alignLeft (width : Nat) (text : String) : String :=
  String.ofList (text.toList ++ List.replicate (width - text.length) ' ')

/-- The line of a named colour, where names are padded to a width. -/
def colorLine (width : Nat) (name : String) (code : Nat) : String :=
  let color := Color.ofRgb565 code
  let digits := (Text.hexPadded 4 code).map Char.toUpper
  s!"{alignLeft width name}  0x{String.ofList digits}  {color.hex}  {color.text}"

/-- Lists the named colours. -/
def colors : Job Nat := do
  let width := (Color.constants.map fun constant => constant.1.length).foldl max 0
  Color.constants.forM fun constant => Job.say (colorLine width constant.1 constant.2)
  return 0

/-- Stores a sketch as a project at a given time. -/
def save (now : String) (input : Input) (project : Option String) : Job Nat :=
  let work : Job Path := do
    let loaded ← Job.load input
    match project with
    | none => throw .noProjectName
    | some name =>
      let path := Path.ofText name
      Job.change fun store => loaded.save store now path
      return path
  Job.reporting work fun path => do
    Job.say ("Project saved to: " ++ path.text)
    return 0

/-- The job of an invocation at a given time. -/
def Invocation.job (now : String) : Invocation → Job Nat
  | render input rendering => CommandLine.render input rendering
  | check input json => CommandLine.check input json
  | colors => CommandLine.colors
  | save input project => CommandLine.save now input project

/-- Does what a command line asks for at a given time. -/
def run (now : String) (store : Store) (texts : List String) : Console × Ending :=
  let console := Console.start store
  match Invocation.parse texts with
  | .ok invocation => (invocation.job now).ending console
  | .error (.help task) => (console.write (task.elim help Task.help), .status 0)
  | .error (.misuse fault) => (console, .misuse fault)

end CommandLine

end SketchScreen
