import SketchScreen.Project

/-!
# Tasks and Settings

What the command line can be asked for: a task, and the settings that each task takes.

## Main Definitions

- `Task`: the tasks with their names.
- `Setting`: the settings with their short and long names.
- `Task.settings`, `Task.takesFile`: what a task takes.
- `Task.usage`, `Task.help`, `usage`, `help`: how tasks are explained.
-/

namespace SketchScreen.CommandLine

/-- What the command line can be asked for. -/
inductive Task where
  /-- Stores the picture of a sketch. -/
  | render
  /-- Reports the faults of a sketch. -/
  | check
  /-- Lists the named colours. -/
  | colors
  /-- Stores a sketch as a project. -/
  | save
deriving DecidableEq, Repr

namespace Task

/-- The tasks. -/
def all : List Task := [render, check, colors, save]

/-- The name of a task. -/
def name : Task → String
  | render => "render"
  | check => "check"
  | colors => "colors"
  | save => "save"

/-- The task with a name. -/
def ofName? (name : String) : Option Task := all.find? fun task => task.name == name

/-- Whether a task works on a file. -/
def takesFile : Task → Bool
  | colors => false
  | _ => true

end Task

/-- The settings of tasks. -/
inductive Setting where
  | help
  | width
  | height
  /-- Where the picture goes. -/
  | output
  /-- Where the drawing goes. -/
  | drawing
  /-- Whether the picture has a grid. -/
  | grid
  /-- Whether a window is opened. -/
  | preview
  /-- Whether faults are reported in JSON. -/
  | json
  /-- Where the project goes. -/
  | project
deriving DecidableEq, Repr

namespace Setting

/-- The letter of a setting. -/
def letter? : Setting → Option Char
  | help => some 'h'
  | width => some 'W'
  | height => some 'H'
  | output => some 'o'
  | project => some 'p'
  | drawing | grid | preview | json => none

/-- The word of a setting. -/
def word : Setting → String
  | help => "help"
  | width => "width"
  | height => "height"
  | output => "output"
  | drawing => "dxf"
  | grid => "grid"
  | preview => "show"
  | json => "json"
  | project => "project"

/-- The long name of a setting. -/
def longName (s : Setting) : String := "--" ++ s.word

/-- The short name of a setting. -/
def shortName? (s : Setting) : Option String := s.letter?.map fun c => String.ofList ['-', c]

/-- All names of a setting, as they stand in messages. -/
def label (s : Setting) : String :=
  "/".intercalate (s.shortName?.toList ++ [s.longName])

/-- Whether a setting has a value. -/
def takesValue : Setting → Bool
  | width | height | output | drawing | project => true
  | help | grid | preview | json => false

end Setting

namespace Task

/-- The settings that a task takes. -/
def settings : Task → List Setting
  | render => [.help, .width, .height, .output, .drawing, .grid, .preview]
  | check => [.help, .width, .height, .json]
  | colors => [.help]
  | save => [.help, .width, .height, .project]

end Task

/-! ## Explanations -/

/-- What the program is called. -/
def programName : String := "python -m tftsim.dsl"

/-- A list of lines as a text. -/
def lines (ls : List String) : String := String.join (ls.map (· ++ "\n"))

/-- How the program is called. -/
def usage : String :=
  lines [s!"usage: {programName} [-h] \x7brender,check,colors,save\x7d ..."]

/-- The explanation of the program. -/
def help : String :=
  usage ++ lines [
    "",
    "TFT_eSPI drawing simulator",
    "",
    "positional arguments:",
    "  \x7brender,check,colors,save\x7d",
    "    render              Render a program to an image",
    "    check               Report errors without saving output",
    "    colors              List color constants",
    "    save                Save source as a project file",
    "",
    "options:",
    "  -h, --help            show this help message and exit"]

namespace Task

/-- How a task is called. -/
def usage : Task → String
  | render => lines [
      s!"usage: {programName} render [-h] [-W WIDTH] [-H HEIGHT] [-o FILE]",
      "                                   [--dxf FILE] [--grid] [--show]",
      "                                   file"]
  | check => lines [s!"usage: {programName} check [-h] [-W WIDTH] [-H HEIGHT] [--json] file"]
  | colors => lines [s!"usage: {programName} colors [-h]"]
  | save => lines [s!"usage: {programName} save [-h] [-W WIDTH] [-H HEIGHT] -p FILE file"]

/-- The explanation of the settings that only one task has. -/
def ownHelp : Task → List String
  | render => [
      "  -o FILE, --output FILE",
      "                        PNG output (default: FILE with .png suffix)",
      "  --dxf FILE            Also export a DXF drawing",
      "  --grid                Overlay a 10 pixel grid on the image",
      "  --show                Open a preview window"]
  | check => ["  --json                Print diagnostics as JSON"]
  | colors => []
  | save => [
      "  -p FILE, --project FILE",
      "                        Project file to write (.json, .yaml)"]

/-- The explanation of a task. -/
def help (task : Task) : String :=
  let body := if task.takesFile then [
      "",
      "positional arguments:",
      "  file                  Program source or .json/.yaml project file",
      "",
      "options:",
      "  -h, --help            show this help message and exit",
      "  -W WIDTH, --width WIDTH",
      s!"                        Screen width in pixels (default {Project.defaultWidth})",
      "  -H HEIGHT, --height HEIGHT",
      s!"                        Screen height in pixels (default {Project.defaultHeight})"]
    else ["", "options:", "  -h, --help  show this help message and exit"]
  task.usage ++ lines (body ++ task.ownHelp)

end Task

end SketchScreen.CommandLine
