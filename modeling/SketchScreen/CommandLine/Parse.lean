import SketchScreen.CommandLine.Word
import SketchScreen.Number.Decimal

/-!
# Reading a Command Line

A command line names a task, and after it a file and settings in any order.

## Main Definitions

- `Invocation`: a task with everything that it needs.
- `Stop`: why there is none.
- `Scan.step`: one of the words after the name of a task.
- `Task.parse`: the words after the name of a task.
- `Invocation.parse`: a whole command line.

## Design Notes

Words are handled from left to right, and the first problem counts; only a name that is cut
too short is found before all others.  Words that nothing takes are set aside, and are a
problem once everything else is in order.

The mark is never a value: where it stands as the value of a setting it is dropped, and the
setting is given without a value.  A setting that names a file then counts as not given,
except that a project file has to be named; a side without a value is no size.
-/

namespace SketchScreen.CommandLine

/-- A file with the size that replaces its own; a side that is given may lack its value. -/
structure Input where
  file : String
  width : Option (Option Int)
  height : Option (Option Int)
deriving DecidableEq, Repr

/-- What a picture is stored as and shown with. -/
structure Rendering where
  output : Option String
  drawing : Option String
  grid : Bool
  preview : Bool
deriving DecidableEq, Repr

/-- A task with everything that it needs. -/
inductive Invocation where
  | render (input : Input) (rendering : Rendering)
  | check (input : Input) (json : Bool)
  | colors
  /-- The project file may lack its name. -/
  | save (input : Input) (project : Option String)
deriving DecidableEq, Repr

/-- A command line that is not understood; the task, if its words are the problem. -/
structure UsageFault where
  task : Option Task
  problem : UsageProblem
deriving DecidableEq, Repr

namespace UsageFault

/-- The wording of a fault. -/
def message (f : UsageFault) : String :=
  let program := f.task.elim programName fun task => programName ++ " " ++ task.name
  s!"{program}: error: {f.problem.message}"

/-- The explanation that stands above the wording of a fault. -/
def usage (f : UsageFault) : String := f.task.elim CommandLine.usage Task.usage

end UsageFault

/-- Why a command line gives no task to do. -/
inductive Stop where
  /-- An explanation is asked for, of a task or of the program. -/
  | help (task : Option Task)
  | misuse (fault : UsageFault)
deriving DecidableEq, Repr

/-! ## Settings and their values -/

/-- Settings with their values; the value is empty for a setting that has none. -/
abbrev Pairs := List (Setting × String)

/-- The settings that a word gives. -/
structure Given where
  pairs : Pairs
  /-- The last of the settings, if its value is the next word. -/
  awaiting : Option Setting
deriving DecidableEq, Repr

namespace Given

/-- The setting of a name without a value in its word. -/
def bare (s : Setting) : Given :=
  if s.takesValue then ⟨[], some s⟩ else ⟨[(s, "")], none⟩

/-- The setting of a name with a value in its word. -/
def valued (s : Setting) (value : String) : Except UsageProblem Given :=
  if s.takesValue then .ok ⟨[(s, value)], none⟩ else .error (.ignoredValue s value)

/-- The settings of a row of letters, of which only the last may have a value: the rest of the
row, or the next word. -/
def ofRow (settings : List Setting) (s : Setting) : List Char → Except UsageProblem Given
  | [] => .ok (bare s)
  | c :: row =>
    if s.takesValue then valued s (String.ofList (c :: row))
    else
      match Word.lettered? settings c with
      | none => .error (.ignoredValue s (String.ofList (c :: row)))
      | some t => do
        let given ← ofRow settings t row
        return { given with pairs := (s, "") :: given.pairs }

/-- The settings of a name with or without a value in its word. -/
def ofName (s : Setting) : Option String → Except UsageProblem Given
  | none => .ok (bare s)
  | some value => valued s value

end Given

/-! ## Words in turn -/

/-- What the next word is looked at for. -/
inductive Expectation where
  | anything
  /-- The value of a setting, which comes after other settings of its word. -/
  | value (before : Pairs) (setting : Setting)
  /-- The file was the last word. -/
  | afterFile
  /-- The mark was the last word, and no file is known. -/
  | fileAfterMark
deriving DecidableEq, Repr

/-- What is known of a task after some of its words. -/
structure Scan where
  file : Option String
  width : Option (Option Int)
  height : Option (Option Int)
  output : Option String
  drawing : Option String
  project : Option (Option String)
  grid : Bool
  preview : Bool
  json : Bool
  /-- Words that nothing takes. -/
  extras : List String
  expectation : Expectation
deriving DecidableEq, Repr

/-- Why the words of a task end before all of them are handled. -/
inductive Halt where
  | help
  | problem (problem : UsageProblem)
deriving DecidableEq, Repr

namespace Scan

/-- Nothing is known before the first word. -/
def start : Scan := ⟨none, none, none, none, none, none, false, false, false, [], .anything⟩

/-- Sets a word aside. -/
def setAside (scan : Scan) (word : String) : Scan :=
  { scan with extras := scan.extras ++ [word], expectation := .anything }

/-- The value that is given to a setting, unless it is the mark. -/
def kept? (value : String) : Option String :=
  if value == Word.markText then none else some value

/-- The integer that is the value of a setting. -/
def integer (s : Setting) (value : String) : Except Halt Int :=
  match Number.readInt value with
  | .ok n => .ok n
  | .error _ => .error (.problem (.notAnInteger s value))

/-- The side that is given to a setting. -/
def side (s : Setting) (value : String) : Except Halt (Option Int) :=
  (kept? value).mapM (integer s)

/-- Follows a setting. -/
def follow (scan : Scan) (s : Setting) (value : String) : Except Halt Scan :=
  match s with
  | .help => .error .help
  | .width => do return { scan with width := some (← side s value) }
  | .height => do return { scan with height := some (← side s value) }
  | .output => .ok { scan with output := kept? value }
  | .drawing => .ok { scan with drawing := kept? value }
  | .project => .ok { scan with project := some (kept? value) }
  | .grid => .ok { scan with grid := true }
  | .preview => .ok { scan with preview := true }
  | .json => .ok { scan with json := true }

/-- Follows settings in turn. -/
def followAll (scan : Scan) (pairs : Pairs) : Except Halt Scan :=
  pairs.foldlM (fun scan pair => scan.follow pair.1 pair.2)
    { scan with expectation := .anything }

/-- Follows the settings of a word, unless a value is awaited. -/
def take (scan : Scan) (given : Except UsageProblem Given) : Except Halt Scan :=
  match given with
  | .error problem => .error (.problem problem)
  | .ok ⟨pairs, some s⟩ => .ok { scan with expectation := .value pairs s }
  | .ok ⟨pairs, none⟩ => scan.followAll pairs

/-- Whether a task still lacks its file. -/
def lacksFile (task : Task) (scan : Scan) : Bool := task.takesFile && scan.file.isNone

/-- One word, where no value is awaited. -/
def stepFree (task : Task) (scan : Scan) : Word → Except Halt Scan
  | .unknown text => .ok (scan.setAside text)
  | .setting s value => scan.take (Given.ofName s value)
  | .row s rest => scan.take (Given.ofRow task.settings s rest)
  | .plain text =>
    if scan.lacksFile task then
      let next := if scan.expectation == .fileAfterMark then .anything else .afterFile
      .ok { scan with file := some text, expectation := next }
    else .ok (scan.setAside text)
  | .mark =>
    if scan.lacksFile task then .ok { scan with expectation := .fileAfterMark }
    else if scan.expectation == .afterFile then .ok { scan with expectation := .anything }
    else .ok (scan.setAside Word.markText)

/-- One word. -/
def step (task : Task) (scan : Scan) (word : Word) : Except Halt Scan :=
  match scan.expectation, word with
  | .value before s, .plain text => scan.followAll (before ++ [(s, text)])
  | .value _ s, _ => .error (.problem (.expectedValue s))
  | _, word => stepFree task scan word

/-- The end of the words. -/
def finish (scan : Scan) : Except Halt Scan :=
  match scan.expectation with
  | .value _ s => .error (.problem (.expectedValue s))
  | .fileAfterMark => .ok (scan.setAside Word.markText)
  | _ => .ok scan

/-- All words of a task. -/
def all (task : Task) (words : List Word) : Except Halt Scan := do
  let scan ← words.foldlM (step task) start
  scan.finish

/-- The input that a scan gives. -/
def input (scan : Scan) (file : String) : Input := ⟨file, scan.width, scan.height⟩

/-- The names of the parts that a task lacks. -/
def lacking (task : Task) (scan : Scan) : List String :=
  (if scan.lacksFile task then ["file"] else [])
    ++ (if task == .save && scan.project.isNone then [Setting.project.label] else [])

/-- The task that a scan gives, if nothing is lacking. -/
def invocation? (task : Task) (scan : Scan) : Option Invocation :=
  match task with
  | .colors => some .colors
  | .render => scan.file.map fun file =>
      .render (scan.input file) ⟨scan.output, scan.drawing, scan.grid, scan.preview⟩
  | .check => scan.file.map fun file => .check (scan.input file) scan.json
  | .save => scan.file.bind fun file => scan.project.map fun project =>
      .save (scan.input file) project

end Scan

/-- The invocation of a task by its words, and the words that nothing takes. -/
def Task.parse (task : Task) (texts : List String) :
    Except Halt (Invocation × List String) := do
  let words ← (Word.classifyAll task.settings texts).mapError .problem
  let scan ← Scan.all task words
  match scan.invocation? task with
  | some invocation => return (invocation, scan.extras)
  | none => .error (.problem (.missing (scan.lacking task)))

/-! ## Whole command lines -/

namespace Invocation

/-- The settings before the name of a task. -/
def leadingSettings : List Setting := [.help]

/-- The task that a text names, and what its words give. -/
def ofTask (extras : List String) (name : String) (texts : List String) :
    Except Stop Invocation :=
  match Task.ofName? name with
  | none => .error (.misuse ⟨none, .unknownTask name⟩)
  | some task =>
    match task.parse texts with
    | .error .help => .error (.help (some task))
    | .error (.problem problem) => .error (.misuse ⟨some task, problem⟩)
    | .ok (invocation, rest) =>
      match extras ++ rest with
      | [] => .ok invocation
      | unused => .error (.misuse ⟨none, .unrecognized unused⟩)

/-- The fault of a command line without a task. -/
def noTask : Stop := .misuse ⟨none, .missing ["action"]⟩

/-- The end of a command line by a setting before the name of a task: it asks
for an explanation. -/
def stopAt (given : Except UsageProblem Given) : Except Stop Invocation :=
  match given with
  | .ok _ => .error (.help none)
  | .error problem => .error (.misuse ⟨none, problem⟩)

/-- The invocation of a command line of which some words are set aside.  The mark is taken for
the name of a task, except at the end. -/
def parseFrom (extras : List String) : List String → Except Stop Invocation
  | [] => .error noTask
  | text :: rest =>
    if text == Word.markText then
      if rest.isEmpty then .error noTask else ofTask extras text rest
    else
      match Word.classify leadingSettings text with
      | .ok (.unknown text) => parseFrom (extras ++ [text]) rest
      | .ok (.setting s value) => stopAt (Given.ofName s value)
      | .ok (.row s row) => stopAt (Given.ofRow leadingSettings s row)
      | .ok _ => ofTask extras text rest
      | .error problem => .error (.misuse ⟨none, problem⟩)

/-- The invocation of a command line. -/
def parse (texts : List String) : Except Stop Invocation := parseFrom [] texts

end Invocation

end SketchScreen.CommandLine
