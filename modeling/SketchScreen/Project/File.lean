import SketchScreen.Json.Read
import SketchScreen.Json.Write
import SketchScreen.Project
import SketchScreen.Store
import SketchScreen.Text.Lower
import SketchScreen.Yaml.Write

/-!
# Project Files

Projects are stored in JSON or YAML; the suffix of a file tells which.

## Main Definitions

- `ProjectFormat`: the two formats.
- `Failure`: why a project cannot be loaded or saved, or a result not shown.
- `Project.load`, `Project.save`: reading and writing project files.

## Design Notes

Some failures are reported to whoever runs the command line; the others are none that
it expects, and stop it.
-/

namespace SketchScreen

/-- The formats of project files. -/
inductive ProjectFormat where
  | json
  | yaml
deriving DecidableEq, Repr

/-- The format that the suffix of a path stands for. -/
def ProjectFormat.ofPath? (path : Path) : Option ProjectFormat :=
  match Text.lower path.suffix with
  | ".json" => some json
  | ".yaml" | ".yml" => some yaml
  | _ => none

/-- Why a project cannot be loaded or saved, or a result cannot be stored or shown. -/
inductive Failure where
  /-- A value is no project. -/
  | project (fault : ProjectFault)
  /-- No file is at a path. -/
  | notFound (path : Path)
  /-- The suffix of a file stands for no format. -/
  | fileType (suffix : String)
  /-- A text is not in its format. -/
  | invalidJson (detail : String)
  | invalidYaml (detail : String)
  /-- A file cannot be read or written. -/
  | file (fault : FileFault)
  /-- The octets of a file are no text. -/
  | encoding (fault : Text.Utf8Fault)
  /-- A number of a text cannot be read or written. -/
  | number (fault : NumberFault)
  /-- A scalar of a text has no value of its kind. -/
  | scalar (fault : YamlFault)
  /-- A value cannot be written in JSON. -/
  | unwritable (fault : JsonWriteFault)
  /-- No kind of picture has the extension. -/
  | pictureType (extension : String)
  /-- A surface refuses to show a sketch. -/
  | surface (fault : Fault)
  /-- A project file is asked for without its name. -/
  | noProjectName
  /-- A text that is shown holds halves of characters. -/
  | unencodable (loose : Text.LooseHalf)
deriving DecidableEq

namespace Failure

/-- The wording of a failure. -/
def message : Failure → String
  | project fault => fault.message
  | notFound path => "File not found: " ++ path.text
  | fileType suffix => "Unsupported project file type: " ++ suffix
  | invalidJson detail => s!"Error loading file: Invalid JSON ({detail})"
  | invalidYaml detail => s!"Error loading file: Invalid YAML ({detail})"
  | file fault => fault.message
  | encoding fault => fault.message
  | number fault => fault.message
  | scalar fault => fault.message
  | unwritable fault => fault.message
  | pictureType extension => "unknown file extension: " ++ extension
  | surface fault => fault.message
  | noProjectName => "expected str, bytes or os.PathLike object, not list"
  | unencodable loose => loose.message

/-- Whether the command line reports a failure; it stops at any other. -/
def isReported : Failure → Bool
  | project (.number _) | file ⟨.zeroByte, _⟩ => false
  | project _ | notFound _ | fileType _ | invalidJson _ | invalidYaml _ | file _ => true
  | encoding _ | number _ | scalar _ | unwritable _ | pictureType _ | surface _
  | noProjectName | unencodable _ => false

end Failure

/-- The text of the file that a path leads to. -/
def Store.readText (store : Store) (path : Path) : Except Failure (List Char) := do
  let content ← (store.read path).mapError .file
  let cs ← match content with
    | .octets data => (Text.decodeUtf8 data).mapError .encoding
    | .text s => .ok s.toList
    | _ => .ok []
  return Text.unifyLines cs

namespace Project

/-- Whether a path is that of a project file. -/
def isProjectFile (path : Path) : Bool := (ProjectFormat.ofPath? path).isSome

/-- The value of a text in JSON. -/
def readJson (cs : List Char) : Except Failure Value :=
  match Json.read cs with
  | .ok value => .ok value
  | .error (.number fault) => .error (.number fault)
  | .error fault => .error (.invalidJson (fault.message cs))

/-- The value of a text in YAML. -/
def readYaml (cs : List Char) : Except Failure Value :=
  match Yaml.read cs with
  | .ok value => .ok value
  | .error (.number fault) => .error (.number fault)
  | .error (.syntactic problem place) =>
    .error (.invalidYaml (YamlFault.syntactic problem place).message)
  | .error fault => .error (.scalar fault)

/-- The value of a text in a format. -/
def readAs : ProjectFormat → List Char → Except Failure Value
  | .json => readJson
  | .yaml => readYaml

/-- The text of a value in a format. -/
def writeAs : ProjectFormat → Value → Except Failure String
  | .json, value =>
    match Json.write value with
    | .ok s => .ok s
    | .error (.number fault) => .error (.number fault)
    | .error fault => .error (.unwritable fault)
  | .yaml, value => (Yaml.write value).mapError .number

/-- The format of a project file. -/
def formatOf (path : Path) : Except Failure ProjectFormat :=
  match ProjectFormat.ofPath? path with
  | some format => .ok format
  | none => .error (.fileType path.suffix)

/-- Loads a project file. -/
def load (store : Store) (path : Path) : Except Failure Project := do
  let format ← formatOf path
  let cs ← store.readText path
  let value ← readAs format cs
  (ofValue value).mapError .project

/-- Saves a project at a given time. -/
def save (store : Store) (project : Project) (now : String) (path : Path) :
    Except Failure Store := do
  let format ← formatOf path
  let s ← writeAs format (.map (project.toPairs now))
  (store.write path (.text s)).mapError .file

end Project

end SketchScreen
