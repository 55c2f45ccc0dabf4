import SketchScreen.CommandLine.Run
import SketchScreen.Image.Png
import SketchScreen.Surface.Exchange
import Std.Time.DateTime.Timestamp

/-!
# The Program

Reads the files that a command line names, does what it asks for, and writes the files that
change.  No window system is attached, so a preview ends where its window would open.
-/

namespace SketchScreen.CommandLine

/-- The names of files in an invocation. -/
def Invocation.fileNames : Invocation → List String
  | .render input rendering =>
    [input.file, (picturePath input rendering).text] ++ rendering.drawing.toList
  | .check input _ => [input.file]
  | .colors => []
  | .save input project => input.file :: project.toList

/-- Adds what the file system has on the way to a path. -/
def gather (store : Store) (path : Path) : IO Store := do
  let here ← IO.currentDir
  let mut store := store
  for k in List.range (path.parts.length + 1) do
    let start : Path := { path with parts := path.parts.take k }
    let real := here / start.text
    if let .ok parts := store.resolve start then
      if ← real.isDir then
        store := { store with directories := store.directories ++ [parts] }
      else if ← real.pathExists then
        let data ← IO.FS.readBinFile real
        store := { store with files := Store.put parts (.octets data.toList) store.files }
  return store

/-- The octets of a file; there are none for a picture whose pixels are not known. -/
def octetsOf : Content → Option ByteArray
  | .octets data => some ⟨data.toArray⟩
  | .text s => some s.toUTF8
  | .picture p => p.image.map Image.toPng
  | .drawing entities => some (Drawing.write entities).toUTF8

/-- Writes the files that differ from those before. -/
def writeChanged (before after : Store) : IO Unit :=
  after.files.forM fun (parts, content) => do
    if before.file? parts != some content then
      let name := "/" ++ "/".intercalate parts
      match octetsOf content with
      | some data => IO.FS.writeBinFile name data
      | none => IO.eprintln s!"{name}: the pixels of this picture are not known"

/-- The time that the clock shows. -/
def currentTime : IO String := do
  let now ← Std.Time.Timestamp.now
  let nanoseconds := now.toNanosecondsSinceUnixEpoch.val
  return (Moment.ofMicroseconds (nanoseconds / 1000).toNat).iso

/-- Does what the words of a command line ask for. -/
def perform (texts : List String) : IO UInt32 := do
  let here := (Path.ofText (← IO.currentDir).toString).parts
  let names := match Invocation.parse texts with
    | .ok invocation => invocation.fileNames
    | .error _ => []
  let store ← names.foldlM (fun store name => gather store (Path.ofText name)) ⟨here, [], []⟩
  let (console, ending) := run (← currentTime) store texts
  writeChanged store console.store
  IO.print console.output
  IO.eprint console.errors
  match ending with
  | .status code => return code.toUInt32
  | .failure failure =>
    IO.eprintln (Text.escapeHalves failure.message)
    return 1
  | .misuse fault =>
    IO.eprintln (Text.escapeHalves (fault.usage ++ fault.message))
    return 2

end SketchScreen.CommandLine

/-- The program. -/
def main (texts : List String) : IO UInt32 :=
  SketchScreen.CommandLine.perform texts
