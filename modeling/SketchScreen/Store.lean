import SketchScreen.Image
import SketchScreen.Path
import SketchScreen.Surface.Drawing
import SketchScreen.Text.Utf8

/-!
# Files

The files that the command line reads and writes, as a value: files and directories by the
parts of their paths, and the directory from which paths start.

## Main Definitions

- `Content`: what a file holds.
- `FileFault`: why a file cannot be read or written.
- `Store`: files, directories and the working directory.
- `Store.read`, `Store.write`: reading and writing.

## Design Notes

Pictures and drawings are kept as what they show; the octets of their file formats are the
affair of the programs that read them.
-/

namespace SketchScreen

/-- A picture: its size, and its pixels if they are known. -/
structure Picture where
  width : Nat
  height : Nat
  image : Option Image
deriving DecidableEq

/-- What a file holds. -/
inductive Content where
  | octets (data : List UInt8)
  | text (s : String)
  | picture (p : Picture)
  | drawing (entities : List Entity)
deriving DecidableEq

/-- Why a file cannot be read or written. -/
inductive FileProblem where
  /-- It, or a directory on the way to it, does not exist. -/
  | missing
  /-- It is a directory. -/
  | directory
  /-- Something on the way to it is a file. -/
  | notDirectory
  /-- Its name, or a part of it, is too long. -/
  | tooLong
  /-- Its name holds the character that ends names. -/
  | zeroByte
deriving DecidableEq, Repr

namespace FileProblem

/-- The wording of a problem, with its number if it has one. -/
def text : FileProblem → String
  | missing => "[Errno 2] No such file or directory"
  | directory => "[Errno 21] Is a directory"
  | notDirectory => "[Errno 20] Not a directory"
  | tooLong => "[Errno 36] File name too long"
  | zeroByte => "embedded null byte"

/-- Whether a problem only shows that no file is there. -/
def isAbsence : FileProblem → Bool
  | tooLong => false
  | missing | directory | notDirectory | zeroByte => true

end FileProblem

/-- A file that cannot be read or written, by the name under which it is asked for. -/
structure FileFault where
  problem : FileProblem
  name : String
deriving DecidableEq, Repr

/-- The wording of a fault.  A name that is no name at all is not shown. -/
def FileFault.message (f : FileFault) : String :=
  match f.problem with
  | .zeroByte => f.problem.text
  | problem => s!"{problem.text}: {Text.quote f.name}"

/-- Files and directories by the parts of their paths from the root. -/
structure Store where
  /-- The working directory. -/
  place : List String
  files : List (List String × Content)
  directories : List (List String)

namespace Store

/-- The content of a file. -/
def file? (store : Store) (parts : List String) : Option Content := store.files.lookup parts

/-- Whether parts lead to a directory. -/
def isDirectory (store : Store) (parts : List String) : Bool :=
  parts.isPrefixOf store.place || store.directories.any parts.isPrefixOf
    || store.files.any fun (file, _) => parts.isPrefixOf file && parts != file

/-- The greatest number of bytes of a part of a name. -/
def partLimit : Nat := 255

/-- The number of bytes that no name reaches. -/
def nameLimit : Nat := 4096

/-- Follows parts from a directory; a part may lead back to the directory above. -/
def follow (store : Store) (place : List String) : List String →
    Except FileProblem (List String)
  | [] => .ok place
  | part :: rest =>
    if store.isDirectory place then
      if partLimit < part.utf8ByteSize then .error .tooLong
      else follow store (if part == ".." then place.dropLast else place ++ [part]) rest
    else if (store.file? place).isSome then .error .notDirectory
    else .error .missing

/-- Whether a name can be that of a file at all. -/
def checkName (name : String) : Except FileProblem Unit :=
  if name.toList.contains '\x00' then .error .zeroByte
  else if nameLimit ≤ name.utf8ByteSize then .error .tooLong
  else .ok ()

/-- The parts that a path leads to. -/
def resolve (store : Store) (path : Path) : Except FileProblem (List String) := do
  checkName path.text
  store.follow (if path.root.isEmpty then store.place else []) path.parts

/-- Whether a path leads to a file or a directory. -/
def contains (store : Store) (path : Path) : Except FileFault Bool :=
  match store.resolve path with
  | .ok parts => .ok (store.isDirectory parts || (store.file? parts).isSome)
  | .error problem => if problem.isAbsence then .ok false else .error ⟨problem, path.text⟩

/-- The content of the file at some parts. -/
def readAt (store : Store) (parts : List String) : Except FileProblem Content :=
  if store.isDirectory parts then .error .directory
  else
    match store.file? parts with
    | some content => .ok content
    | none => .error .missing

/-- The content of the file that a path leads to. -/
def read (store : Store) (path : Path) : Except FileFault Content :=
  (store.resolve path >>= store.readAt).mapError fun problem => ⟨problem, path.text⟩

/-- Replaces or adds a file. -/
def put (parts : List String) (content : Content) :
    List (List String × Content) → List (List String × Content)
  | [] => [(parts, content)]
  | (file, old) :: rest =>
    if file == parts then (file, content) :: rest else (file, old) :: put parts content rest

/-- Writes a file at some parts; the directory that it is in has to exist. -/
def writeAt (store : Store) (content : Content) (parts : List String) :
    Except FileProblem Store :=
  if store.isDirectory parts then .error .directory
  else if store.isDirectory parts.dropLast then
    .ok { store with files := put parts content store.files }
  else if (store.file? parts.dropLast).isSome then .error .notDirectory
  else .error .missing

/-- Writes the file that a path leads to. -/
def write (store : Store) (path : Path) (content : Content) : Except FileFault Store :=
  (store.resolve path >>= store.writeAt content).mapError fun problem => ⟨problem, path.text⟩

/-- Whether a name ends with a dot that stands for the directory before it. -/
def endsWithDot (name : String) : Bool :=
  ((Text.cutAt '/' name.toList).filter fun part => !part.isEmpty).getLast? == some ['.']

/-- Writes a file by a name that is taken as it stands.  A name that ends with a slash or
with a dot of its own can only be that of a directory, which no file is written to; before
a dot it has to exist. -/
def writeNamed (store : Store) (name : String) (content : Content) : Except FileFault Store :=
  let path := Path.ofText name
  let result := do
    checkName name
    let parts ← store.resolve path
    if endsWithDot name && !store.isDirectory parts then
      .error (if (store.file? parts).isSome then .notDirectory else .missing)
    else
      let written ← store.writeAt content parts
      if name.toList.getLast? == some '/' then .error .directory else .ok written
  result.mapError fun problem => ⟨problem, name⟩

end Store

end SketchScreen
