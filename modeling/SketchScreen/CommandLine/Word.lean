import SketchScreen.CommandLine.Setting
import SketchScreen.Text.Cut
import SketchScreen.Text.Digit

/-!
# Words of a Command Line

Each word of a command line is a setting, a plain word, or the mark after which
all words are plain.

## Main Definitions

- `UsageProblem`: why a command line is not understood.
- `Word`: what a word stands for.
- `Word.classify`: a word among given settings.
- `Word.classifyAll`: all words of a command line.

## Design Notes

A long name may be cut short as long as only one setting is meant.  A value may follow
a name after an equals sign, and a short name directly; both count the same after a
short name.  A word that looks like a negative number, or has a blank in it, is plain
unless it names a setting.
-/

namespace SketchScreen.CommandLine

/-- Why a command line is not understood. -/
inductive UsageProblem where
  /-- Parts that have to be there are missing. -/
  | missing (names : List String)
  /-- A word is no task. -/
  | unknownTask (word : String)
  /-- A name is cut so short that several settings are meant. -/
  | ambiguous (word : String) (settings : List Setting)
  /-- The value of a setting is missing. -/
  | expectedValue (setting : Setting)
  /-- The value of a setting is no integer. -/
  | notAnInteger (setting : Setting) (value : String)
  /-- A setting has no value, and one is given. -/
  | ignoredValue (setting : Setting) (value : String)
  /-- Words are left over. -/
  | unrecognized (words : List String)
deriving DecidableEq, Repr

namespace UsageProblem

/-- The wording of a problem. -/
def message : UsageProblem → String
  | missing names => "the following arguments are required: " ++ ", ".intercalate names
  | unknownTask word =>
    let names := ", ".intercalate (Task.all.map fun task => Text.quote task.name)
    s!"argument action: invalid choice: {Text.quote word} (choose from {names})"
  | ambiguous word settings =>
    s!"ambiguous option: {word} could match "
      ++ ", ".intercalate (settings.map Setting.longName)
  | expectedValue setting => s!"argument {setting.label}: expected one argument"
  | notAnInteger setting value =>
    s!"argument {setting.label}: invalid int value: {Text.quote value}"
  | ignoredValue setting value =>
    s!"argument {setting.label}: ignored explicit argument {Text.quote value}"
  | unrecognized words => "unrecognized arguments: " ++ " ".intercalate words

end UsageProblem

/-- What a word stands for. -/
inductive Word where
  | plain (text : String)
  /-- The mark after which all words are plain. -/
  | mark
  /-- A setting by one of its names, maybe with a value. -/
  | setting (setting : Setting) (value : Option String)
  /-- A setting by its letter, and the text after it: its value, or further letters. -/
  | row (setting : Setting) (rest : List Char)
  /-- A name of no setting. -/
  | unknown (text : String)
deriving DecidableEq, Repr

namespace Word

/-- The text of the mark. -/
def markText : String := "--"

/-- Cuts a text at its first equals sign. -/
def splitValue (cs : List Char) : List Char × Option String :=
  match cs.dropWhile (· != '=') with
  | [] => (cs, none)
  | _ :: value => (cs.takeWhile (· != '='), some (String.ofList value))

/-- The setting with a short or long name. -/
def named? (settings : List Setting) (name : String) : Option Setting :=
  settings.find? fun s => s.shortName? == some name || s.longName == name

/-- The setting with a letter. -/
def lettered? (settings : List Setting) (c : Char) : Option Setting :=
  settings.find? fun s => s.letter? == some c

/-- The settings whose long names start with a text. -/
def startingWith (settings : List Setting) (cs : List Char) : List Setting :=
  settings.filter fun s => cs.isPrefixOf s.longName.toList

/-- Whether a text, which follows a minus sign, is a number: digits, or a point and digits
with maybe digits in front. -/
def isNumeral (cs : List Char) : Bool :=
  match cs.dropWhile Text.isDigit with
  | [] => !cs.isEmpty
  | '.' :: places => !places.isEmpty && places.all Text.isDigit
  | _ => false

/-- What a word that is the exact name of no setting stands for.  It starts with a dash. -/
def ofOther (text : String) (body : List Char) : Word :=
  if isNumeral (Text.dropFinalNewline body) || body.contains ' ' then plain text
  else unknown text

/-- What a word that starts with a dash stands for, where only a part of it can be a name. -/
def ofParts (settings : List Setting) (text : String) (body : List Char) :
    Except UsageProblem Word :=
  match body with
  | '-' :: _ =>
    let (name, value) := splitValue text.toList
    match startingWith settings name with
    | [] => .ok (ofOther text body)
    | [s] => .ok (setting s value)
    | several => .error (.ambiguous text several)
  | c :: rest =>
    match lettered? settings c with
    | some s => .ok (row s rest)
    | none => .ok (ofOther text body)
  | [] => .ok (plain text)

/-- A setting by an exact name with a value after an equals sign. -/
def ofValued (s : Setting) (name value : String) : Word :=
  if s.shortName? == some name && !value.isEmpty then row s value.toList
  else setting s (some value)

/-- What a word stands for among given settings. -/
def classify (settings : List Setting) (text : String) : Except UsageProblem Word :=
  match text.toList with
  | '-' :: body =>
    match named? settings text with
    | some s => .ok (setting s none)
    | none =>
      let (cs, value) := splitValue text.toList
      let name := String.ofList cs
      match value, named? settings name with
      | some v, some s => .ok (ofValued s name v)
      | _, _ => ofParts settings text body
  | _ => .ok (plain text)

/-- What the words of a command line stand for among given settings. -/
def classifyAll (settings : List Setting) : List String → Except UsageProblem (List Word)
  | [] => .ok []
  | text :: rest =>
    if text == markText then .ok (mark :: rest.map plain)
    else do
      let word ← classify settings text
      let words ← classifyAll settings rest
      return word :: words

end Word

end SketchScreen.CommandLine
