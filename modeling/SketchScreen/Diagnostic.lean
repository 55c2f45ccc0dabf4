import SketchScreen.Fault

/-!
# Diagnostics

Every statement that fails is reported with its line.

## Main Definitions

- `Diagnostic`: a report about one line.
- `Diagnostic.ofFault`: the report of a fault.
- `Diagnostic.brief`, `Diagnostic.full`: its text, alone or with the line and the hints.
- `Diagnostic.report`: the text of a list of reports with their number.
-/

namespace SketchScreen

/-- A report about one line of a sketch. -/
structure Diagnostic where
  code : String
  message : String
  /-- The number of the line, zero if it is not known. -/
  line : Int
  /-- The text of the line. -/
  sourceLine : Option String
  hints : List String
deriving DecidableEq, Repr

namespace Diagnostic

/-- The report of a fault of a line. -/
def ofFault (fault : Fault) (line : Int) (sourceLine : Option String) : Diagnostic :=
  ⟨fault.code, fault.message, line, sourceLine, fault.hints⟩

/-- A text padded with blanks in front to a width. -/
def alignRight (width : Nat) (text : String) : String :=
  String.ofList (List.replicate (width - text.length) ' ' ++ text.toList)

/-- The report in one line. -/
def brief (d : Diagnostic) : String := s!"Line {d.line}: {d.message}"

/-- The report with the text of the line and the hints. -/
def full (d : Diagnostic) : String :=
  let shownLine := d.sourceLine.elim [] fun text =>
    [alignRight 4 s!"{d.line}" ++ " | " ++ text]
  let shownHints := d.hints.map fun hint => "     = hint: " ++ hint
  "\n".intercalate (d.brief :: (shownLine ++ shownHints))

/-- A list of reports in the given form, closed by their number; nothing if there are none. -/
def reportWith (form : Diagnostic → String) (ds : List Diagnostic) : String :=
  if ds.isEmpty then ""
  else "\n".intercalate (ds.map form ++ [s!"{ds.length} error(s)"])

/-- A list of full reports, closed by their number. -/
def report (ds : List Diagnostic) : String := reportWith full ds

end Diagnostic

end SketchScreen
