import SketchScreen.Proofs.Forms
import SketchScreen.Proofs.Operand
import SketchScreen.Proofs.Run

/-!
# Scripts and their Texts

A script is a sketch apart from its text: a list of declarations and calls.  It can be
executed as it is, without reading anything.  Written out, one statement a line, it is a
sketch, and to run that sketch is to execute the script.

## Main Definitions

- `Script.Line`, `Script`: declarations and calls, and lists of them.
- `Script.Line.run`, `Script.execute`: the machine after a line, and after a script.
- `Script.Line.write`, `Script.text`: the text of a line, and that of a script.
- `Statement.declarationLine`, `Statement.callLine`: the lines that declare and that call.

## Design Notes

The machine is the one that runs sketches, so that both sides end in the same variables, the
same style, the same diagnostics and the same surface; but a script declares values of
formulas and calls commands with values of operands, and its faults are reported with the
texts that it would have.
-/

namespace SketchScreen

open SketchScreen.Text

/-! ## Scripts -/

namespace Script

/-- A word, such as the name of a command. -/
structure Word where
  text : List Char
  nonempty : text ≠ []
  isWord : ∀ c ∈ text, isWord c = true

/-- A line of a script. -/
inductive Line where
  /-- A variable gets the value of a formula. -/
  | declare (kind : String) (known : kind ∈ Statement.typeKeywords) (name : Identifier)
      (formula : Formula)
  /-- A command is called with operands. -/
  | call (command : Word) (operands : List Operand)

end Script

/-- The names in a formula. -/
def Formula.words : Formula → List (List Char)
  | literal _ _ => []
  | name x => [x.text]
  | unary _ operand => operand.words
  | binary _ left right => left.words ++ right.words

/-- The name that an operand is, or the runs of word characters in its text. -/
def Operand.words : Operand → List (List Char)
  | integer _ _ => []
  | text cs _ => Source.wordRuns cs
  | color x _ => [x.text]
  | reference x _ => [x.text]

/-- The words that a line is made of, those in its texts included. -/
def Script.Line.words : Script.Line → List (List Char)
  | declare _ _ name formula => name.text :: formula.words
  | call command operands => command.text :: operands.flatMap Operand.words

/-- A list of lines that hold no word for the size of the screen. -/
structure Script where
  lines : List Script.Line
  sizeless : ∀ line ∈ lines, ∀ word ∈ line.words, ¬ Source.IsSizeWord word

namespace Script

/-! ## Writing -/

namespace Line

/-- The code of a line. -/
def code : Line → List Char
  | declare kind _ name formula =>
    kind.toList ++ ' ' :: (name.text ++ ' ' :: '=' :: ' ' :: formula.write .sum)
  | call command operands =>
    Statement.receiver ++ (command.text ++ '(' :: (Operand.writeAll operands ++ [')']))

/-- The text of a line. -/
def write (line : Line) : List Char := line.code ++ [';']

end Line

/-- The text of a script. -/
def text (script : Script) : String :=
  String.ofList (['\n'].intercalate (script.lines.map Line.write))

/-! ## Execution -/

variable {σ : Type}

namespace Line

/-- Executes a line. -/
def execute (surface : Surface σ) (machine : Machine σ) : Line → Machine σ × Option Fault
  | declare kind _ name formula =>
    match formula.value (String.ofList (formula.write .sum)) machine.context.scope.lookup with
    | .error fault => (machine, some fault)
    | .ok value =>
      ({ machine with
        context := machine.context.declare kind (String.ofList name.text) value }, none)
  | call command operands =>
    Machine.callCommand surface machine (String.ofList command.text)
      (operands.map fun operand => (operand.value machine.context.scope.lookup).toValue)

/-- Executes a line with its number; a fault is reported together with the text
of the line. -/
def run (surface : Surface σ) (machine : Machine σ) (number : Nat) (line : Line) :
    Machine σ :=
  match line.execute surface machine with
  | (after, none) => after
  | (after, some fault) =>
    { after with
      context :=
        after.context.report (.ofFault fault number (some (String.ofList line.write))) }

end Line

/-- Executes lines from the first to the last, the first of which has a number. -/
def executeFrom (surface : Surface σ) (machine : Machine σ) (number : Nat) :
    List Line → Machine σ
  | [] => machine
  | line :: lines => executeFrom surface (line.run surface machine number) (number + 1) lines

/-- The machine on which a script is executed. -/
def start (width height : Int) (script : Script) (state : σ) : Machine σ where
  context :=
    { width := .int width
      height := .int height
      scope := []
      style := .start
      diagnostics := []
      sourceLines := script.lines.map fun line => String.ofList line.write }
  surface := state

/-- Executes a script. -/
def execute (surface : Surface σ) (width height : Int) (script : Script) (state : σ) :
    Machine σ :=
  executeFrom surface (start width height script state) 1 script.lines

end Script

/-! ## What is written is inert -/

open Source (IsInert IsSizeWord)

namespace Formula

theorem isInert_parenthesize {cs : List Char} (needed : Bool) (h : IsInert cs) :
    IsInert (parenthesize needed cs) := by
  cases needed with
  | false => exact h
  | true => exact IsInert.nil.join (by decide) (h.join (by decide) .nil)

theorem isInert_decimalDigits (n : Nat) : IsInert (Number.decimalDigits n) := by
  refine .word (fun c => Number.isWord_of_mem_decimalDigits) ?_
  rintro (same | same)
  · exact absurd (@Number.isDigit_of_mem_decimalDigits n 'W' (by rw [same]; decide))
      (by decide)
  · exact absurd (@Number.isDigit_of_mem_decimalDigits n 'H' (by rw [same]; decide))
      (by decide)

/-- The text of a formula is inert; a slash in it is followed by a blank. -/
theorem isInert_write {f : Formula} (h : ∀ word ∈ f.words, ¬ IsSizeWord word) (s : Stratum) :
    IsInert (f.write s) := by
  induction f generalizing s with
  | literal n short => exact isInert_decimalDigits n
  | name x => exact .word (fun c => x.isWord_of_mem) (h x.text (by simp [words]))
  | unary sign operand ih =>
      refine isInert_parenthesize _ (IsInert.nil.join ?_ (ih h .signed))
      cases sign <;> decide
  | binary operator left right ihLeft ihRight =>
      simp only [words, List.forall_mem_append] at h
      have hleft := ihLeft h.1 operator.stratum
      have hright := ihRight h.2 operator.rightStratum
      refine isInert_parenthesize _ (hleft.join (by decide) ?_)
      cases operator with
      | add => exact IsInert.nil.join (by decide) (IsInert.nil.join (by decide) hright)
      | sub => exact IsInert.nil.join (by decide) (IsInert.nil.join (by decide) hright)
      | mul => exact IsInert.nil.join (by decide) (IsInert.nil.join (by decide) hright)
      | div => exact IsInert.nil.join_slash hright

end Formula

namespace Operand

theorem isInert_write {operand : Operand} (h : ∀ word ∈ operand.words, ¬ IsSizeWord word) :
    IsInert operand.write := by
  cases operand with
  | integer n short =>
      have digits := Formula.isInert_decimalDigits n.natAbs
      rw [write, Number.intDigits]
      split
      · exact IsInert.nil.join (by decide) digits
      · exact digits
  | text cs plain => exact .quoted rfl plain h
  | color x named => exact .word (fun c => x.isWord_of_mem) (h x.text (by simp [words]))
  | reference x unnamed => exact .word (fun c => x.isWord_of_mem) (h x.text (by simp [words]))

theorem isInert_writeAll {operands : List Operand}
    (h : ∀ word ∈ operands.flatMap words, ¬ IsSizeWord word) :
    IsInert (writeAll operands) := by
  induction operands with
  | nil => exact .nil
  | cons first operands ih =>
      rw [List.flatMap_cons, List.forall_mem_append] at h
      have head := isInert_write h.1
      have tail := ih h.2
      cases operands with
      | nil => simpa [writeAll] using head
      | cons second operands =>
          have joined := head.join (c := ',') (by decide)
            (IsInert.nil.join (c := ' ') (by decide) tail)
          simpa [writeAll, List.intercalate_cons_cons] using joined

end Operand

namespace Statement

/-- The line of a declaration. -/
def declarationLine (kind : String) (name : Identifier) (value : List Char) : List Char :=
  kind.toList ++ ' ' :: (name.text ++ ' ' :: '=' :: ' ' :: value) ++ [';']

/-- The line of a call. -/
def callLine (command : Script.Word) (arguments : List Char) : List Char :=
  receiver ++ (command.text ++ '(' :: (arguments ++ [')'])) ++ [';']

/-- The words that declare are none for the size. -/
theorem not_isSizeWord_of_mem_typeKeywords :
    ∀ kind ∈ typeKeywords, ¬ IsSizeWord kind.toList := by decide

theorem isInert_declarationLine {kind : String} (known : kind ∈ typeKeywords)
    {name : Identifier} (sizeless : ¬ IsSizeWord name.text) {value : List Char}
    (h : IsInert value) :
    IsInert (declarationLine kind name value) := by
  have keyword : IsInert kind.toList := .word (isWord_of_mem_typeKeywords known)
    (not_isSizeWord_of_mem_typeKeywords kind known)
  have declared : IsInert name.text := .word (fun c => name.isWord_of_mem) sizeless
  have expression := h.join (c := ';') (by decide) .nil
  have value := IsInert.nil.join (c := '=') (by decide)
    (IsInert.nil.join (c := ' ') (by decide) expression)
  have joined := keyword.join (c := ' ') (by decide)
    (declared.join (c := ' ') (by decide) value)
  simpa [declarationLine] using joined

theorem isInert_callLine {command : Script.Word} (sizeless : ¬ IsSizeWord command.text)
    {arguments : List Char} (h : IsInert arguments) :
    IsInert (callLine command arguments) := by
  have receiver : IsInert ['t', 'f', 't'] := .word (List.all_eq_true.mp rfl) (by decide)
  have called : IsInert command.text := .word command.isWord sizeless
  have arguments :=
    h.join (c := ')') (by decide) (IsInert.nil.join (c := ';') (by decide) .nil)
  have joined := receiver.join (c := '.') (by decide)
    (called.join (c := '(') (by decide) arguments)
  simpa [callLine, Statement.receiver] using joined

end Statement

/-- The text of a line is inert. -/
theorem Script.Line.isInert_write {line : Line} (h : ∀ word ∈ line.words, ¬ IsSizeWord word) :
    IsInert line.write := by
  cases line with
  | declare kind known name formula =>
      rw [words, List.forall_mem_cons] at h
      exact Statement.isInert_declarationLine known h.1 (Formula.isInert_write h.2 .sum)
  | call command operands =>
      rw [words, List.forall_mem_cons] at h
      exact Statement.isInert_callLine h.1 (Operand.isInert_writeAll h.2)

/-! ## The code of a line -/

/-- Code that is closed by a semicolon is found again, if it starts with a word and holds no
comment. -/
theorem Source.codeOf?_append_semicolon {code : List Char} (trimmed : IsTrimmed code)
    (word : ∀ c ∈ code.head?, isWord c = true) (inert : IsInert (code ++ [';'])) :
    codeOf? (code ++ [';']) = some code := by
  obtain ⟨first, rest, rfl⟩ := List.exists_cons_of_ne_nil trimmed.ne_nil
  have start : isWord first = true := word first rfl
  have whole : trim (first :: rest ++ [';']) = first :: rest ++ [';'] :=
    (trimmed.append (.singleton (c := ';') (by decide)) []).trim_eq
  have kept : isSkipped (first :: rest ++ [';']) = false := by
    have slash : first ≠ '/' := ne_of_isWord start (by decide)
    have star : first ≠ '*' := ne_of_isWord start (by decide)
    simp [isSkipped, commentStarts, List.isPrefixOf_cons_cons, Ne.symm slash, Ne.symm star]
  have offset : commentOffset? 0 none (first :: rest ++ [';']) = none := by
    have passed := inert.uncommented 0 []
    rw [List.append_nil] at passed
    rw [passed, commentOffset?]
  have uncommented : stripComment (first :: rest ++ [';']) = first :: rest ++ [';'] := by
    rw [stripComment, offset]
  have closed : stripSemicolon (first :: rest ++ [';']) = first :: rest := by
    rw [stripSemicolon, List.dropLast_concat, trimmed.trim_eq, List.getLast?_concat]
    rfl
  simp only [codeOf?, whole, kept, uncommented, closed]
  rfl

namespace Statement

/-- **A declaration is recognised.** -/
theorem classify_declaration {kind : String} (known : kind ∈ typeKeywords) (name : Identifier)
    {value : List Char} (trimmed : IsTrimmed value) (oneLine : '\n' ∉ value) :
    classify (kind.toList ++ ' ' :: (name.text ++ ' ' :: '=' :: ' ' :: value))
      = some (.declaration kind (String.ofList name.text) (String.ofList value)) := by
  have newline : '\n' ∉ kind.toList ++ ' ' :: (name.text ++ ' ' :: '=' :: ' ' :: value) := by
    have keyword : '\n' ∉ kind.toList := fun mem =>
      absurd (isWord_of_mem_typeKeywords known _ mem) (by decide)
    have named : '\n' ∉ name.text := fun mem => absurd (name.isWord_of_mem mem) (by decide)
    simp [keyword, named, oneLine]
  rw [classify_eq_declaration_iff newline]
  exact ⟨⟨kind, [' '], name.text, [' '], ' ' :: value, known, by simp, rfl, name.isName, rfl,
    by simp⟩, rfl, rfl, rfl, congrArg String.ofList trimmed.trim_eq⟩

/-- The line of a declaration is read as one. -/
theorem ofLine?_declarationLine {kind : String} (known : kind ∈ typeKeywords)
    {name : Identifier} (sizeless : ¬ IsSizeWord name.text) {value : List Char}
    (trimmed : IsTrimmed value) (h : IsInert value) :
    ofLine? (declarationLine kind name value)
      = some (.declaration kind (String.ofList name.text) (String.ofList value)) := by
  have nonempty := toList_ne_nil_of_mem_typeKeywords known
  have word := isWord_of_mem_typeKeywords known
  have ends := (IsTrimmed.of_isWord nonempty word).append trimmed
    (' ' :: (name.text ++ [' ', '=', ' ']))
  rw [ofLine?, declarationLine, Source.codeOf?_append_semicolon (by simpa using ends) ?_
    (isInert_declarationLine known sizeless h), Option.bind_some]
  · exact classify_declaration known name trimmed h.oneLine
  · intro c mem
    rw [List.head?_append_of_ne_nil _ nonempty] at mem
    exact word c (List.mem_of_mem_head? mem)

/-- The line of a call is read as one. -/
theorem ofLine?_callLine {command : Script.Word} (sizeless : ¬ IsSizeWord command.text)
    {arguments : List Char} (h : IsInert arguments) :
    ofLine? (callLine command arguments)
      = some (.call (String.ofList command.text) (String.ofList arguments)) := by
  have ends := (IsTrimmed.singleton (c := 't') (by decide)).append
    (IsTrimmed.singleton (c := ')') (by decide))
    ('f' :: 't' :: '.' :: (command.text ++ '(' :: arguments))
  rw [ofLine?, callLine, Source.codeOf?_append_semicolon (by simpa [receiver] using ends) ?_
    (isInert_callLine sizeless h), Option.bind_some]
  · exact classify_call command.nonempty command.isWord h.oneLine
  · intro c mem
    cases mem
    decide

end Statement

/-! ## Lines of a script as lines of a sketch -/

namespace Script

namespace Line

/-- The statement that the text of a line is read as. -/
def statement : Line → Statement
  | declare kind _ name formula =>
    .declaration kind (String.ofList name.text) (String.ofList (formula.write .sum))
  | call command operands =>
    .call (String.ofList command.text) (String.ofList (Operand.writeAll operands))

/-- **The text of a line is read as its statement.** -/
theorem ofLine?_write {line : Line} (h : ∀ word ∈ line.words, ¬ IsSizeWord word) :
    Statement.ofLine? line.write = some line.statement := by
  cases line with
  | declare kind known name formula =>
      rw [words, List.forall_mem_cons] at h
      exact Statement.ofLine?_declarationLine known h.1 (formula.spelled_write .sum).isTrimmed
        (Formula.isInert_write h.2 .sum)
  | call command operands =>
      rw [words, List.forall_mem_cons] at h
      exact Statement.ofLine?_callLine h.1 (Operand.isInert_writeAll h.2)

variable {σ : Type}

/-- **The statement of a line does what the line does.** -/
theorem execute_statement (surface : Surface σ) (machine : Machine σ) (line : Line) :
    Machine.execute surface machine line.statement = line.execute surface machine := by
  cases line with
  | declare kind known name formula =>
      rw [statement, Machine.execute, Machine.declare,
        (formula.spelled_write .sum).evaluate_eq_value]
      rfl
  | call command operands =>
      rw [statement, Machine.execute, Operand.readAll_writeAll]
      show Machine.callCommand _ _ _ ((operands.map _).map _) = _
      rw [List.map_map]
      rfl

/-- A step of a sketch is that of a script, once the line is quoted with its text. -/
theorem step_statement (surface : Surface σ) {machine : Machine σ} {number : Nat}
    {line : Line}
    (quoted : machine.context.sourceLine? number = some (String.ofList line.write)) :
    machine.step surface number line.statement = line.run surface machine number := by
  have keeps := Machine.execute_keeps surface machine line.statement
  rw [Machine.step, run, execute_statement] at *
  rcases outcome : line.execute surface machine with ⟨after, _ | fault⟩
  · rfl
  · rw [outcome] at keeps
    have text : after.context.sourceLine? number = some (String.ofList line.write) := by
      rw [← quoted, Context.sourceLine?, Context.sourceLine?, keeps.sourceLines]
    rw [Machine.settle, Context.reportFault, text]

end Line

variable {σ : Type}

/-- Lines that are quoted with their texts are executed one after another. -/
theorem runStatements_lines (surface : Surface σ) {machine : Machine σ} {number : Nat}
    {lines : List Line}
    (quoted : ∀ k line, lines[k]? = some line →
      machine.context.sourceLine? ((number + k : Nat) : Int)
        = some (String.ofList line.write)) :
    Sketch.runStatements surface machine
        ((lines.zipIdx number).map fun line => (line.2, line.1.statement))
      = executeFrom surface machine number lines := by
  induction lines generalizing machine number with
  | nil => rfl
  | cons line lines ih =>
      have here : machine.context.sourceLine? number = some (String.ofList line.write) :=
        quoted 0 line rfl
      have step := Line.step_statement surface here
      rw [List.zipIdx_cons, List.map_cons, Sketch.runStatements_cons, step, executeFrom]
      -- the texts that later lines are quoted with do not change on the way
      refine ih fun k later found => ?_
      have same : (line.run surface machine number).context.sourceLines
          = machine.context.sourceLines := by
        rw [← step, Machine.step_sourceLines]
      have there := quoted (k + 1) later found
      rw [Context.sourceLine?, same, Nat.add_right_comm]
      exact there

/-! ## Scripts as sketches -/

/-- No word for the size stands in the text of a script. -/
theorem not_isSizeWord_text (script : Script) :
    ∀ run ∈ Source.wordRuns script.text.toList, ¬ IsSizeWord run := by
  obtain ⟨lines, sizeless⟩ := script
  rw [text, String.toList_ofList]
  show ∀ run ∈ Source.wordRuns (['\n'].intercalate (lines.map Line.write)), _
  induction lines with
  | nil => exact IsInert.nil.words
  | cons line lines ih =>
      rw [List.forall_mem_cons] at sizeless
      have first := (Line.isInert_write sizeless.1).words
      have rest := ih sizeless.2
      cases lines with
      | nil => simpa using first
      | cons next lines =>
          rw [List.map_cons, List.map_cons, List.intercalate_cons_cons, List.append_assoc,
            List.singleton_append, Source.wordRuns_append_cons _ isWord_newline]
          simp only [List.forall_mem_append]
          exact ⟨first, rest⟩

/-- The lines of the text of a script are the texts of its lines. -/
theorem splitLines_text {script : Script} (nonempty : script.lines ≠ []) :
    Source.splitLines script.text.toList = script.lines.map Line.write := by
  have apart : ∀ text ∈ script.lines.map Line.write, '\n' ∉ text := by
    intro text mem
    obtain ⟨line, hline, rfl⟩ := List.mem_map.mp mem
    exact (Line.isInert_write (script.sizeless line hline)).oneLine
  rw [text, String.toList_ofList, Source.splitLines_eq_splitOn,
    List.splitOn_intercalate '\n' apart (by simpa using nonempty)]

theorem filterMap_ofLine? {lines : List Line}
    (h : ∀ line ∈ lines, ∀ word ∈ line.words, ¬ IsSizeWord word) (number : Nat) :
    (((lines.map Line.write).zipIdx number).filterMap fun line =>
        (Statement.ofLine? line.1).map fun s => (line.2, s))
      = (lines.zipIdx number).map fun line => (line.2, line.1.statement) := by
  induction lines generalizing number with
  | nil => rfl
  | cons line lines ih =>
      rw [List.forall_mem_cons] at h
      simp [List.zipIdx_cons, Line.ofLine?_write h.1, ih h.2]

/-- The statements of the text of a script are those of its lines. -/
theorem statements_text (script : Script) :
    Sketch.statements script.text.toList
      = (script.lines.zipIdx 1).map fun line => (line.2, line.1.statement) := by
  by_cases empty : script.lines = []
  · -- the empty text still has one line, which holds no statement
    have nothing : script.text.toList = [] := by simp [text, empty]
    rw [nothing, empty]
    rfl
  · rw [Sketch.statements_eq, splitLines_text empty, filterMap_ofLine? script.sizeless]

/-- The text of a script is loaded as the machine on which the script is executed. -/
theorem create_text (script : Script) (width height : Int) (state : σ) :
    (⟨Context.create (.int width) (.int height) script.text, state⟩ : Machine σ)
      = script.start width height state := by
  have lines : (Context.create (.int width) (.int height) script.text).sourceLines
      = script.lines.map fun line => String.ofList line.write := by
    by_cases empty : script.lines = []
    · have nothing : script.text = "" := by simp [text, empty]
      rw [nothing, empty]
      rfl
    · have filled : script.text.isEmpty = false := by
        obtain ⟨line, rest, split⟩ := List.exists_cons_of_ne_nil empty
        rw [Bool.eq_false_iff, ne_eq, String.isEmpty_iff, ← String.toList_eq_nil_iff, text,
          String.toList_ofList, split]
        cases rest <;> simp [Line.write, List.intercalate_cons_cons]
      rw [Context.create]
      simp only [filled, splitLines_text empty, List.map_map]
      rfl
  rw [start, ← lines]
  rfl

/-- **To run the text of a script is to execute the script.**  On every surface, and for every
size that is not too long, the sketch that is the text of a script ends on the same machine as
the script does: with the same variables, cursor and style, with the same diagnostics, and
with the surface after the same drawing. -/
theorem run_text_eq_execute (surface : Surface σ) (width height : Int)
    (hwidth : Number.IsShort width) (hheight : Number.IsShort height) (script : Script)
    (state : σ) :
    Sketch.run surface (.int width) (.int height) script.text state
      = .ok (script.execute surface width height state) := by
  have kept : Source.written width height script.text.toList = script.text.toList :=
    Source.written_eq_self script.not_isSizeWord_text width height
  have loaded := Sketch.load_int hwidth hheight script.text state
  rw [kept, String.ofList_toList, create_text] at loaded
  have quoted : ∀ k line, script.lines[k]? = some line →
      (script.start width height state).context.sourceLine? ((1 + k : Nat) : Int)
        = some (String.ofList line.write) := by
    intro k line found
    have counted : (1 : Int) ≤ ((1 + k : Nat) : Int) := by omega
    have index : (((1 + k : Nat) : Int) - 1).toNat = k := by omega
    rw [Context.sourceLine?, if_pos counted, index]
    simp [start, found]
  rw [Sketch.run_of_load loaded, statements_text, runStatements_lines surface quoted]
  rfl

/-- Two declarations and a call whose text holds a comma, parentheses, a comment mark, a
semicolon, another call and quotes of the other kind. -/
theorem run_text_eq_execute_quoted :
    let x : Identifier := ⟨['x'], by decide⟩
    let r : Identifier := ⟨['r'], by decide⟩
    let sum : Formula := .binary .add (.literal 1 (by decide)) (.literal 2 (by decide))
    let script : Script :=
      ⟨[.declare "uint8_t" (by decide) x (.literal 4 (by decide)),
        .declare "int" (by decide) r (.binary .mul sum (.unary .minus (.name x))),
        .call ⟨"drawString".toList, by decide, List.all_eq_true.mp rfl⟩
          [.text "a, (b) // tft.f(1); 'c'".toList (by simp), .integer (-5) (by decide),
            .reference r (by decide)]],
        by decide⟩
    script.text = "uint8_t x = 4;\nint r = (1 + 2) * -x;\n"
        ++ "tft.drawString(\"a, (b) // tft.f(1); 'c'\", -5, r);" ∧
      Number.IsShort 240 ∧ Number.IsShort 320 ∧
      Sketch.run (Surface.recording 240 320) (.int 240) (.int 320) script.text []
        = .ok (script.execute (Surface.recording 240 320) 240 320 []) ∧
      (script.execute (Surface.recording 240 320) 240 320 []).surface
        = [.drawText "a, (b) // tft.f(1); 'c'" ⟨.int (-5), .int (-12)⟩ .white (.int 8)] := by
  intro x r sum script
  have hwidth : Number.IsShort 240 := by decide
  have hheight : Number.IsShort 320 := by decide
  refine ⟨by decide +kernel, hwidth, hheight, ?_, by decide +kernel⟩
  exact run_text_eq_execute (Surface.recording 240 320) 240 320 hwidth hheight script []

end Script

end SketchScreen
