import SketchScreen.Proofs.Source
import SketchScreen.Sketch.Run

/-!
# Runs and their Diagnostics

A run goes through the lines of a sketch from the first to the last, executes those that hold
a statement, and adds one diagnostic for each that fails.  So the diagnostics of a run are
known once it is known which lines fail, and they come in the order of the lines.

## Main Definitions

- `Statement.ofLine?`: the statement of a line as it stands in a sketch.
- `Sketch.faults`: the lines that fail in a run, with their faults.
- `Sketch.before`: the machine just before a line is executed.
- `Action.restyle`: the style of texts after an action that succeeds.

## Design Notes

`runStatements_diagnostics` is the invariant of the whole fold: the diagnostics at the end are
those at the start followed by the reports of `faults`.  It rests on the frame of a single
statement, `execute_keeps`: whatever a statement does, and wherever it stops, it writes no
diagnostics and does not touch the text that diagnostics quote.
-/

namespace SketchScreen

/-! ## Steps that may fail -/

section Steps

variable {ε α β : Type} {x : Except ε α}

/-- A computation that gives a result gives one at each of its steps. -/
theorem exists_of_bind_eq_ok {f : α → Except ε β} {b : β} (h : (x >>= f) = .ok b) :
    ∃ a, x = .ok a ∧ f a = .ok b := by
  cases x with
  | error e => cases h
  | ok a => exact ⟨a, rfl, h⟩

theorem exists_of_map_eq_ok {f : α → β} {b : β} (h : (x >>= fun a => pure (f a)) = .ok b) :
    ∃ a, x = .ok a ∧ f a = b := by
  obtain ⟨a, given, h⟩ := exists_of_bind_eq_ok h
  cases h
  exact ⟨a, given, rfl⟩

theorem error_or_exists_of_bind_eq_error {f : α → Except ε β} {e : ε}
    (h : (x >>= f) = .error e) : x = .error e ∨ ∃ a, x = .ok a ∧ f a = .error e := by
  cases x with
  | error e' =>
      cases h
      exact Or.inl rfl
  | ok a => exact Or.inr ⟨a, rfl, h⟩

theorem exists_of_mapError_eq_error {ε' : Type} {g : ε → ε'} {e : ε'}
    (h : x.mapError g = .error e) : ∃ cause, x = .error cause ∧ e = g cause := by
  cases x with
  | error cause =>
      cases h
      exact ⟨cause, rfl, rfl⟩
  | ok a => cases h

theorem eq_ok_of_mapError_eq_ok {ε' : Type} {g : ε → ε'} {a : α} (h : x.mapError g = .ok a) :
    x = .ok a := by
  cases x with
  | error cause => cases h
  | ok a' =>
      cases h
      rfl

end Steps

/-! ## The statements of a sketch -/

/-- The statement of a line as it stands in a sketch. -/
def Statement.ofLine? (raw : List Char) : Option Statement :=
  (Source.codeOf? raw).bind classify

namespace Sketch

theorem filterMap_numberedCode (first : Nat) (lines : List (List Char)) :
    ((Source.numberedCode first lines).filterMap fun line =>
        (Statement.classify line.2).map fun s => (line.1, s))
      = (lines.zipIdx first).filterMap fun line =>
          (Statement.ofLine? line.1).map fun s => (line.2, s) := by
  induction lines generalizing first with
  | nil => rfl
  | cons raw lines ih =>
      rw [Source.numberedCode, List.zipIdx_cons]
      cases code : Source.codeOf? raw with
      | none => simp [Statement.ofLine?, code, ih]
      | some code' => simp [Statement.ofLine?, code, ih, List.filterMap_cons]

/-- **The statements of a sketch** are those of its lines, numbered from one. -/
theorem statements_eq (source : List Char) :
    statements source
      = ((Source.splitLines source).zipIdx 1).filterMap fun line =>
          (Statement.ofLine? line.1).map fun s => (line.2, s) := by
  rw [← filterMap_numberedCode, statements, Statement.ofSource, List.filterMap_map]
  rfl

/-- A statement stands in the line with its number. -/
theorem mem_statements_iff {source : List Char} {number : Nat} {statement : Statement} :
    (number, statement) ∈ statements source ↔
      ∃ n raw, number = n + 1 ∧ (Source.splitLines source)[n]? = some raw ∧
        Statement.ofLine? raw = some statement := by
  rw [statements_eq, List.mem_filterMap]
  constructor
  · rintro ⟨⟨raw, k⟩, mem, holds⟩
    obtain ⟨found, holds, same⟩ := Option.map_eq_some_iff.mp holds
    cases same
    obtain ⟨bound, line⟩ := List.mk_mem_zipIdx_iff_le_and_getElem?_sub.mp mem
    exact ⟨k - 1, raw, by omega, line, holds⟩
  · rintro ⟨n, raw, rfl, line, holds⟩
    refine ⟨(raw, n + 1), ?_, by simp [holds]⟩
    rw [List.mk_mem_zipIdx_iff_le_and_getElem?_sub]
    exact ⟨by omega, by simpa using line⟩

/-- The numbers of the lines with statements increase. -/
theorem pairwise_statements (source : List Char) :
    (statements source).Pairwise fun s t => s.1 < t.1 := by
  rw [statements_eq, List.pairwise_filterMap]
  have numbers : ((Source.splitLines source).zipIdx 1).Pairwise fun a b => a.2 < b.2 := by
    rw [← List.pairwise_map, List.zipIdx_map_snd]
    exact List.pairwise_lt_range'
  refine numbers.imp fun {a b} lt s hs t ht => ?_
  obtain ⟨_, _, rfl⟩ := Option.map_eq_some_iff.mp hs
  obtain ⟨_, _, rfl⟩ := Option.map_eq_some_iff.mp ht
  exact lt

end Sketch

/-! ## The frame of a statement -/

/-- A text at the cursor moves it down. -/
theorem TextStyle.exists_of_advanceLine {style moved : TextStyle}
    (h : style.advanceLine = .ok moved) : ∃ y, moved = { style with cursorY := y } := by
  obtain ⟨distance, -, h⟩ := exists_of_bind_eq_ok h
  obtain ⟨y, -, h⟩ := exists_of_bind_eq_ok h
  cases h
  exact ⟨y, rfl⟩

/-- The style of texts after an action that succeeds. -/
def Action.restyle (style : TextStyle) : Action → Except NumberFault TextStyle
  | .draw _ | .write _ _ => .ok style
  | .writeLine _ => style.advanceLine
  | .setColor color => .ok (style.setColor color)
  | .setSize size => .ok (style.setSize size)
  | .setCursor x y => .ok (style.setCursor x y)

namespace Machine

variable {σ : Type}

/-- What no statement changes: the size, the diagnostics, and the text that
diagnostics quote. -/
structure Keeps (before after : Context) : Prop where
  width : after.width = before.width
  height : after.height = before.height
  diagnostics : after.diagnostics = before.diagnostics
  sourceLines : after.sourceLines = before.sourceLines

theorem Keeps.refl (context : Context) : Keeps context context := ⟨rfl, rfl, rfl, rfl⟩

theorem drawText_context (surface : Surface σ) (machine : Machine σ) (text : String)
    (location : Point Number) :
    (drawText surface machine text location).1.context = machine.context := rfl

/-- **An action that fails leaves the context as it was, and one that succeeds changes the
style of texts only.** -/
theorem perform_context (surface : Surface σ) (machine : Machine σ) (action : Action) :
    ((perform surface machine action).2 ≠ none →
      (perform surface machine action).1.context = machine.context) ∧
    ((perform surface machine action).2 = none →
      ∃ style, action.restyle machine.context.style = .ok style ∧
        (perform surface machine action).1.context
          = { machine.context with style := style }) := by
  cases action with
  | draw shape => exact ⟨fun _ => rfl, fun _ => ⟨_, rfl, rfl⟩⟩
  | write text location => exact ⟨fun _ => rfl, fun _ => ⟨_, rfl, rfl⟩⟩
  | writeLine text =>
      -- the cursor moves once the text is drawn, and that may fail as well
      have context := drawText_context surface machine text
        ⟨machine.context.style.cursorX, machine.context.style.cursorY⟩
      simp only [perform]
      split
      · rename_i drawn fault outcome
        rw [outcome] at context
        exact ⟨fun _ => context, nofun⟩
      · rename_i drawn outcome
        rw [outcome] at context
        change drawn.context = machine.context at context
        rw [advanceLine, ← context]
        cases moved : drawn.context.style.advanceLine with
        | error fault => exact ⟨fun _ => rfl, nofun⟩
        | ok style => exact ⟨fun fails => absurd rfl fails, fun _ => ⟨style, moved, rfl⟩⟩
  | setColor color => exact ⟨fun fails => absurd rfl fails, fun _ => ⟨_, rfl, rfl⟩⟩
  | setSize size => exact ⟨fun fails => absurd rfl fails, fun _ => ⟨_, rfl, rfl⟩⟩
  | setCursor x y => exact ⟨fun fails => absurd rfl fails, fun _ => ⟨_, rfl, rfl⟩⟩

theorem perform_keeps (surface : Surface σ) (machine : Machine σ) (action : Action) :
    Keeps machine.context (perform surface machine action).1.context := by
  obtain ⟨failed, done⟩ := perform_context surface machine action
  by_cases fault : (perform surface machine action).2 = none
  · obtain ⟨style, -, same⟩ := done fault
    rw [same]
    exact ⟨rfl, rfl, rfl, rfl⟩
  · rw [failed fault]
    exact .refl _

theorem callCommand_keeps (surface : Surface σ) (machine : Machine σ) (name : String)
    (values : List Value) :
    Keeps machine.context (callCommand surface machine name values).1.context := by
  unfold callCommand
  split
  · exact .refl _
  · exact perform_keeps surface machine _

/-- **A statement keeps the frame**, also one that stops with a fault. -/
theorem execute_keeps (surface : Surface σ) (machine : Machine σ) (statement : Statement) :
    Keeps machine.context (execute surface machine statement).1.context := by
  cases statement with
  | declaration kind name expression =>
      simp only [execute, declare]
      split
      · exact .refl _
      · exact ⟨rfl, rfl, rfl, rfl⟩
  | call command arguments =>
      simp only [execute]
      split
      · exact .refl _
      · exact callCommand_keeps surface machine command _

/-- The report that a line leaves behind. -/
theorem step_diagnostics (surface : Surface σ) (machine : Machine σ) (line : Nat)
    (statement : Statement) :
    (machine.step surface line statement).context.diagnostics
      = machine.context.diagnostics ++
          ((execute surface machine statement).2.map fun fault =>
            Diagnostic.ofFault fault line (machine.context.sourceLine? line)).toList := by
  have keeps := execute_keeps surface machine statement
  unfold step
  rcases outcome : execute surface machine statement with ⟨after, _ | fault⟩
  · rw [outcome] at keeps
    simpa [settle] using keeps.diagnostics
  · rw [outcome] at keeps
    change Keeps machine.context after.context at keeps
    simp [settle, Context.reportFault, Context.report, Context.sourceLine?, keeps.diagnostics,
      keeps.sourceLines]

theorem step_sourceLines (surface : Surface σ) (machine : Machine σ) (line : Nat)
    (statement : Statement) :
    (machine.step surface line statement).context.sourceLines
      = machine.context.sourceLines := by
  have keeps := execute_keeps surface machine statement
  unfold step
  rcases outcome : execute surface machine statement with ⟨after, _ | fault⟩
  · rw [outcome] at keeps
    exact keeps.sourceLines
  · rw [outcome] at keeps
    exact keeps.sourceLines

end Machine

/-! ## The faults of a run -/

namespace Sketch

variable {σ : Type}

/-- The lines that fail in a run, with their faults. -/
def faults (surface : Surface σ) (machine : Machine σ) :
    List (Nat × Statement) → List (Nat × Fault)
  | [] => []
  | (line, statement) :: rest =>
    ((Machine.execute surface machine statement).2.map fun fault => (line, fault)).toList
      ++ faults surface (machine.step surface line statement) rest

/-- The machine just before a line is executed. -/
def before (surface : Surface σ) (machine : Machine σ) (statements : List (Nat × Statement))
    (line : Nat) : Machine σ :=
  runStatements surface machine (statements.takeWhile fun s => s.1 < line)

theorem runStatements_cons (surface : Surface σ) (machine : Machine σ) (line : Nat)
    (statement : Statement) (rest : List (Nat × Statement)) :
    runStatements surface machine ((line, statement) :: rest)
      = runStatements surface (machine.step surface line statement) rest := rfl

theorem runStatements_sourceLines (surface : Surface σ) (machine : Machine σ)
    (statements : List (Nat × Statement)) :
    (runStatements surface machine statements).context.sourceLines
      = machine.context.sourceLines := by
  induction statements generalizing machine with
  | nil => rfl
  | cons first rest ih =>
      obtain ⟨line, statement⟩ := first
      rw [runStatements_cons, ih, Machine.step_sourceLines]

/-- The text that diagnostics quote is the same throughout a run. -/
theorem before_sourceLine? (surface : Surface σ) (machine : Machine σ)
    (statements : List (Nat × Statement)) (line : Nat) (number : Int) :
    (before surface machine statements line).context.sourceLine? number
      = machine.context.sourceLine? number := by
  rw [Context.sourceLine?, Context.sourceLine?, before, runStatements_sourceLines]

/-- **The diagnostics of a run** are the reports of its faults, in their order. -/
theorem runStatements_diagnostics (surface : Surface σ) (machine : Machine σ)
    (statements : List (Nat × Statement)) :
    (runStatements surface machine statements).context.diagnostics
      = machine.context.diagnostics ++ (faults surface machine statements).map fun failed =>
          Diagnostic.ofFault failed.2 failed.1 (machine.context.sourceLine? failed.1) := by
  induction statements generalizing machine with
  | nil => simp [runStatements, faults]
  | cons first rest ih =>
      obtain ⟨line, statement⟩ := first
      -- the invariant: what is quoted by the later reports is what would be quoted now
      have quoted : ∀ number : Int,
          (machine.step surface line statement).context.sourceLine? number
            = machine.context.sourceLine? number := fun number => by
        simp only [Context.sourceLine?, Machine.step_sourceLines]
      rw [runStatements_cons, ih, Machine.step_diagnostics, faults, List.map_append,
        List.append_assoc]
      simp only [quoted]
      cases (Machine.execute surface machine statement).2 <;> rfl

/-- A line is among the faults exactly if executing it, when its turn comes, fails. -/
theorem mem_faults_iff {surface : Surface σ} {machine : Machine σ}
    {statements : List (Nat × Statement)} {line : Nat} {fault : Fault} :
    (line, fault) ∈ faults surface machine statements ↔
      ∃ done statement rest, statements = done ++ (line, statement) :: rest ∧
        (Machine.execute surface (runStatements surface machine done) statement).2
          = some fault := by
  induction statements generalizing machine with
  | nil => simp [faults]
  | cons first rest ih =>
      obtain ⟨number, statement⟩ := first
      rw [faults, List.mem_append, ih]
      constructor
      · rintro (here | ⟨done, later, tail, rfl, fails⟩)
        · rw [Option.mem_toList, Option.map_eq_some_iff] at here
          obtain ⟨cause, fails, same⟩ := here
          cases same
          exact ⟨[], statement, rest, rfl, fails⟩
        · exact ⟨(number, statement) :: done, later, tail, rfl, fails⟩
      · rintro ⟨done, later, tail, split, fails⟩
        cases done with
        | nil =>
            cases split
            left
            simpa [runStatements] using fails
        | cons head done =>
            cases split
            exact Or.inr ⟨done, later, tail, rfl, fails⟩

/-- The lines that fail are among those that are executed, in their order. -/
theorem faults_lines_sublist (surface : Surface σ) (machine : Machine σ)
    (statements : List (Nat × Statement)) :
    ((faults surface machine statements).map Prod.fst).Sublist (statements.map Prod.fst) := by
  induction statements generalizing machine with
  | nil => exact .slnil
  | cons first rest ih =>
      obtain ⟨line, statement⟩ := first
      rw [faults, List.map_append, List.map_cons]
      cases (Machine.execute surface machine statement).2 with
      | none => exact (ih _).cons line
      | some fault => exact (ih _).cons_cons line

/-- What comes before a statement of a sketch is what is executed before its line. -/
theorem before_eq_of_split {surface : Surface σ} {machine : Machine σ}
    {done rest : List (Nat × Statement)} {line : Nat} {statement : Statement}
    (increasing : (done ++ (line, statement) :: rest).Pairwise fun s t => s.1 < t.1) :
    before surface machine (done ++ (line, statement) :: rest) line
      = runStatements surface machine done := by
  have earlier : ∀ s ∈ done, decide (s.1 < line) = true := fun s mem => by
    simpa using (List.pairwise_append.mp increasing).2.2 s mem _ List.mem_cons_self
  rw [before, List.takeWhile_append_of_pos earlier]
  simp

/-- The faults of a sketch, told by the machine before each line. -/
theorem mem_faults_statements_iff {surface : Surface σ} {machine : Machine σ}
    {source : List Char} {line : Nat} {fault : Fault} :
    (line, fault) ∈ faults surface machine (statements source) ↔
      ∃ statement, (line, statement) ∈ statements source ∧
        (Machine.execute surface (before surface machine (statements source) line)
          statement).2 = some fault := by
  have increasing := pairwise_statements source
  rw [mem_faults_iff]
  constructor
  · rintro ⟨done, statement, rest, split, fails⟩
    rw [split] at increasing ⊢
    exact ⟨statement, by simp, by rw [before_eq_of_split increasing]; exact fails⟩
  · rintro ⟨statement, mem, fails⟩
    obtain ⟨done, rest, split⟩ := List.append_of_mem mem
    rw [split] at increasing fails ⊢
    rw [before_eq_of_split increasing] at fails
    exact ⟨done, statement, rest, rfl, fails⟩

/-! ## Whole runs -/

section Sized

variable {width height : Int}

/-- A sketch is loaded whenever the size can be written into it. -/
theorem load_of_substitute {width height : Number} {source text : String}
    (h : Source.substitute width height source = .ok text) (state : σ) :
    load width height source state
      = .ok (text, ⟨Context.create width height text, state⟩) := by
  rw [load, h]
  rfl

/-- A sketch is loaded whenever its size is not too long. -/
theorem load_int (hwidth : Number.IsShort width) (hheight : Number.IsShort height)
    (source : String) (state : σ) :
    load (.int width) (.int height) source state
      = .ok (String.ofList (Source.written width height source.toList),
          ⟨Context.create (.int width) (.int height)
            (String.ofList (Source.written width height source.toList)), state⟩) :=
  load_of_substitute (Source.substitute_int hwidth hheight source) state

/-- A run of a sketch that has been loaded goes through its statements. -/
theorem run_of_load {surface : Surface σ} {width height : Number} {source text : String}
    {state : σ} {start : Machine σ} (h : load width height source state = .ok (text, start)) :
    run surface width height source state
      = .ok (runStatements surface start (statements text.toList)) := by
  rw [run, h]
  rfl

/-- A sketch that is loaded runs in a fresh context. -/
theorem eq_create_of_load {width height : Number} {source text : String} {state : σ}
    {start : Machine σ} (loaded : load width height source state = .ok (text, start)) :
    start = ⟨Context.create width height text, state⟩ := by
  obtain ⟨written, -, same⟩ := exists_of_bind_eq_ok loaded
  cases same
  rfl

/-- A run that ends has been loaded. -/
theorem load_of_run {surface : Surface σ} {width height : Number} {source : String}
    {state : σ} {final : Machine σ}
    (result : run surface width height source state = .ok final) :
    ∃ text start, load width height source state = .ok (text, start) ∧
      final = runStatements surface start (statements text.toList) := by
  cases loaded : load width height source state with
  | error fault =>
      rw [run, loaded] at result
      cases result
  | ok pair =>
      obtain ⟨text, start⟩ := pair
      rw [run_of_load loaded] at result
      cases result
      exact ⟨text, start, rfl, rfl⟩

/-- A line with a statement is quoted as it stands. -/
theorem sourceLine?_create {text : String} {n : Nat} {raw : List Char} {statement : Statement}
    (line : (Source.splitLines text.toList)[n]? = some raw)
    (holds : Statement.ofLine? raw = some statement) :
    (Context.create (.int width) (.int height) text).sourceLine? ((n + 1 : Nat) : Int)
      = some (String.ofList raw) := by
  have nonempty : text.isEmpty = false := by
    by_contra empty
    rw [Bool.not_eq_false, String.isEmpty_iff] at empty
    subst empty
    cases n with
    | zero =>
        cases line
        cases holds
    | succ n => simp [Source.splitLines_eq_splitOn] at line
  have counted : (1 : Int) ≤ ((n + 1 : Nat) : Int) := by omega
  rw [Context.sourceLine?, if_pos counted]
  simp [Context.create, nonempty, line]

/-- The lines of a loaded sketch, told by the lines of the sketch itself. -/
theorem mem_statements_written {cs : List Char} {n : Nat} {statement : Statement} :
    (n + 1, statement) ∈ statements (Source.written width height cs) ↔
      ∃ original, (Source.splitLines cs)[n]? = some original ∧
        Statement.ofLine? (Source.written width height original) = some statement := by
  rw [mem_statements_iff, Source.splitLines_written]
  constructor
  · rintro ⟨k, raw, number, line, holds⟩
    cases number
    rw [List.getElem?_map, Option.map_eq_some_iff] at line
    obtain ⟨original, line, rfl⟩ := line
    exact ⟨original, line, holds⟩
  · rintro ⟨original, line, holds⟩
    exact ⟨n, _, rfl, by rw [List.getElem?_map, line]; rfl, holds⟩

/-- The diagnostics of a run, told by the lines of the sketch and the machine before each. -/
theorem mem_diagnostics_iff {surface : Surface σ} {source : String} {state : σ}
    {d : Diagnostic} :
    let text := String.ofList (Source.written width height source.toList)
    let start : Machine σ := ⟨Context.create (.int width) (.int height) text, state⟩
    d ∈ (runStatements surface start (statements text.toList)).context.diagnostics ↔
      ∃ n original statement fault, (Source.splitLines source.toList)[n]? = some original ∧
        Statement.ofLine? (Source.written width height original) = some statement ∧
        (Machine.execute surface (before surface start (statements text.toList) (n + 1))
          statement).2 = some fault ∧
        d = .ofFault fault ((n + 1 : Nat) : Int)
          (some (String.ofList (Source.written width height original))) := by
  intro text start
  have lines : text.toList = Source.written width height source.toList := String.toList_ofList
  have quoted : ∀ {n original statement}, (Source.splitLines source.toList)[n]?
      = some original →
      Statement.ofLine? (Source.written width height original) = some statement →
      start.context.sourceLine? ((n + 1 : Nat) : Int)
        = some (String.ofList (Source.written width height original)) := by
    intro n original statement line holds
    refine sourceLine?_create ?_ holds
    rw [lines, Source.splitLines_written, List.getElem?_map, line]
    rfl
  have fresh : start.context.diagnostics = [] := rfl
  rw [runStatements_diagnostics, fresh, List.nil_append, List.mem_map]
  constructor
  · rintro ⟨⟨number, fault⟩, mem, rfl⟩
    obtain ⟨statement, mem, fails⟩ := mem_faults_statements_iff.mp mem
    obtain ⟨n, raw, rfl, -, -⟩ := mem_statements_iff.mp mem
    rw [lines] at mem
    obtain ⟨original, line, holds⟩ := mem_statements_written.mp mem
    exact ⟨n, original, statement, fault, line, holds, fails, by rw [← quoted line holds]⟩
  · rintro ⟨n, original, statement, fault, line, holds, fails, rfl⟩
    have mem : (n + 1, statement) ∈ statements text.toList := by
      rw [lines]
      exact mem_statements_written.mpr ⟨original, line, holds⟩
    exact ⟨(n + 1, fault), mem_faults_statements_iff.mpr ⟨statement, mem, fails⟩,
      by rw [← quoted line holds]⟩

/-- The lines that diagnostics name increase. -/
theorem pairwise_diagnostics_line (surface : Surface σ) {machine : Machine σ}
    (fresh : machine.context.diagnostics = []) (source : List Char) :
    ((runStatements surface machine (statements source)).context.diagnostics.map
      Diagnostic.line).Pairwise (· < ·) := by
  have lines : ((faults surface machine (statements source)).map Prod.fst).Pairwise (· < ·) :=
    (List.pairwise_map.mpr (pairwise_statements source)).sublist
      (faults_lines_sublist surface machine (statements source))
  rw [runStatements_diagnostics, fresh, List.nil_append, List.map_map, List.pairwise_map]
  exact (List.pairwise_map.mp lines).imp fun lt => Int.ofNat_lt.mpr lt

/-- **A run is total, and its diagnostics are well formed.**  On every surface, and for every
size that is not too long, a sketch is loaded and run to its end.  The lines that its
diagnostics name increase, so there is at most one for each line; each is a line of the sketch
that holds a statement once the size is written into it, and is quoted in that form.  A line
has a diagnostic exactly if its execution fails, and then it is the one of that fault. -/
theorem run_diagnostics_wellFormed (surface : Surface σ) (width height : Int)
    (hwidth : Number.IsShort width) (hheight : Number.IsShort height) (source : String)
    (state : σ) :
    ∃ text start machine,
      load (.int width) (.int height) source state = .ok (text, start) ∧
      run surface (.int width) (.int height) source state = .ok machine ∧
      (machine.context.diagnostics.map Diagnostic.line).Pairwise (· < ·) ∧
      (∀ d ∈ machine.context.diagnostics, ∃ n original quoted, d.line
        = ((n + 1 : Nat) : Int) ∧
        (Source.splitLines source.toList)[n]? = some original ∧
        Source.substitute (.int width) (.int height) (String.ofList original) = .ok quoted ∧
        (Statement.ofLine? quoted.toList).isSome ∧ d.sourceLine = some quoted) ∧
      ∀ n original quoted statement, (Source.splitLines source.toList)[n]? = some original →
        Source.substitute (.int width) (.int height) (String.ofList original) = .ok quoted →
        Statement.ofLine? quoted.toList = some statement →
        let outcome := Machine.execute surface
          (before surface start (statements text.toList) (n + 1)) statement
        (outcome.2 = none → ∀ d ∈ machine.context.diagnostics,
          d.line ≠ ((n + 1 : Nat) : Int)) ∧
          ∀ fault, outcome.2 = some fault →
            Diagnostic.ofFault fault ((n + 1 : Nat) : Int) (some quoted)
              ∈ machine.context.diagnostics := by
  have loaded := load_int hwidth hheight source state
  have substituted : ∀ original : List Char,
      Source.substitute (.int width) (.int height) (String.ofList original)
        = .ok (String.ofList (Source.written width height original)) := by
    intro original
    rw [Source.substitute_int hwidth hheight, String.toList_ofList]
  refine ⟨_, _, _, loaded, run_of_load loaded,
    pairwise_diagnostics_line surface rfl _, ?_, ?_⟩
  · intro d mem
    obtain ⟨n, original, statement, fault, line, holds, -, rfl⟩ := mem_diagnostics_iff.mp mem
    refine ⟨n, original, _, rfl, line, substituted original, ?_, rfl⟩
    rw [String.toList_ofList, holds]
    rfl
  · intro n original quoted statement line hquoted holds outcome
    cases (substituted original).symm.trans hquoted
    rw [String.toList_ofList] at holds
    constructor
    · -- a diagnostic of this line could only come from this line
      intro succeeds d mem named
      obtain ⟨k, other, statement', fault, line', holds', fails, rfl⟩ :=
        mem_diagnostics_iff.mp mem
      have same : k = n := by
        have : ((k + 1 : Nat) : Int) = ((n + 1 : Nat) : Int) := named
        omega
      subst same
      cases line.symm.trans line'
      cases holds.symm.trans holds'
      exact absurd (succeeds.symm.trans fails) (by simp)
    · intro fault fails
      exact mem_diagnostics_iff.mpr ⟨n, original, statement, fault, line, holds, fails, rfl⟩

/-- A sketch whose third line uses a variable that nothing declares: the line is reported,
quoted as it stands, and the rest is run. -/
theorem run_diagnostics_undefined_name :
    Number.IsShort 240 ∧ Number.IsShort 320 ∧
      ∃ machine, run (Surface.recording 240 320) (.int 240) (.int 320)
          "// size\nint a = WIDTH;\nint b = c;\ntft.fillScreen(a);" [] = .ok machine ∧
        (machine.context.diagnostics.map Diagnostic.line).Pairwise (· < ·) ∧
        ∃ d ∈ machine.context.diagnostics, d.line = 3 ∧ d.sourceLine = some "int b = c;" := by
  have hwidth : Number.IsShort 240 := by decide
  have hheight : Number.IsShort 320 := by decide
  obtain ⟨text, start, machine, loaded, result, increasing, -, told⟩ :=
    run_diagnostics_wellFormed (Surface.recording 240 320) 240 320 hwidth hheight
      "// size\nint a = WIDTH;\nint b = c;\ntft.fillScreen(a);" []
  cases (load_int hwidth hheight _ _).symm.trans loaded
  refine ⟨hwidth, hheight, machine, result, increasing, ?_⟩
  have reported := (told 2 "int b = c;".toList "int b = c;" (.declaration "int" "b" "c")
    (by decide) (by decide +kernel) (by decide +kernel)).2
    (.evaluation "c" (some (.undefined "c"))) (by decide +kernel)
  exact ⟨_, reported, by decide, by decide⟩

end Sized

end Sketch

end SketchScreen
