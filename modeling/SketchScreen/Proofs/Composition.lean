import SketchScreen.Proofs.Simulation

/-!
# Sketches Written One After Another

A sketch that consists of two, one below the other, is run as the first and then the second:
the second starts in the variables and the style that the first has left, and its lines are
counted on.  So a line that holds no code can be put in anywhere, and only the numbers of
the lines below it change.

## Main Definitions

- `Source.joinLines`, `Source.insertLine`: lines as a text, and a text with one more line.
- `Sketch.ofLines`: the statements of some lines, counted from any number.
- `Sketch.resume`: a run that starts in the variables and the style that another has left.
- `Diagnostic.moveDown`: a report of a line that has moved down.

## Design Notes

Every stage respects the cut between the two sketches: a newline ends words
(`splitLines_written`), numbers are counted on (`ofLines_append`, `ofLines_add`), and the
run of a row of statements is the run of its parts (`runStatements_append`,
`faults_append`).  What is left differs only in the numbers of lines, in the text that is
quoted and in what has been reported before, and none of these reaches a statement
(`runStatements_matches_map`, `faults_map`).
-/

namespace SketchScreen

open SketchScreen.Text

/-! ## Lines -/

namespace Source

/-- The text with the given lines. -/
def joinLines (lines : List (List Char)) : List Char := ['\n'].intercalate lines

/-- A text with one more line below the first `k`. -/
def insertLine (k : Nat) (line : List Char) (source : String) : String :=
  let lines := splitLines source.toList
  String.ofList (joinLines (lines.take k ++ line :: lines.drop k))

/-- The lines of a sketch with the size of the screen written into each. -/
def writtenLines (width height : Int) (source : String) : List (List Char) :=
  (splitLines source.toList).map (written width height)

/-- The text of a line by its number, which counts from one. -/
def quoteLine (lines : List (List Char)) (number : Nat) : Option String :=
  lines[number - 1]?.map String.ofList

theorem splitLines_append_newline (p q : List Char) :
    splitLines (p ++ '\n' :: q) = splitLines p ++ splitLines q := by
  simp only [splitLines_eq_splitOn, List.splitOn_append_cons_self]

theorem splitLines_joinLines {lines : List (List Char)} (nonempty : lines ≠ [])
    (oneLine : ∀ line ∈ lines, '\n' ∉ line) : splitLines (joinLines lines) = lines := by
  rw [splitLines_eq_splitOn, joinLines, List.splitOn_intercalate '\n' oneLine nonempty]

/-- The lines of a text with one more line. -/
theorem splitLines_insertLine {line : List Char} (oneLine : '\n' ∉ line) (k : Nat)
    (source : String) :
    splitLines (insertLine k line source).toList
      = (splitLines source.toList).take k ++ line :: (splitLines source.toList).drop k := by
  rw [insertLine, String.toList_ofList]
  refine splitLines_joinLines (by simp) fun other mem => ?_
  rcases List.mem_append.mp mem with mem | mem
  · exact newline_notMem_of_mem_splitLines (List.mem_of_mem_take mem)
  · rcases List.mem_cons.mp mem with rfl | mem
    · exact oneLine
    · exact newline_notMem_of_mem_splitLines (List.mem_of_mem_drop mem)

theorem quoteLine_append_left {lines : List (List Char)} {number : Nat}
    (counted : 1 ≤ number ∧ number ≤ lines.length) (rest : List (List Char)) :
    quoteLine (lines ++ rest) number = quoteLine lines number := by
  rw [quoteLine, quoteLine, List.getElem?_append_left (by omega)]

theorem quoteLine_append_right (lines : List (List Char)) {number : Nat}
    (counted : 1 ≤ number) (rest : List (List Char)) :
    quoteLine (lines ++ rest) (number + lines.length) = quoteLine rest number := by
  have index : number + lines.length - 1 - lines.length = number - 1 := by omega
  rw [quoteLine, quoteLine, List.getElem?_append_right (by omega), index]

/-- The number of a line once another has been put in below the first `k`. -/
def numberBelow (k number : Nat) : Nat := if number ≤ k then number else number + 1

/-- A line is quoted as before, by its new number. -/
theorem quoteLine_insert {lines : List (List Char)} {number : Nat}
    (counted : 1 ≤ number ∧ number ≤ lines.length) (line : List Char) (k : Nat) :
    quoteLine (lines.take k ++ line :: lines.drop k) (numberBelow k number)
      = quoteLine lines number := by
  by_cases above : number ≤ k
  · have within : number - 1 < (lines.take k).length := by
      rw [List.length_take]
      omega
    rw [numberBelow, if_pos above, quoteLine, quoteLine, List.getElem?_append_left within,
      List.getElem?_take_of_lt (by omega)]
  · have length : (lines.take k).length = k := by
      rw [List.length_take]
      omega
    have index : number - k = number - 1 - k + 1 := by omega
    have place : k + (number - 1 - k) = number - 1 := by omega
    rw [numberBelow, if_neg above, quoteLine, quoteLine, Nat.add_sub_cancel,
      List.getElem?_append_right (by omega), length, index, List.getElem?_cons_succ,
      List.getElem?_drop, place]

/-! ## Lines without code -/

/-- A line holds no code if it is blank, or if a comment starts behind its blanks. -/
theorem isSkipped_trim_iff {line : List Char} :
    isSkipped (trim line) = true ↔
      ∃ gap rest, isBlank gap = true ∧ line = gap ++ rest ∧
        (rest = [] ∨ ∃ start ∈ commentStarts, start <+: rest) := by
  have ends : ∀ start ∈ commentStarts, (∃ c, start.getLast? = some c ∧ isSpace c = false) ∧
      ∃ c, start.head? = some c ∧ isSpace c = false := by
    simp only [commentStarts, List.forall_mem_cons]
    exact ⟨⟨⟨'/', rfl, by decide⟩, '/', rfl, by decide⟩,
      ⟨⟨'*', rfl, by decide⟩, '/', rfl, by decide⟩,
      ⟨⟨'*', rfl, by decide⟩, '*', rfl, by decide⟩, List.forall_mem_nil _⟩
  simp only [isSkipped, Bool.or_eq_true, List.isEmpty_iff, List.any_eq_true,
    List.isPrefixOf_iff_prefix]
  constructor
  · intro skipped
    obtain ⟨gap, blank, split⟩ := exists_blank_append_trimLeft line
    refine ⟨gap, trimLeft line, blank, split, ?_⟩
    obtain ⟨gap', blank', split'⟩ := exists_trimRight_append_blank (trimLeft line)
    rcases skipped with empty | ⟨start, mem, found⟩
    · -- a text with nothing left of it at either end is blank, and here it starts
      -- with no blank
      left
      rw [show trimRight (trimLeft line) = [] from empty, List.nil_append] at split'
      cases rest : trimLeft line with
      | nil => rfl
      | cons c cs =>
          have first : c ∈ (trimLeft line).head? := by rw [rest]; rfl
          have space := isSpace_of_mem_head?_trimLeft first
          rw [← split', rest, isBlank, List.all_cons, space] at blank'
          cases blank'
    · exact Or.inr ⟨start, mem, found.trans ⟨gap', split'.symm⟩⟩
  · rintro ⟨gap, rest, blank, rfl, rfl | ⟨start, mem, more, rfl⟩⟩
    · left
      rw [trim, trimLeft_blank_append blank]
      rfl
    · right
      obtain ⟨last, c, head, space⟩ := ends start mem
      have front : trimLeft (start ++ more) = start ++ more := by
        refine trimLeft_eq_self fun d found => ?_
        rw [List.head?_append, head] at found
        cases found
        exact space
      refine ⟨start, mem, ?_⟩
      rw [trim, trimLeft_blank_append blank, front, trimRight_append last]
      exact List.prefix_append _ _

/-- A line holds no code, whatever size is written into it. -/
theorem isSkipped_trim_written {line : List Char} (skipped : isSkipped (trim line) = true)
    (width height : Int) : isSkipped (trim (written width height line)) = true := by
  have starts : ∀ start ∈ commentStarts, ∀ c ∈ start, isWord c = false := by
    have all : (commentStarts.all fun start => start.all fun c => !isWord c) = true := by
      decide
    simpa using all
  obtain ⟨gap, rest, blank, rfl, comment⟩ := isSkipped_trim_iff.mp skipped
  have outside : ∀ c ∈ gap, isWord c = false := by
    intro c mem
    rw [isBlank, List.all_eq_true] at blank
    exact isWord_eq_false_of_isSpace (blank c mem)
  rw [isSkipped_trim_iff, written_append_of_no_word outside]
  refine ⟨gap, _, blank, rfl, ?_⟩
  rcases comment with rfl | ⟨start, mem, more, rfl⟩
  · exact Or.inl rfl
  · right
    rw [written_append_of_no_word (starts start mem)]
    exact ⟨start, mem, List.prefix_append _ _⟩

end Source

open Source (insertLine numberBelow quoteLine splitLines written writtenLines)

/-- The report of a line that has moved down. -/
def Diagnostic.moveDown (k : Nat) (d : Diagnostic) : Diagnostic :=
  { d with line := d.line + k }

/-- The report of a line once another line has been put in below the first `k`. -/
def Diagnostic.moveBelow (k : Nat) (d : Diagnostic) : Diagnostic :=
  if d.line ≤ k then d else d.moveDown 1

theorem Diagnostic.moveDown_ofFault (fault : Fault) (number k : Nat)
    (quoted : Option String) :
    (ofFault fault number quoted).moveDown k = ofFault fault (number + k : Nat) quoted := rfl

theorem Diagnostic.moveBelow_ofFault (fault : Fault) (number k : Nat)
    (quoted : Option String) :
    (ofFault fault number quoted).moveBelow k
      = ofFault fault (numberBelow k number) quoted := by
  by_cases above : number ≤ k
  · simp [moveBelow, numberBelow, ofFault, above]
  · simp [moveBelow, numberBelow, moveDown, ofFault, above]

namespace Sketch

variable {σ : Type}

/-! ## Rows of statements -/

/-- The statements of some lines, the first of which has the number `first`. -/
def ofLines (first : Nat) (lines : List (List Char)) : List (Nat × Statement) :=
  (lines.zipIdx first).filterMap fun line =>
    (Statement.ofLine? line.1).map fun s => (line.2, s)

theorem statements_eq_ofLines (source : List Char) :
    statements source = ofLines 1 (splitLines source) :=
  statements_eq source

theorem ofLines_append (first : Nat) (lines rest : List (List Char)) :
    ofLines first (lines ++ rest)
      = ofLines first lines ++ ofLines (first + lines.length) rest := by
  rw [ofLines, List.zipIdx_append, List.filterMap_append]
  rfl

theorem ofLines_cons_of_none {line : List Char} (empty : Statement.ofLine? line = none)
    (first : Nat) (lines : List (List Char)) :
    ofLines first (line :: lines) = ofLines (first + 1) lines := by
  simp [ofLines, List.zipIdx_cons, empty]

theorem ofLines_cons_of_some {line : List Char} {statement : Statement}
    (held : Statement.ofLine? line = some statement) (first : Nat)
    (lines : List (List Char)) :
    ofLines first (line :: lines) = (first, statement) :: ofLines (first + 1) lines := by
  simp [ofLines, List.zipIdx_cons, held]

/-- Lines that are counted on hold the same statements. -/
theorem ofLines_add (first k : Nat) (lines : List (List Char)) :
    ofLines (first + k) lines = (ofLines first lines).map (Prod.map (· + k) id) := by
  induction lines generalizing first with
  | nil => rfl
  | cons line lines ih =>
      have rest : ofLines (first + k + 1) lines
          = (ofLines (first + 1) lines).map (Prod.map (· + k) id) := by
        rw [Nat.add_right_comm, ih]
      simp only [ofLines] at rest ⊢
      cases holds : Statement.ofLine? line with
      | none => simp [List.zipIdx_cons, holds, rest]
      | some statement => simp [List.zipIdx_cons, holds, rest]

/-- The numbers of statements are those of lines. -/
theorem bounds_of_mem_ofLines {first number : Nat} {statement : Statement}
    {lines : List (List Char)} (mem : (number, statement) ∈ ofLines first lines) :
    first ≤ number ∧ number < first + lines.length := by
  obtain ⟨⟨line, index⟩, found, holds⟩ := List.mem_filterMap.mp mem
  obtain ⟨found', -, same⟩ := Option.map_eq_some_iff.mp holds
  cases same
  obtain ⟨bound, line⟩ := List.mk_mem_zipIdx_iff_le_and_getElem?_sub.mp found
  have inside := (List.getElem?_eq_some_iff.mp line).1
  omega

theorem runStatements_append (surface : Surface σ) (machine : Machine σ)
    (done rest : List (Nat × Statement)) :
    runStatements surface machine (done ++ rest)
      = runStatements surface (runStatements surface machine done) rest :=
  List.foldl_append

theorem faults_append (surface : Surface σ) (machine : Machine σ)
    (done rest : List (Nat × Statement)) :
    faults surface machine (done ++ rest)
      = faults surface machine done
          ++ faults surface (runStatements surface machine done) rest := by
  induction done generalizing machine with
  | nil => rfl
  | cons head done ih =>
      obtain ⟨line, statement⟩ := head
      rw [List.cons_append, faults, faults, ih, List.append_assoc, runStatements_cons]

/-- A line that fails holds a statement. -/
theorem bounds_of_mem_faults {surface : Surface σ} {machine : Machine σ}
    {lines : List (List Char)} {failed : Nat × Fault}
    (mem : failed ∈ faults surface machine (ofLines 1 lines)) :
    1 ≤ failed.1 ∧ failed.1 ≤ lines.length := by
  have line := (faults_lines_sublist surface machine (ofLines 1 lines)).subset
    (List.mem_map_of_mem mem)
  obtain ⟨⟨number, statement⟩, executed, same⟩ := List.mem_map.mp line
  have bounds := bounds_of_mem_ofLines executed
  rw [← same]
  omega

/-! ## Runs told by lines -/

/-- The machine that is about to run a sketch into which the size has been written. -/
def begin (width height : Int) (source : String) (state : σ) : Machine σ where
  context := Context.create (.int width) (.int height)
    (String.ofList (written width height source.toList))
  surface := state

variable {width height : Int}

/-- The statements of a sketch into which the size has been written. -/
theorem statements_written (width height : Int) (source : String) :
    statements (String.ofList (written width height source.toList)).toList
      = ofLines 1 (writtenLines width height source) := by
  rw [String.toList_ofList, statements_eq_ofLines, Source.splitLines_written]
  rfl

/-- A machine that is about to run a sketch: nothing is reported yet, and its
lines are quoted. -/
structure Ready (width height : Int) (source : String) (machine : Machine σ) : Prop where
  fresh : machine.context.diagnostics = []
  quotes : machine.context.sourceLines
    = (Context.create (.int width) (.int height)
        (String.ofList (written width height source.toList))).sourceLines

theorem begin_ready (width height : Int) (source : String) (state : σ) :
    Ready width height source (begin width height source state) := ⟨rfl, rfl⟩

/-- What runs start with does not depend on the sketch. -/
theorem begin_matches (width height : Int) (source source' : String) (state : σ) :
    Machine.Matches Eq (begin width height source state) (begin width height source' state) :=
  ⟨rfl, rfl, rfl⟩

/-- **The reports of a run**: one for each line that fails, with the line as it is quoted. -/
theorem diagnostics_of_ready {source : String} {surface : Surface σ} {machine : Machine σ}
    (ready : Ready width height source machine) :
    (runStatements surface machine
        (ofLines 1 (writtenLines width height source))).context.diagnostics
      = (faults surface machine (ofLines 1 (writtenLines width height source))).map
        fun failed =>
          .ofFault failed.2 failed.1
            (quoteLine (writtenLines width height source) failed.1) := by
  rw [runStatements_diagnostics, ready.fresh, List.nil_append]
  refine List.map_congr_left fun failed mem => ?_
  have line := (faults_lines_sublist surface machine _).subset (List.mem_map_of_mem mem)
  obtain ⟨⟨number, statement⟩, executed, same⟩ := List.mem_map.mp line
  rw [← statements_written] at executed
  obtain ⟨n, raw, rfl, found, holds⟩ := mem_statements_iff.mp executed
  have created := @sourceLine?_create width height _ _ _ _ found holds
  rw [Context.sourceLine?, ← ready.quotes] at created
  rw [String.toList_ofList, Source.splitLines_written] at found
  have same : n + 1 = failed.1 := same
  rw [← same, Context.sourceLine?, created, quoteLine, Nat.add_sub_cancel]
  exact congrArg (fun quoted => Diagnostic.ofFault failed.2 _ (quoted.map String.ofList))
    found.symm

/-! ## Going on where another run has stopped -/

/-- Runs a sketch in the variables and the style that another run has left. -/
def resume (surface : Surface σ) (width height : Number) (source : String) (left : Context)
    (state : σ) : Except NumberFault (Machine σ) := do
  let (text, fresh) ← load width height source state
  let context := { fresh.context with scope := left.scope, style := left.style }
  return runStatements surface ⟨context, fresh.surface⟩ (statements text.toList)

/-- A run is one that goes on where nothing has been done. -/
theorem resume_create (surface : Surface σ) (width height : Number) (source text : String)
    (state : σ) :
    resume surface width height source (Context.create width height text) state
      = run surface width height source state := by
  rw [resume, run, load]
  cases Source.substitute width height source <;> rfl

/-- The machine that is about to go on with a sketch. -/
def beginAgain (width height : Int) (source : String) (left : Context) (state : σ) :
    Machine σ :=
  let fresh := begin width height source state
  { fresh with context := { fresh.context with scope := left.scope, style := left.style } }

theorem beginAgain_ready (width height : Int) (source : String) (left : Context) (state : σ) :
    Ready width height source (beginAgain width height source left state) := ⟨rfl, rfl⟩

/-- A run that goes on starts like the run before it has ended, but for the log. -/
theorem beginAgain_matches (width height : Int) (source : String)
    {left machine : Machine (σ × List Primitive)} (h : Machine.Matches Eq left machine) :
    Machine.Matches (fun s t => t = (s.1, left.surface.2 ++ s.2))
      (beginAgain width height source left.context (left.surface.1, [])) machine := by
  refine ⟨h.scope, h.style, ?_⟩
  rw [← h.surface]
  show left.surface = (left.surface.1, left.surface.2 ++ [])
  rw [List.append_nil]

/-- A run that goes on goes through the statements of its lines. -/
theorem resume_eq_ofLines (hwidth : Number.IsShort width) (hheight : Number.IsShort height)
    (surface : Surface σ) (source : String) (left : Context) (state : σ) :
    resume surface (.int width) (.int height) source left state
      = .ok (runStatements surface (beginAgain width height source left state)
          (ofLines 1 (writtenLines width height source))) := by
  rw [← statements_written, resume, load_int hwidth hheight]
  rfl

/-- A run goes through the statements of its lines. -/
theorem run_eq_ofLines (hwidth : Number.IsShort width) (hheight : Number.IsShort height)
    (surface : Surface σ) (source : String) (state : σ) :
    run surface (.int width) (.int height) source state
      = .ok (runStatements surface (begin width height source state)
          (ofLines 1 (writtenLines width height source))) := by
  rw [← resume_create surface _ _ source "" state, resume_eq_ofLines hwidth hheight]
  rfl

/-! ## Two sketches, one below the other -/

theorem writtenLines_append (width height : Int) (p q : String) :
    writtenLines width height (p ++ "\n" ++ q)
      = writtenLines width height p ++ writtenLines width height q := by
  have text : (p ++ "\n" ++ q).toList = p.toList ++ '\n' :: q.toList := by simp
  rw [writtenLines, text, Source.splitLines_append_newline, List.map_append]
  rfl

/-- The statements of two sketches, one below the other. -/
theorem ofLines_writtenLines_append (width height : Int) (p q : String) :
    ofLines 1 (writtenLines width height (p ++ "\n" ++ q))
      = ofLines 1 (writtenLines width height p)
          ++ (ofLines 1 (writtenLines width height q)).map
              (Prod.map (· + (writtenLines width height p).length) id) := by
  rw [writtenLines_append, ofLines_append, ofLines_add]

/-- The reports of lines that have moved down, below others. -/
theorem map_ofFault_moveDown {surface : Surface σ} {machine : Machine σ}
    {below : List (List Char)} (above : List (List Char)) :
    ((faults surface machine (ofLines 1 below)).map (Prod.map (· + above.length) id)).map
        (fun failed => Diagnostic.ofFault failed.2 failed.1
          (quoteLine (above ++ below) failed.1))
      = ((faults surface machine (ofLines 1 below)).map fun failed =>
          Diagnostic.ofFault failed.2 failed.1 (quoteLine below failed.1)).map
            (Diagnostic.moveDown above.length) := by
  rw [List.map_map, List.map_map]
  refine List.map_congr_left fun failed mem => ?_
  have quoted := Source.quoteLine_append_right above (bounds_of_mem_faults mem).1 below
  simp only [Function.comp, Prod.map_fst, Prod.map_snd, id_eq, quoted,
    Diagnostic.moveDown_ofFault]

/-- **Two sketches, one below the other, are run one after the other.** -/
theorem run_join (surface : Surface σ) (width height : Int) (p q : String) (state : σ)
    {first second whole : Machine (σ × List Primitive)}
    (hfirst : runStatements surface.logging (begin width height p (state, []))
      (ofLines 1 (writtenLines width height p)) = first)
    (hsecond : runStatements surface.logging
      (beginAgain width height q first.context (first.surface.1, []))
      (ofLines 1 (writtenLines width height q)) = second)
    (hwhole : runStatements surface.logging (begin width height (p ++ "\n" ++ q) (state, []))
      (ofLines 1 (writtenLines width height (p ++ "\n" ++ q))) = whole) :
    Machine.Matches (fun s t => t = (s.1, first.surface.2 ++ s.2)) second whole ∧
      whole.context.diagnostics = first.context.diagnostics ++
        second.context.diagnostics.map
          (Diagnostic.moveDown (writtenLines width height p).length) := by
  -- the first part: the same machine, but for the text that it quotes
  have start := begin_matches width height p (p ++ "\n" ++ q) (state, ([] : List Primitive))
  have above := runStatements_matches (.refl surface.logging) start
    (ofLines 1 (writtenLines width height p))
  have faultsAbove := faults_eq (.refl surface.logging) start
    (ofLines 1 (writtenLines width height p))
  rw [hfirst] at above
  -- the second part: the same machine again, but for the log and for the numbers of the lines
  have between := beginAgain_matches width height q above
  have alike := surface.logging_alike_logging first.surface.2
  have below := runStatements_matches_map alike between
    (ofLines 1 (writtenLines width height q)) (· + (writtenLines width height p).length)
  have faultsBelow := faults_map alike between (ofLines 1 (writtenLines width height q))
    (· + (writtenLines width height p).length)
  rw [← runStatements_append, ← ofLines_writtenLines_append, hsecond, hwhole] at below
  refine ⟨below, ?_⟩
  rw [← hwhole, ← hfirst, ← hsecond, diagnostics_of_ready (begin_ready ..),
    diagnostics_of_ready (begin_ready ..), diagnostics_of_ready (beginAgain_ready ..),
    ofLines_writtenLines_append, faults_append, List.map_append, faultsAbove, faultsBelow,
    writtenLines_append, map_ofFault_moveDown]
  refine congrArg (· ++ _) (List.map_congr_left fun failed mem => ?_)
  rw [Source.quoteLine_append_left (bounds_of_mem_faults mem)]

/-! ## A line that holds no code -/

theorem writtenLines_insertLine {line : List Char} (oneLine : '\n' ∉ line)
    (width height : Int) (k : Nat) (source : String) :
    writtenLines width height (insertLine k line source)
      = (writtenLines width height source).take k
          ++ written width height line :: (writtenLines width height source).drop k := by
  rw [writtenLines, Source.splitLines_insertLine oneLine, writtenLines, List.map_append,
    List.map_cons, List.map_take, List.map_drop]

/-- The statements of lines among which one without code is put in. -/
theorem ofLines_insert {line : List Char} (empty : Statement.ofLine? line = none) (k : Nat)
    (lines : List (List Char)) :
    ofLines 1 (lines.take k ++ line :: lines.drop k)
      = (ofLines 1 lines).map (Prod.map (numberBelow k) id) := by
  have above : (ofLines 1 (lines.take k)).map (Prod.map (numberBelow k) id)
      = ofLines 1 (lines.take k) := by
    calc (ofLines 1 (lines.take k)).map (Prod.map (numberBelow k) id)
        = (ofLines 1 (lines.take k)).map id := by
          refine List.map_congr_left fun s mem => ?_
          obtain ⟨-, high⟩ := bounds_of_mem_ofLines mem
          rw [List.length_take] at high
          have within : s.1 ≤ k := by omega
          rw [Prod.map, numberBelow, if_pos within]
          rfl
      _ = ofLines 1 (lines.take k) := List.map_id _
  have below : (ofLines (1 + (lines.take k).length) (lines.drop k)).map
        (Prod.map (numberBelow k) id)
      = ofLines (1 + (lines.take k).length + 1) (lines.drop k) := by
    rw [ofLines_add (1 + (lines.take k).length) 1]
    refine List.map_congr_left fun s mem => ?_
    obtain ⟨low, high⟩ := bounds_of_mem_ofLines mem
    rw [List.length_take, List.length_drop] at high
    rw [List.length_take] at low
    have beyond : ¬ s.1 ≤ k := by omega
    rw [Prod.map, Prod.map, numberBelow, if_neg beyond]
  rw [ofLines_append, ofLines_cons_of_none empty]
  conv_rhs => rw [← List.take_append_drop k lines, ofLines_append, List.map_append,
    above, below]

/-- **A line without code only moves the lines below it.** -/
theorem run_insertLine (surface : Surface σ) (width height : Int) (source : String)
    (state : σ)
    {line : List Char} (oneLine : '\n' ∉ line) (skipped : Source.isSkipped (trim line) = true)
    (k : Nat) {plain longer : Machine σ}
    (hplain : runStatements surface (begin width height source state)
      (ofLines 1 (writtenLines width height source)) = plain)
    (hlonger : runStatements surface (begin width height (insertLine k line source) state)
      (ofLines 1 (writtenLines width height (insertLine k line source))) = longer) :
    Machine.Matches Eq plain longer ∧
      longer.context.diagnostics = plain.context.diagnostics.map
        (Diagnostic.moveBelow k) := by
  have empty : Statement.ofLine? (written width height line) = none := by
    rw [Statement.ofLine?, Source.codeOf?, if_pos (Source.isSkipped_trim_written skipped ..)]
    rfl
  have lines := writtenLines_insertLine oneLine width height k source
  have statements := ofLines_insert empty k (writtenLines width height source)
  rw [← lines] at statements
  have start := begin_matches width height source (insertLine k line source) state
  have matched := runStatements_matches_map (.refl surface) start
    (ofLines 1 (writtenLines width height source)) (numberBelow k)
  have fail := faults_map (.refl surface) start
    (ofLines 1 (writtenLines width height source)) (numberBelow k)
  rw [← statements] at matched fail
  rw [hplain, hlonger] at matched
  refine ⟨matched, ?_⟩
  rw [← hplain, ← hlonger, diagnostics_of_ready (begin_ready ..),
    diagnostics_of_ready (begin_ready ..), fail, lines, List.map_map, List.map_map]
  refine List.map_congr_left fun failed mem => ?_
  simp only [Function.comp, Prod.map_fst, Prod.map_snd, id_eq, Diagnostic.moveBelow_ofFault,
    Source.quoteLine_insert (bounds_of_mem_faults mem)]

/-- **Runs compose line by line.**  Take two sketches, one below the other.  On every surface,
of which a log is kept, and for every size that is not too long, the whole makes the calls of
the first and then those of the second, which starts in the variables and the style that the
first has left.  It ends as the second ends, and reports what the first reports and then what
the second reports, the latter with the lines counted on.  In particular a blank line or a
comment line may be put in anywhere: only the numbers of the lines below it change. -/
theorem run_append_newline (surface : Surface σ) (width height : Int)
    (hwidth : Number.IsShort width) (hheight : Number.IsShort height) (p q : String)
    (state : σ) :
    (∃ first second whole,
      run surface.logging (.int width) (.int height) p (state, []) = .ok first ∧
      resume surface.logging (.int width) (.int height) q first.context (first.surface.1, [])
        = .ok second ∧
      run surface.logging (.int width) (.int height) (p ++ "\n" ++ q) (state, [])
        = .ok whole ∧
      whole.surface = (second.surface.1, first.surface.2 ++ second.surface.2) ∧
      whole.context.scope = second.context.scope ∧
      whole.context.style = second.context.style ∧
      whole.context.diagnostics = first.context.diagnostics ++
        second.context.diagnostics.map (Diagnostic.moveDown (splitLines p.toList).length)) ∧
    ∀ (k : Nat) (line : List Char), '\n' ∉ line → Source.isSkipped (trim line) = true →
      ∃ plain longer,
        run surface.logging (.int width) (.int height) p (state, []) = .ok plain ∧
        run surface.logging (.int width) (.int height) (insertLine k line p) (state, [])
          = .ok longer ∧
        longer.surface = plain.surface ∧ longer.context.scope = plain.context.scope ∧
        longer.context.style = plain.context.style ∧
        longer.context.diagnostics = plain.context.diagnostics.map
          (Diagnostic.moveBelow k) := by
  have length : (writtenLines width height p).length = (splitLines p.toList).length :=
    List.length_map _
  have runs := run_eq_ofLines hwidth hheight surface.logging
  constructor
  · obtain ⟨matched, reports⟩ := run_join surface width height p q state rfl rfl rfl
    rw [length] at reports
    exact ⟨_, _, _, runs p _, resume_eq_ofLines hwidth hheight .., runs (p ++ "\n" ++ q) _,
      matched.surface, matched.scope.symm, matched.style.symm, reports⟩
  · intro k line oneLine skipped
    obtain ⟨matched, reports⟩ :=
      run_insertLine surface.logging width height p (state, []) oneLine skipped k rfl rfl
    exact ⟨_, _, runs p _, runs (insertLine k line p) _, matched.surface.symm,
      matched.scope.symm, matched.style.symm, reports⟩

/-- The second sketch uses a variable and the cursor of the first, and each has a line that
fails; a comment line goes between the two lines of the first. -/
theorem run_append_newline_shared_variable :
    let surface := Surface.recording 240 320
    let p := "int x = WIDTH / 2;\ntft.setCursor(x);"
    let q := "tft.println(x);\ntft.println(y, z);\nint x = w;"
    let comment := "  // WIDTH".toList
    Number.IsShort 240 ∧ Number.IsShort 320 ∧ '\n' ∉ comment ∧
      Source.isSkipped (trim comment) = true ∧
      (∃ first second whole,
        run surface.logging (.int 240) (.int 320) p ([], []) = .ok first ∧
        resume surface.logging (.int 240) (.int 320) q first.context (first.surface.1, [])
          = .ok second ∧
        run surface.logging (.int 240) (.int 320) (p ++ "\n" ++ q) ([], []) = .ok whole ∧
        whole.surface.2 = first.surface.2 ++ second.surface.2 ∧
        whole.context.diagnostics = first.context.diagnostics ++
          second.context.diagnostics.map (Diagnostic.moveDown 2) ∧
        whole.context.diagnostics.map Diagnostic.line = [2, 5]) ∧
      ∃ plain longer,
        run surface.logging (.int 240) (.int 320) p ([], []) = .ok plain ∧
        run surface.logging (.int 240) (.int 320) (insertLine 1 comment p) ([], [])
          = .ok longer ∧
        longer.context.diagnostics = plain.context.diagnostics.map
          (Diagnostic.moveBelow 1) := by
  intro surface p q comment
  have hwidth : Number.IsShort 240 := by decide
  have hheight : Number.IsShort 320 := by decide
  have oneLine : '\n' ∉ comment := by decide
  have skipped : Source.isSkipped (trim comment) = true := by decide
  obtain ⟨⟨first, second, whole, hfirst, hsecond, hwhole, calls, -, -, reports⟩, inserted⟩ :=
    run_append_newline surface 240 320 hwidth hheight p q []
  obtain ⟨plain, longer, hplain, hlonger, -, -, -, moved⟩ :=
    inserted 1 comment oneLine skipped
  have lines : (run surface.logging (.int 240) (.int 320) (p ++ "\n" ++ q) ([], [])).map
      (fun m => m.context.diagnostics.map Diagnostic.line) = .ok [2, 5] := by decide +kernel
  have length : (splitLines p.toList).length = 2 := by decide
  rw [hwhole] at lines
  rw [length] at reports
  refine ⟨hwidth, hheight, oneLine, skipped, ?_, plain, longer, hplain, hlonger, moved⟩
  exact ⟨first, second, whole, hfirst, hsecond, hwhole, by rw [calls], reports,
    Except.ok.inj lines⟩

end Sketch

end SketchScreen
