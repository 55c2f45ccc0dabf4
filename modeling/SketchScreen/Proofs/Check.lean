import SketchScreen.CommandLine.Run
import SketchScreen.Proofs.JsonText

/-!
# Checking a File

Checking a sketch ends with a status: zero if its file can be loaded and its run is clean, one
if there are diagnostics or the file cannot be loaded.

## Main Definitions

- `CommandLine.Escapes`: the failures to load a file that checking stops at.

## Design Notes

Not every failure to load a file is reported.  Three kinds are not: octets that are no text, a
text whose reader fails with more than a fault of its format, and a stored size whose
conversion to integers fails with more than a rejection.  `Escapes` lists them with what the
file then holds, and is shown to be exactly what is not reported.

A run is clean or not for every sketch, but telling so may fail in two ways.  A report in JSON
fails for diagnostics whose number or lines are too long to be written.  Any other report
fails at a line that holds half a character, which a project file and the name of a file may
have; a sketch on its own has none.
-/

namespace SketchScreen

/-! ## Sizes -/

namespace Project

theorem inRange_iff (n : Int) : inRange n = true ↔ 1 ≤ n ∧ n ≤ 1920 := by
  simp only [inRange, Bool.and_eq_true, decide_eq_true_eq]
  rfl

theorem sizeFault_ne_ok {α : Type} (width height : Value) (result : α) :
    sizeFault width height ≠ .ok result := by
  unfold sizeFault
  split <;> simp

/-- A size that is accepted is made of whole numbers in range. -/
theorem isInteger_and_inRange_of_checkSize {width height : Value} {w h : Int}
    (checked : checkSize width height = .ok (w, h)) :
    (isInteger width w = true ∧ isInteger height h = true) ∧
      inRange w = true ∧ inRange h = true := by
  obtain ⟨first, -, checked⟩ := exists_of_bind_eq_ok checked
  cases first with
  | none => exact absurd checked (sizeFault_ne_ok width height _)
  | some w' =>
      obtain ⟨second, -, checked⟩ := exists_of_bind_eq_ok checked
      cases second with
      | none => exact absurd checked (sizeFault_ne_ok width height _)
      | some h' =>
          simp only at checked
          split at checked
          · exact absurd checked (sizeFault_ne_ok width height _)
          · rename_i whole
            split at checked
            · rename_i range
              cases checked
              exact ⟨by simpa using whole, by simpa using range⟩
            · cases checked

theorem isInteger_int (n : Int) : isInteger (.number (.int n)) n = true := by
  simp [isInteger, Value.numeric?, Number.eq, Number.compare?]

/-- Integers are accepted or out of range. -/
theorem checkSize_int (w h : Int) :
    checkSize (.number (.int w)) (.number (.int h))
      = if inRange w && inRange h then .ok (w, h) else .error .range := by
  have side : ∀ n, side? (.number (.int n)) = .ok (some n) := fun _ => rfl
  simp only [checkSize, side, bind, Except.bind, isInteger_int, Bool.and_self, Bool.not_true,
    Bool.false_eq_true, if_false]
  rfl

/-- The sides of a screen are short. -/
theorem isShort_of_inRange {n : Int} (h : inRange n = true) : Number.IsShort n := by
  rw [inRange_iff] at h
  exact Number.isShort_of_natAbs_lt (by omega)

end Project

/-! ## Failures to load a file -/

namespace CommandLine

/-- The failures to load a file that checking stops at, with what the file then holds. -/
inductive Escapes (store : Store) (path : Path) : Failure → Prop where
  /-- Octets that are no text. -/
  | encoding {data : List UInt8} {fault : Text.Utf8Fault} :
      store.read path = .ok (.octets data) → Text.decodeUtf8 data = .error fault →
      Escapes store path (.encoding fault)
  /-- A text whose reader fails with more than a fault of its format. -/
  | reader {format : ProjectFormat} {cs : List Char} {failure : Failure} :
      ProjectFormat.ofPath? path = some format → store.readText path = .ok cs →
      Project.readAs format cs = .error failure → failure.isReported = false →
      Escapes store path failure
  /-- A stored size whose conversion to integers fails with more than a rejection. -/
  | size {format : ProjectFormat} {cs : List Char} {value : Value} {fault : NumberFault} :
      ProjectFormat.ofPath? path = some format → store.readText path = .ok cs →
      Project.readAs format cs = .ok value → Project.ofValue value = .error (.number fault) →
      Escapes store path (.project (.number fault))

theorem Escapes.isReported_eq_false {store : Store} {path : Path} {failure : Failure}
    (h : Escapes store path failure) : failure.isReported = false := by
  cases h with
  | encoding _ _ => rfl
  | reader _ _ _ unreported => exact unreported
  | size _ _ _ _ => rfl

variable {store : Store} {path : Path} {failure : Failure}

/-- A path to something that is there has parts. -/
theorem exists_resolve_of_contains (present : store.contains path = .ok true) :
    ∃ parts, store.resolve path = .ok parts := by
  unfold Store.contains at present
  split at present
  · rename_i parts resolved
    exact ⟨parts, resolved⟩
  · split at present <;> cases present

/-- A path that cannot be followed is reported. -/
theorem isReported_of_contains {fault : FileFault} (h : store.contains path = .error fault) :
    (Failure.file fault).isReported = true := by
  unfold Store.contains at h
  split at h
  · cases h
  · rename_i problem _
    split at h
    · cases h
    · rename_i absence
      cases h
      cases problem <;> first | rfl | exact absurd rfl absence

/-- A file that is there may still not be readable, which is reported. -/
theorem isReported_of_read (present : store.contains path = .ok true) {fault : FileFault}
    (h : store.read path = .error fault) : (Failure.file fault).isReported = true := by
  obtain ⟨parts, resolved⟩ := exists_resolve_of_contains present
  obtain ⟨problem, failed, rfl⟩ := exists_of_mapError_eq_error h
  -- the path has been followed, so only what it leads to can be at fault
  rw [resolved] at failed
  replace failed : store.readAt parts = .error problem := failed
  unfold Store.readAt at failed
  split at failed
  · cases failed
    rfl
  · split at failed <;> cases failed
    rfl

/-- The text of a file that is there. -/
theorem escapes_of_readText (present : store.contains path = .ok true)
    (h : store.readText path = .error failure) (unreported : failure.isReported = false) :
    Escapes store path failure := by
  rcases error_or_exists_of_bind_eq_error h with h | ⟨content, hread, h⟩
  · obtain ⟨fault, failed, rfl⟩ := exists_of_mapError_eq_error h
    rw [isReported_of_read present failed] at unreported
    cases unreported
  · have read := eq_ok_of_mapError_eq_ok hread
    cases content with
    | octets data =>
        rcases error_or_exists_of_bind_eq_error h with h | ⟨cs, -, h⟩
        · obtain ⟨fault, failed, rfl⟩ := exists_of_mapError_eq_error h
          exact .encoding read failed
        · cases h
    | text s => cases h
    | picture p => cases h
    | drawing entities => cases h

/-- A sketch that is read from octets holds no half of a character. -/
theorem half?_of_readProject {data : List UInt8} {project : Project}
    (sketch : Project.isProjectFile path = false)
    (content : store.read path = .ok (.octets data))
    (read : readProject store path = .ok project) :
    ∀ c ∈ project.code.toList, Text.half? c = none := by
  rw [readProject, sketch, if_neg Bool.false_ne_true] at read
  obtain ⟨code, text, rfl⟩ := exists_of_map_eq_ok read
  rw [Store.readText, content] at text
  have text : ((Text.decodeUtf8 data).mapError Failure.encoding >>= fun cs =>
      pure (Text.unifyLines cs)) = .ok code := text
  obtain ⟨cs, decoded, rfl⟩ := exists_of_map_eq_ok text
  have halves := Text.half?_of_decodeFrom (eq_ok_of_mapError_eq_ok decoded)
  show ∀ c ∈ (String.ofList (Text.unifyLines cs)).toList, _
  rw [String.toList_ofList]
  intro c mem
  rcases Text.mem_of_mem_unifyLines mem with mem | rfl
  · exact halves c mem
  · decide

/-- What loading a project file goes through. -/
theorem load_eq {format : ProjectFormat} (known : ProjectFormat.ofPath? path = some format) :
    Project.load store path
      = (store.readText path >>= fun cs => Project.readAs format cs >>= fun value =>
          (Project.ofValue value).mapError .project) := by
  have formatOf : Project.formatOf path = .ok format := by
    -- its equation is not used: it would compare the suffix with those of all formats
    delta Project.formatOf
    rw [known]
  simp only [Project.load, formatOf]
  rfl

/-- The project of a file that is there. -/
theorem escapes_of_readProject (present : store.contains path = .ok true)
    (h : readProject store path = .error failure) (unreported : failure.isReported = false) :
    Escapes store path failure := by
  unfold readProject at h
  split at h
  · rename_i stored
    obtain ⟨format, known⟩ := Option.isSome_iff_exists.mp stored
    rw [load_eq known] at h
    rcases error_or_exists_of_bind_eq_error h with h | ⟨cs, text, h⟩
    · exact escapes_of_readText present h unreported
    · rcases error_or_exists_of_bind_eq_error h with h | ⟨value, read, h⟩
      · exact .reader known text h unreported
      · obtain ⟨fault, failed, rfl⟩ := exists_of_mapError_eq_error h
        cases fault with
        | number fault => exact .size known text read failed
        | _ => cases unreported
  · rcases error_or_exists_of_bind_eq_error h with h | ⟨cs, -, h⟩
    · exact escapes_of_readText present h unreported
    · cases h

/-- What loading a file goes through. -/
theorem loadInput_eq (store : Store) (input : Input) :
    loadInput store input
      = ((store.contains (Path.ofText input.file)).mapError Failure.file >>= fun present =>
          if present then
            readProject store (Path.ofText input.file) >>= fun project =>
              (Project.checkSize (replaced input.width project.width)
                (replaced input.height project.height)).mapError .project >>= fun size =>
                .ok { project with width := size.1, height := size.2 }
          else .error (.notFound (Path.ofText input.file))) := by
  simp only [loadInput]
  congr 1
  funext present
  cases present <;> rfl

/-- **What is not reported when a file is loaded**: exactly what escapes. -/
theorem isReported_eq_false_iff {file : String} {w h : Option Int}
    (failed : loadInput store ⟨file, w.map some, h.map some⟩ = .error failure) :
    failure.isReported = false ↔ Escapes store (Path.ofText file) failure := by
  refine ⟨fun unreported => ?_, Escapes.isReported_eq_false⟩
  rw [loadInput_eq] at failed
  rcases error_or_exists_of_bind_eq_error failed with failed | ⟨present, contains, failed⟩
  · obtain ⟨fault, absent, rfl⟩ := exists_of_mapError_eq_error failed
    rw [isReported_of_contains absent] at unreported
    cases unreported
  · have contains := eq_ok_of_mapError_eq_ok contains
    cases present with
    | false =>
        cases failed
        cases unreported
    | true =>
        rcases error_or_exists_of_bind_eq_error failed with failed | ⟨project, -, failed⟩
        · exact escapes_of_readProject contains failed unreported
        · rcases error_or_exists_of_bind_eq_error failed with failed | ⟨size, -, failed⟩
          · -- sides given as integers are at worst out of range, which is reported
            have given : ∀ (side : Option Int) (own : Int),
                ∃ n, replaced (side.map some) own = .number (.int n) := by
              intro side own
              cases side with
              | none => exact ⟨own, rfl⟩
              | some n => exact ⟨n, rfl⟩
            obtain ⟨w', width⟩ := given w project.width
            obtain ⟨h', height⟩ := given h project.height
            obtain ⟨fault, rejected, rfl⟩ := exists_of_mapError_eq_error failed
            simp only [width, height, Project.checkSize_int] at rejected
            split at rejected <;> cases rejected
            cases unreported
          · cases failed

/-- A size that is loaded is in range. -/
theorem inRange_of_loadInput {input : Input} {project : Project}
    (loaded : loadInput store input = .ok project) :
    Project.inRange project.width = true ∧ Project.inRange project.height = true := by
  rw [loadInput_eq] at loaded
  obtain ⟨present, -, loaded⟩ := exists_of_bind_eq_ok loaded
  cases present with
  | false => cases loaded
  | true =>
      obtain ⟨stored, -, loaded⟩ := exists_of_bind_eq_ok loaded
      obtain ⟨⟨w, h⟩, checked, loaded⟩ := exists_of_bind_eq_ok loaded
      cases loaded
      exact (Project.isInteger_and_inRange_of_checkSize (eq_ok_of_mapError_eq_ok checked)).2

/-- A sketch that is loaded from octets holds no half of a character. -/
theorem half?_of_loadInput {input : Input} {data : List UInt8} {project : Project}
    (loaded : loadInput store input = .ok project)
    (sketch : Project.isProjectFile (Path.ofText input.file) = false)
    (content : store.read (Path.ofText input.file) = .ok (.octets data)) :
    ∀ c ∈ project.code.toList, Text.half? c = none := by
  rw [loadInput_eq] at loaded
  obtain ⟨present, -, loaded⟩ := exists_of_bind_eq_ok loaded
  cases present with
  | false => cases loaded
  | true =>
      obtain ⟨stored, read, loaded⟩ := exists_of_bind_eq_ok loaded
      obtain ⟨size, -, loaded⟩ := exists_of_bind_eq_ok loaded
      have halves := half?_of_readProject sketch content read
      cases loaded
      exact halves

end CommandLine

/-! ## Reports in JSON -/

namespace Json

theorem exists_writeItems {depth : Nat} {items : List Value}
    (h : ∀ item ∈ items, ∃ part, writeAt depth item = .ok part) :
    ∃ parts, writeItems depth items = .ok parts := by
  induction items with
  | nil => exact ⟨[], by rw [writeItems]⟩
  | cons item items ih =>
      rw [List.forall_mem_cons] at h
      obtain ⟨part, first⟩ := h.1
      obtain ⟨parts, rest⟩ := ih h.2
      exact ⟨part :: parts,
        by simp [writeItems, first, rest, bind, Except.bind, pure, Except.pure]⟩

/-- A diagnostic is written if its line is short. -/
theorem exists_writeAt_diagnostic {d : Diagnostic} (short : Number.IsShort d.line)
    (depth : Nat) : ∃ text, writeAt depth d.toValue = .ok text := by
  obtain ⟨hints, written⟩ : ∃ parts, writeItems (depth + 1 + 1) (d.hints.map Value.text)
      = .ok parts := by
    refine exists_writeItems fun item mem => ?_
    obtain ⟨hint, -, rfl⟩ := List.mem_map.mp mem
    exact ⟨_, by rw [writeAt]⟩
  simp [Diagnostic.toValue, writeAt, writePairs, writeKey, writeNumber,
    Number.writeInt_of_isShort short, Except.mapError, written, bind, Except.bind, pure,
    Except.pure]

/-- Diagnostics are written if their number and all of their lines are short. -/
theorem exists_write_listValue {ds : List Diagnostic} (count : Number.IsShort ds.length)
    (lines : ∀ d ∈ ds, Number.IsShort d.line) :
    ∃ text, write (Diagnostic.listValue ds) = .ok text := by
  obtain ⟨parts, written⟩ : ∃ parts, writeItems (0 + 1 + 1) (ds.map Diagnostic.toValue)
      = .ok parts := by
    refine exists_writeItems fun item mem => ?_
    obtain ⟨d, found, rfl⟩ := List.mem_map.mp mem
    exact exists_writeAt_diagnostic (lines d found) _
  simp [Diagnostic.listValue, write, writeAt, writePairs, writeKey, writeNumber,
    Number.writeInt_of_isShort count, Except.mapError, written, bind, Except.bind, pure,
    Except.pure]

end Json

/-! ## Runs and their status -/

namespace Number

/-- What is between zero and a short number is short. -/
theorem IsShort.of_le {m n : Int} (h : IsShort n) (nonneg : 0 ≤ m) (le : m ≤ n) :
    IsShort m := by
  rw [isShort_iff] at h ⊢
  omega

end Number

/-- A run reports no more lines than its sketch has. -/
theorem Sketch.length_diagnostics_le {σ : Type} (surface : Surface σ) {machine : Machine σ}
    (fresh : machine.context.diagnostics = []) (source : List Char) :
    (runStatements surface machine (statements source)).context.diagnostics.length
      ≤ (Source.splitLines source).length := by
  have failing := (faults_lines_sublist surface machine (statements source)).length_le
  have code : (statements source).length ≤ (Source.splitLines source).length := by
    rw [statements_eq]
    exact Nat.le_trans (List.length_filterMap_le _ _) (by simp)
  rw [List.length_map, List.length_map] at failing
  rw [runStatements_diagnostics, fresh, List.nil_append, List.length_map]
  exact Nat.le_trans failing code

namespace CommandLine

/-- **A project that is loaded can be run**, with at most one diagnostic for
each of its lines. -/
theorem exists_runOnRaster {project : Project} (width : Project.inRange project.width = true)
    (height : Project.inRange project.height = true) :
    ∃ machine, runOnRaster project = .ok machine ∧
      machine.context.diagnostics.length ≤ (Source.splitLines project.code.toList).length ∧
      ∀ d ∈ machine.context.diagnostics, 0 ≤ d.line ∧
        d.line ≤ (Source.splitLines project.code.toList).length := by
  have hwidth := Project.isShort_of_inRange width
  have hheight := Project.isShort_of_inRange height
  have loaded := Sketch.load_int hwidth hheight project.code
    (Screen.blank (rasterOf project) .black)
  refine ⟨_, by rw [runOnRaster, Sketch.onRaster, Sketch.run_of_load loaded]; rfl, ?_,
    fun d mem => ?_⟩
  · refine Nat.le_trans (Sketch.length_diagnostics_le _ rfl _) ?_
    exact Nat.le_of_eq (by rw [String.toList_ofList, Source.splitLines_written,
      List.length_map])
  · obtain ⟨n, original, statement, fault, line, -, -, rfl⟩ :=
      Sketch.mem_diagnostics_iff.mp mem
    have bound := (List.getElem?_eq_some_iff.mp line).1
    show (0 : Int) ≤ ((n + 1 : Nat) : Int) ∧ ((n + 1 : Nat) : Int) ≤ _
    omega

theorem Job.bind_apply {α β : Type} (job : Job α) (next : α → Job β) (console : Console) :
    (job >>= next) console = match job console with
      | (.ok a, console) => next a console
      | (.error failure, console) => (.error failure, console) := by
  show (match job console with
    | (outcome, console) => ExceptT.bindCont next outcome console) = _
  rcases job console with ⟨_ | _, _⟩ <;> rfl

theorem Job.say_apply (line : String) (console : Console) :
    Job.say line console = match Text.looseHalf? line with
      | none => (.ok (), console.write (line ++ "\n"))
      | some loose => (.error (.unencodable loose), console) := by
  rw [Job.say]
  cases Text.looseHalf? line <;> rfl

/-- A step that gives a result changes nothing. -/
theorem Job.lift_ok_bind {α β : Type} (a : α) (next : α → Job β) :
    ((liftM (Except.ok a : Except Failure α) : Job α) >>= next) = next a := rfl

/-- Lines are written up to the first that holds a half. -/
theorem Job.exists_forM_say (lines : List String) (console : Console) :
    ∃ after, lines.forM Job.say console = (match lines.findSome? Text.looseHalf? with
      | none => .ok ()
      | some loose => .error (.unencodable loose), after) := by
  induction lines generalizing console with
  | nil => exact ⟨console, rfl⟩
  | cons line lines ih =>
      show ∃ after, (Job.say line >>= fun _ => lines.forM Job.say) console = _
      rw [Job.bind_apply, Job.say_apply, List.findSome?_cons]
      cases Text.looseHalf? line with
      | none => exact ih _
      | some loose => exact ⟨console, rfl⟩

/-- Checking a project ends with the status of its run, unless a line cannot be written. -/
theorem checkProject_apply (input : Input) {json : Bool} {project : Project}
    {machine : Machine Screen} (ran : runOnRaster project = .ok machine)
    (written : json = true → ∃ text,
      Project.writeAs .json (Diagnostic.listValue machine.context.diagnostics) = .ok text)
    (console : Console) :
    ∃ after, checkProject input json project console
      = (match if json then none
          else (checkLines input machine).findSome? Text.looseHalf? with
        | none => .ok (statusOf machine.context.diagnostics)
        | some loose => .error (.unencodable loose), after) := by
  simp only [checkProject, ran, Job.lift_ok_bind]
  cases json with
  | true =>
      obtain ⟨text, written⟩ := written rfl
      have ascii : Json.IsAscii text := by
        rw [Project.writeAs] at written
        split at written <;> cases written
        rename_i text
        exact Json.isAscii_writeAt text
      simp only [if_true, written, Job.lift_ok_bind]
      rw [Job.bind_apply, Job.say_apply, Text.looseHalf?_eq_none_iff.mpr ascii.half?]
      exact ⟨_, rfl⟩
  | false =>
      simp only [Bool.false_eq_true, if_false]
      obtain ⟨after, told⟩ := Job.exists_forM_say (checkLines input machine) console
      rw [Job.bind_apply, told]
      cases (checkLines input machine).findSome? Text.looseHalf? with
      | none => exact ⟨after, rfl⟩
      | some loose => exact ⟨after, rfl⟩

theorem Job.reporting_apply {α : Type} (job : Job α) (next : α → Job Nat)
    (console : Console) :
    Job.reporting job next console = match job console with
      | (.ok result, console) => next result console
      | (.error failure, console) =>
        if failure.isReported then
          (.ok 1, console.writeError ("Error: " ++ failure.message ++ "\n"))
        else (.error failure, console) := rfl

theorem Job.load_apply (input : Input) (console : Console) :
    Job.load input console = (loadInput console.store input, console) := rfl

/-- What checking comes to. -/
theorem check_apply (input : Input) (json : Bool) (console : Console) :
    check input json console = match loadInput console.store input with
      | .ok project => checkProject input json project console
      | .error failure =>
        if failure.isReported then
          (.ok 1, console.writeError ("Error: " ++ failure.message ++ "\n"))
        else (.error failure, console) := by
  rw [check, Job.reporting_apply, Job.load_apply]
  cases loadInput console.store input <;> rfl

/-- **Checking ends with a status, except for what escapes.**  A file that is loaded has a
size in range and can be run.  Checking it ends with zero or one, as the run is clean or
not, unless a line that tells of the run holds halves of characters; a report in JSON never
does, and neither does a sketch that was read from octets.  A file that is not loaded is
reported with status one, unless the failure escapes.  A report in JSON is taken to have no
more lines than can be counted. -/
theorem run_check (now : String) (store : Store) {texts : List String} {file : String}
    {w h : Option Int} {json : Bool}
    (parsed : Invocation.parse texts = .ok (.check ⟨file, w.map some, h.map some⟩ json)) :
    (∀ project, loadInput store ⟨file, w.map some, h.map some⟩ = .ok project →
      (1 ≤ project.width ∧ project.width ≤ 1920) ∧
      (1 ≤ project.height ∧ project.height ≤ 1920) ∧
      (∀ data, Project.isProjectFile (Path.ofText file) = false →
        store.read (Path.ofText file) = .ok (.octets data) →
          ∀ c ∈ project.code.toList, Text.half? c = none) ∧
      ∃ machine, runOnRaster project = .ok machine ∧
        let lines := checkLines ⟨file, w.map some, h.map some⟩ machine
        let status := Ending.status (if machine.context.diagnostics = [] then 0 else 1)
        (json = true → Number.IsShort (Source.splitLines project.code.toList).length →
          (run now store texts).2 = status) ∧
        (json = false → (∀ line ∈ lines, ∀ c ∈ line.toList, Text.half? c = none) →
          (run now store texts).2 = status) ∧
        ∀ loose, json = false → lines.findSome? Text.looseHalf? = some loose →
          (run now store texts).2 = .failure (.unencodable loose)) ∧
    ∀ failure, loadInput store ⟨file, w.map some, h.map some⟩ = .error failure →
      (¬ Escapes store (Path.ofText file) failure →
        (run now store texts).2 = .status 1 ∧
          (run now store texts).1.errors
            = Text.escapeHalves ("Error: " ++ failure.message ++ "\n")) ∧
      (Escapes store (Path.ofText file) failure →
        (run now store texts).2 = .failure failure) := by
  have start : run now store texts
      = (check ⟨file, w.map some, h.map some⟩ json).ending (Console.start store) := by
    rw [run, parsed]
    rfl
  have applied := check_apply ⟨file, w.map some, h.map some⟩ json (Console.start store)
  simp only [Console.start] at applied start
  refine ⟨fun project loaded => ?_,
    fun failure failed => ⟨fun caught => ?_, fun escapes => ?_⟩⟩
  · obtain ⟨width, height⟩ := inRange_of_loadInput loaded
    obtain ⟨machine, ran, count, lines⟩ := exists_runOnRaster width height
    refine ⟨(Project.inRange_iff _).mp width, (Project.inRange_iff _).mp height,
      fun data sketch content => half?_of_loadInput loaded sketch content, machine, ran, ?_⟩
    rw [loaded] at applied
    have ended : (json = true → ∃ text, Project.writeAs .json
          (Diagnostic.listValue machine.context.diagnostics) = .ok text) →
        (run now store texts).2
          = match if json then none
              else (checkLines ⟨file, w.map some, h.map some⟩ machine).findSome?
                Text.looseHalf? with
            | none => .status (if machine.context.diagnostics = [] then 0 else 1)
            | some loose => .failure (.unencodable loose) := by
      intro written
      obtain ⟨after, checked⟩ := checkProject_apply ⟨file, w.map some, h.map some⟩ ran written
        (Console.start store)
      rw [start, Job.ending, applied.trans checked]
      generalize (if json then none else
        (checkLines ⟨file, w.map some, h.map some⟩ machine).findSome? Text.looseHalf?) = found
      cases found with
      | none => simp only [statusOf, List.isEmpty_iff]
      | some loose => rfl
    refine ⟨?_, ?_, ?_⟩
    · rintro rfl short
      have written : ∃ text, Project.writeAs .json
          (Diagnostic.listValue machine.context.diagnostics) = .ok text := by
        obtain ⟨text, written⟩ := Json.exists_write_listValue
          (short.of_le (Int.natCast_nonneg _) (Int.ofNat_le.mpr count))
          fun d mem => short.of_le (lines d mem).1 (lines d mem).2
        exact ⟨text, by rw [Project.writeAs, written]⟩
      exact ended fun _ => written
    · rintro rfl whole
      have encodable := List.findSome?_eq_none_iff.mpr fun line mem =>
        Text.looseHalf?_eq_none_iff.mpr (whole line mem)
      rw [ended nofun, if_neg Bool.false_ne_true, encodable]
    · rintro loose rfl found
      rw [ended nofun, if_neg Bool.false_ne_true, found]
  · have reported : failure.isReported = true := by
      rw [← Bool.not_eq_false, isReported_eq_false_iff failed]
      exact caught
    simp only [failed, if_pos reported] at applied
    rw [start, Job.ending, applied]
    exact ⟨rfl, String.empty_append⟩
  · have unreported := escapes.isReported_eq_false
    simp only [failed, unreported, Bool.false_eq_true, if_false] at applied
    rw [start, Job.ending, applied]

/-- A file that does not exist is reported. -/
theorem run_check_missing_file :
    (run "" ⟨[], [], []⟩ ["check", "a.ino", "--width", "8"]).2 = .status 1 ∧
      (run "" ⟨[], [], []⟩ ["check", "a.ino", "--width", "8"]).1.errors
        = Text.escapeHalves
            ("Error: " ++ (Failure.notFound (Path.ofText "a.ino")).message ++ "\n") := by
  have parsed : Invocation.parse ["check", "a.ino", "--width", "8"]
      = .ok (.check ⟨"a.ino", (some 8).map some, (none : Option Int).map some⟩ false) := by
    decide +kernel
  have absent : loadInput ⟨[], [], []⟩
      ⟨"a.ino", (some 8).map some, (none : Option Int).map some⟩
      = .error (.notFound (Path.ofText "a.ino")) := by
    rfl
  refine ((run_check "" ⟨[], [], []⟩ parsed).2 _ absent).1 fun escapes => ?_
  cases escapes.isReported_eq_false

/-- A project whose sketch is half a character: the first line is written, the
report is not. -/
example : (run "" ⟨[], [(["p.json"], .text "\x7b\"code\": \"int x = \\ud800;\"\x7d")], []⟩
    ["check", "p.json"]).2 = .failure (.unencodable ⟨0xD800, 36, 1⟩) := by
  decide +kernel

/-- A sketch of one octet that is no text: checking it ends without a status. -/
theorem not_forall_run_check_status :
    ¬ ∀ (now : String) (store : Store) (texts : List String) (file : String)
      (w h : Option Int) (json : Bool),
      Invocation.parse texts = .ok (.check ⟨file, w.map some, h.map some⟩ json) →
      ∃ code, (code = 0 ∨ code = 1) ∧ (run now store texts).2 = .status code := by
  intro ends
  have parsed : Invocation.parse ["check", "u.ino"]
      = .ok (.check
          ⟨"u.ino", (none : Option Int).map some, (none : Option Int).map some⟩ false) := by
    decide +kernel
  obtain ⟨code, -, status⟩ :=
    ends "" ⟨[], [(["u.ino"], .octets [0xFF])], []⟩ ["check", "u.ino"] "u.ino"
      none none false parsed
  have failure : (run "" ⟨[], [(["u.ino"], .octets [0xFF])], []⟩ ["check", "u.ino"]).2
      = .failure (.encoding ⟨.start, 0, 0xFF, 1⟩) := by
    decide +kernel
  cases failure.symm.trans status

end CommandLine

end SketchScreen
