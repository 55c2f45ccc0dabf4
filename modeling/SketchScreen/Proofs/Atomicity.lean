import SketchScreen.Proofs.Run
import SketchScreen.Surface.Raster

/-!
# Atomic Lines

On a raster a line that fails does nothing but fail: it leaves variables, cursor, colour and
size of texts as they were, and asks the painter for nothing.

## Main Definitions

- `Machine.IsAtomic`: an outcome that has a fault only if the machine is as it was before.

## Design Notes

Every command settles its arguments before it acts, and a raster plans a request in full
before it makes it, so almost all faults come before the first change.  The exception is a
text that is written at the cursor: the cursor moves after the text is drawn, and moving it
computes with floats.  It is atomic since a text is drawn only where its place and its height
are finite, and then the cursor can be moved, as `TextStyle.advanceLine_of_isFinite` says.
-/

namespace SketchScreen

/-! ## Finite numbers -/

/-- A number that passes the test of finiteness has a nearest float. -/
theorem Number.toFloat_of_isFinite {n : Number} (finite : n.isFinite = .ok true) :
    ∃ x, n.toFloat = .ok x := by
  cases n with
  | float x => exact ⟨x, rfl⟩
  | int n =>
      cases nearest : intToFloat n with
      | ok x => exact ⟨x, nearest⟩
      | error fault =>
          rw [isFinite, nearest] at finite
          cases finite

/-- Numbers that are all found finite are finite one by one. -/
theorem Geometry.isFinite_of_allFinite {numbers : List Number}
    (finite : allFinite numbers = .ok true) : ∀ n ∈ numbers, n.isFinite = .ok true := by
  induction numbers with
  | nil => simp
  | cons first rest ih =>
      rw [allFinite] at finite
      cases test : first.isFinite with
      | error fault =>
          rw [test] at finite
          cases finite
      | ok answer =>
          rw [test] at finite
          cases answer with
          | false => cases finite
          | true =>
              intro n mem
              rcases List.mem_cons.mp mem with rfl | mem
              · exact test
              · exact ih finite n mem

/-- The cursor can be moved down from a finite place by glyphs of a finite height. -/
theorem TextStyle.advanceLine_of_isFinite {style : TextStyle}
    (place : style.cursorY.isFinite = .ok true)
    (height : style.fontSize.isFinite = .ok true) :
    ∃ moved, style.advanceLine = .ok moved := by
  obtain ⟨size, hsize⟩ := Number.toFloat_of_isFinite height
  obtain ⟨y, hy⟩ := Number.toFloat_of_isFinite place
  have product : style.fontSize.mul (.float 1.5) = .ok (.float (size * 1.5)) := by
    rw [Number.mul, Number.combine, hsize]
    · rfl
    · simp
  have sum : style.cursorY.add (.float (size * 1.5)) = .ok (.float (y + size * 1.5)) := by
    rw [Number.add, Number.combine, hy]
    · rfl
    · simp
  refine ⟨{ style with cursorY := .float (y + size * 1.5) }, ?_⟩
  rw [advanceLine, product]
  show (style.cursorY.add (.float (size * 1.5)) >>= _) = _
  rw [sum]
  rfl

/-! ## Requests -/

namespace Raster

/-- A primitive that is rejected leaves the screen as it was. -/
theorem draw_of_fault {raster : Raster} {p : Primitive} {screen : Screen} {fault : Fault}
    (fails : (raster.draw p screen).2 = some fault) : (raster.draw p screen).1 = screen := by
  unfold draw at fails ⊢
  cases planned : raster.plan p with
  | error fault => rfl
  | ok request =>
      cases request with
      | none => rfl
      | some r =>
          rw [planned] at fails
          cases fails

/-- A shape that is rejected leaves the screen as it was. -/
theorem drawShape_of_fault {raster : Raster} {shape : Shape} {screen : Screen} {fault : Fault}
    (fails : (raster.surface.drawShape shape screen).2 = some fault) :
    (raster.surface.drawShape shape screen).1 = screen := by
  unfold Surface.drawShape at fails ⊢
  cases planned : shape.primitive? raster.surface.width raster.surface.height with
  | error fault => rfl
  | ok primitive =>
      cases primitive with
      | none => rfl
      | some p =>
          rw [planned] at fails
          exact draw_of_fault fails

/-- A text is requested only where its place and its height are finite. -/
theorem isFinite_of_planText {text : String} {location : Point Number} {ink : Color}
    {size : Number} {r : Request} (planned : planText text location ink size = .ok (some r)) :
    location.y.isFinite = .ok true ∧ size.isFinite = .ok true := by
  unfold planText at planned
  cases test : Geometry.allFinite [location.x, location.y, size] with
  | error fault =>
      rw [test] at planned
      cases planned
  | ok answer =>
      rw [test] at planned
      cases answer with
      | false => cases planned
      | true =>
          have finite := Geometry.isFinite_of_allFinite test
          exact ⟨finite _ (by simp), finite _ (by simp)⟩

/-- A text that changes the screen has a finite place and a finite height. -/
theorem draw_text_eq_or_isFinite (raster : Raster) (text : String) (location : Point Number)
    (ink : Color) (size : Number) (screen : Screen) :
    (raster.draw (.drawText text location ink size) screen).1 = screen ∨
      location.y.isFinite = .ok true ∧ size.isFinite = .ok true := by
  have lifted : raster.plan (.drawText text location ink size)
      = Fault.liftNumber (planText text location ink size) := rfl
  unfold draw
  rw [lifted]
  cases planned : planText text location ink size with
  | error fault => exact Or.inl rfl
  | ok request =>
      cases request with
      | none => exact Or.inl rfl
      | some r => exact Or.inr (isFinite_of_planText planned)

end Raster

/-! ## Statements -/

namespace Machine

/-- An outcome that has a fault only if the machine is as it was before. -/
def IsAtomic {σ : Type} (machine : Machine σ) (outcome : Machine σ × Option Fault) : Prop :=
  ∀ fault, outcome.2 = some fault → outcome.1 = machine

theorem isAtomic_of_none {σ : Type} {machine : Machine σ} {outcome : Machine σ × Option Fault}
    (h : outcome.2 = none) : machine.IsAtomic outcome := by
  intro fault fails
  rw [h] at fails
  cases fails

theorem draw_isAtomic {σ : Type} {machine : Machine σ} {drawing : σ → σ × Option Fault}
    (unchanged : ∀ fault, (drawing machine.surface).2 = some fault →
      (drawing machine.surface).1 = machine.surface) :
    machine.IsAtomic (machine.draw drawing) := by
  intro fault fails
  have same : (drawing machine.surface).1 = machine.surface := unchanged fault fails
  show Machine.mk machine.context (drawing machine.surface).1 = machine
  rw [same]

theorem drawText_isAtomic (raster : Raster) (machine : Machine Screen) (text : String)
    (location : Point Number) :
    machine.IsAtomic (drawText raster.surface machine text location) :=
  draw_isAtomic fun _ fails => Raster.draw_of_fault fails

/-- Writing a line at the cursor is atomic: once the text is drawn the cursor can be moved. -/
theorem writeLine_isAtomic (raster : Raster) (machine : Machine Screen) (text : String) :
    machine.IsAtomic (perform raster.surface machine (.writeLine text)) := by
  intro fault fails
  have atomic := drawText_isAtomic raster machine text
    ⟨machine.context.style.cursorX, machine.context.style.cursorY⟩
  have context := drawText_context raster.surface machine text
    ⟨machine.context.style.cursorX, machine.context.style.cursorY⟩
  have drawn : (drawText raster.surface machine text
        ⟨machine.context.style.cursorX, machine.context.style.cursorY⟩).1.surface
          = machine.surface ∨
      machine.context.style.cursorY.isFinite = .ok true ∧
        machine.context.style.fontSize.isFinite = .ok true :=
    raster.draw_text_eq_or_isFinite text _ _ _ machine.surface
  simp only [perform] at fails ⊢
  rcases outcome : drawText raster.surface machine text
      ⟨machine.context.style.cursorX, machine.context.style.cursorY⟩ with ⟨after, _ | cause⟩
  · rw [outcome] at context drawn fails
    change after.context = machine.context at context
    change after.surface = machine.surface ∨ _ at drawn
    change after.advanceLine.2 = some fault at fails
    show after.advanceLine.1 = machine
    rw [advanceLine, context] at fails ⊢
    rcases drawn with unchanged | ⟨place, height⟩
    · -- nothing was drawn, so a cursor that stays is all that is asked for
      have same : after = machine := by
        cases after
        cases machine
        cases context
        cases unchanged
        rfl
      cases moved : machine.context.style.advanceLine with
      | error cause => exact same
      | ok style =>
          rw [moved] at fails
          cases fails
    · -- something may have been drawn, but then moving the cursor does not fail
      obtain ⟨style, moved⟩ := TextStyle.advanceLine_of_isFinite place height
      rw [moved] at fails
      cases fails
  · rw [outcome] at atomic
    exact atomic cause rfl

/-- Every action is atomic on a raster. -/
theorem perform_isAtomic (raster : Raster) (machine : Machine Screen) (action : Action) :
    machine.IsAtomic (perform raster.surface machine action) := by
  cases action with
  | draw shape => exact draw_isAtomic fun _ fails => Raster.drawShape_of_fault fails
  | write text location => exact drawText_isAtomic raster machine text location
  | writeLine text => exact writeLine_isAtomic raster machine text
  | setColor color => exact isAtomic_of_none rfl
  | setSize size => exact isAtomic_of_none rfl
  | setCursor x y => exact isAtomic_of_none rfl

/-- Every call is atomic on a raster, also one of a command that is unknown or given other
arguments than it takes. -/
theorem callCommand_isAtomic (raster : Raster) (machine : Machine Screen) (name : String)
    (values : List Value) :
    machine.IsAtomic (callCommand raster.surface machine name values) := by
  unfold callCommand
  cases actionOf name values with
  | error fault => exact fun _ _ => rfl
  | ok action => exact perform_isAtomic raster machine action

/-- **Every statement is atomic on a raster**, at whatever depth its fault arises. -/
theorem execute_isAtomic (raster : Raster) (machine : Machine Screen)
    (statement : Statement) :
    machine.IsAtomic (execute raster.surface machine statement) := by
  cases statement with
  | declaration kind name expression =>
      simp only [execute, declare]
      cases evaluate machine.context.scope.lookup expression with
      | error fault => exact fun _ _ => rfl
      | ok value => exact isAtomic_of_none rfl
  | call command arguments =>
      simp only [execute]
      cases Argument.readAll machine.context.scope.lookup arguments with
      | error fault => exact fun _ _ => rfl
      | ok values => exact callCommand_isAtomic raster machine command _

end Machine

/-! ## Lines of a run -/

namespace Sketch

/-- **A failing line is atomic.**  Take any run of a sketch on a raster and any line of it
that holds a statement, with the machine as it stands when the line's turn comes.  If the line
adds to the diagnostics, then the machine after it is the one before it with one diagnostic of
that line added, and the run ends with that diagnostic: variables, cursor, colour and size of
texts, requests and pixels are as they were. -/
theorem failing_line_atomic (raster : Raster) (width height : Number) (source : String)
    (screen : Screen) (final : Machine Screen)
    (result : run raster.surface width height source screen = .ok final) :
    ∃ text start, load width height source screen = .ok (text, start) ∧
      ∀ line statement, (line, statement) ∈ statements text.toList →
        let reached := before raster.surface start (statements text.toList) line
        let after := reached.step raster.surface line statement
        after.context.diagnostics ≠ reached.context.diagnostics →
          ∃ d ∈ final.context.diagnostics, d.line = line ∧
            after = { reached with context := reached.context.report d } := by
  obtain ⟨text, start, loaded, rfl⟩ := load_of_run result
  refine ⟨text, start, loaded, ?_⟩
  intro line statement mem reached after reports
  have written := Machine.step_diagnostics raster.surface reached line statement
  have atomic := Machine.execute_isAtomic raster reached statement
  cases fails : (Machine.execute raster.surface reached statement).2 with
  | none =>
      rw [fails] at written
      exact absurd (written.trans (List.append_nil _)) reports
  | some fault =>
      have same := atomic fault fails
      have quoted := before_sourceLine? raster.surface start (statements text.toList)
        line line
      refine ⟨.ofFault fault line (reached.context.sourceLine? line), ?_, rfl, ?_⟩
      · rw [runStatements_diagnostics, quoted]
        apply List.mem_append_right
        exact List.mem_map_of_mem (mem_faults_statements_iff.mpr ⟨statement, mem, fails⟩)
      · change Machine.settle line (Machine.execute raster.surface reached statement) = _
        rw [← Prod.eta (Machine.execute raster.surface reached statement), same, fails]
        rfl

/-- The second line calls for a circle with a radius below zero: it is reported, and the
machine is otherwise as the first line left it. -/
theorem failing_line_atomic_negative_radius :
    let raster : Raster := ⟨240, 320⟩
    let text := "int r = 5;\ntft.fillCircle(r, r, -r, 0);"
    let screen := Screen.blank raster .black
    let start : Machine Screen := ⟨Context.create (.int 240) (.int 320) text, screen⟩
    let statement : Statement := .call "fillCircle" "r, r, -r, 0"
    let reached := before raster.surface start (statements text.toList) 2
    let after := reached.step raster.surface 2 statement
    ∃ final, run raster.surface (.int 240) (.int 320) text screen = .ok final ∧
      (2, statement) ∈ statements text.toList ∧
      after.context.diagnostics ≠ reached.context.diagnostics ∧
      ∃ d ∈ final.context.diagnostics, d.line = (2 : Nat) ∧
        after = { reached with context := reached.context.report d } := by
  intro raster text screen start statement
  have unchanged : String.ofList (Source.written 240 320 text.toList) = text := by
    decide +kernel
  have loaded : load (.int 240) (.int 320) text screen = .ok (text, start) := by
    rw [load_int (by decide) (by decide), unchanged]
  have result := @run_of_load Screen raster.surface _ _ _ _ _ _ loaded
  obtain ⟨text', start', loaded', atomic⟩ :=
    failing_line_atomic raster (.int 240) (.int 320) text screen _ result
  cases loaded.symm.trans loaded'
  have mem : (2, statement) ∈ statements text.toList := by decide +kernel
  have reports :
      ((before raster.surface start (statements text.toList) 2).step raster.surface 2
          statement).context.diagnostics
        ≠ (before raster.surface start (statements text.toList) 2).context.diagnostics := by
    decide +kernel
  exact ⟨_, result, mem, reports, atomic 2 statement mem reports⟩

end Sketch

end SketchScreen
