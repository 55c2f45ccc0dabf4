import SketchScreen.Proofs.Run

/-!
# Runs Side by Side

What a statement does depends on the variables, on the style of texts and on how the surface
answers, and on nothing else: not on the number of its line, on the text that diagnostics
quote, or on what has been reported before.  So two machines that agree on these run the same
statements to machines that agree again, and the same statements fail on both.

## Main Definitions

- `Outcome.Agree`: two outcomes with the same fault and related states.
- `Machine.Matches`: two machines with the same variables and style and related surfaces.
- `Surface.Alike`: two surfaces that answer alike in related states.
- `Surface.logging`: a surface that keeps a log of the primitives that it is asked for.

## Design Notes

The surfaces of the two machines may be of different types and are related by any relation
`R`.  The square for a single statement (`execute_agree`) asks only that the surfaces answer
alike to the one primitive that the statement draws, `Machine.primitive?`; surfaces that
answer alike to everything have the whole run for free (`runStatements_matches_map`,
`faults_map`), also when the lines have other numbers.
-/

namespace SketchScreen

variable {σ τ : Type} {R : σ → τ → Prop}

/-- Two outcomes with the same fault, or with none, and related states. -/
structure Outcome.Agree {α β : Type} (R : α → β → Prop) (x : α × Option Fault)
    (y : β × Option Fault) : Prop where
  fault : x.2 = y.2
  state : R x.1 y.1

/-! ## What a statement draws -/

/-- The primitive that an action draws on a surface of the given size, in a style of texts. -/
def Action.primitive? (width height : Number) (style : TextStyle) : Action → Option Primitive
  | .draw shape => (shape.primitive? width height).toOption.join
  | .write text location => some (.drawText text location style.color style.fontSize)
  | .writeLine text =>
    some (.drawText text ⟨style.cursorX, style.cursorY⟩ style.color style.fontSize)
  | _ => none

theorem Action.primitive?_draw_eq_some_iff {shape : Shape} {width height : Number}
    {style : TextStyle} {p : Primitive} :
    (Action.draw shape).primitive? width height style = some p ↔
      shape.primitive? width height = .ok (some p) := by
  rw [Action.primitive?]
  cases shape.primitive? width height with
  | error fault => simp [Except.toOption]
  | ok primitive => simp [Except.toOption]

namespace Machine

/-- The action that a statement comes to, if it is a call that can be understood. -/
def action? (machine : Machine σ) : Statement → Option Action
  | .declaration _ _ _ => none
  | .call command arguments =>
    match Argument.readAll machine.context.scope.lookup arguments with
    | .error _ => none
    | .ok values => (actionOf command (values.map Argument.toValue)).toOption

/-- The primitive that a statement draws, if it draws any. -/
def primitive? (surface : Surface σ) (machine : Machine σ) (statement : Statement) :
    Option Primitive :=
  (machine.action? statement).bind
    (Action.primitive? surface.width surface.height machine.context.style)

/-! ## Machines side by side -/

/-- Two machines with the same variables and style, on related surfaces. -/
structure Matches (R : σ → τ → Prop) (a : Machine σ) (b : Machine τ) : Prop where
  scope : a.context.scope = b.context.scope
  style : a.context.style = b.context.style
  surface : R a.surface b.surface

variable {a : Machine σ} {b : Machine τ}

theorem draw_agree (h : Matches R a b) {f : σ → σ × Option Fault} {g : τ → τ × Option Fault}
    (answers : Outcome.Agree R (f a.surface) (g b.surface)) :
    Outcome.Agree (Matches R) (a.draw f) (b.draw g) :=
  ⟨answers.fault, h.scope, h.style, answers.state⟩

theorem setStyle_matches (h : Matches R a b) {style style' : TextStyle}
    (same : style = style') : Matches R (a.setStyle style) (b.setStyle style') :=
  ⟨h.scope, same, h.surface⟩

theorem advanceLine_agree (h : Matches R a b) :
    Outcome.Agree (Matches R) a.advanceLine b.advanceLine := by
  rw [advanceLine, advanceLine, h.style]
  cases b.context.style.advanceLine with
  | error fault => exact ⟨rfl, h⟩
  | ok style => exact ⟨rfl, setStyle_matches h rfl⟩

end Machine

/-- A shape is answered alike if the primitive that it is, if any, is answered alike. -/
theorem Surface.drawShape_agree {first : Surface σ} {second : Surface τ}
    (width : first.width = second.width) (height : first.height = second.height)
    {shape : Shape} {s : σ} {t : τ} (h : R s t)
    (answers : ∀ p, shape.primitive? first.width first.height = .ok (some p) →
      Outcome.Agree R (first.draw p s) (second.draw p t)) :
    Outcome.Agree R (first.drawShape shape s) (second.drawShape shape t) := by
  rw [drawShape, drawShape, ← width, ← height]
  cases drawn : shape.primitive? first.width first.height with
  | error fault => exact ⟨rfl, h⟩
  | ok primitive =>
      cases primitive with
      | none => exact ⟨rfl, h⟩
      | some p => exact answers p drawn

namespace Machine

variable {first : Surface σ} {second : Surface τ} {a : Machine σ} {b : Machine τ}

/-- Texts that are answered alike leave matching machines. -/
theorem drawText_agree (h : Matches R a b) {text : String} {location location' : Point Number}
    (place : location = location')
    (answers : ∀ p, p = .drawText text location a.context.style.color
      a.context.style.fontSize →
      Outcome.Agree R (first.draw p a.surface) (second.draw p b.surface)) :
    Outcome.Agree (Matches R) (drawText first a text location)
      (drawText second b text location') := by
  subst place
  refine draw_agree h ?_
  rw [← h.style]
  exact answers _ rfl

theorem advanceLine_surface (machine : Machine σ) :
    machine.advanceLine.1.surface = machine.surface := by
  rw [advanceLine]
  cases machine.context.style.advanceLine <;> rfl

/-- **An action draws its primitive**, if it has one, and does nothing else to the surface. -/
theorem perform_surface (surface : Surface σ) (machine : Machine σ) (action : Action) :
    (perform surface machine action).1.surface =
      (action.primitive? surface.width surface.height machine.context.style).elim
        machine.surface
        fun p => (surface.draw p machine.surface).1 := by
  cases action with
  | draw shape =>
      show (surface.drawShape shape machine.surface).1 = _
      rw [Surface.drawShape, Action.primitive?]
      cases shape.primitive? surface.width surface.height with
      | error fault => rfl
      | ok primitive => cases primitive <;> rfl
  | write text location => rfl
  | writeLine text =>
      have drawn : (drawText surface machine text
          ⟨machine.context.style.cursorX, machine.context.style.cursorY⟩).1.surface
            = (surface.draw (.drawText text
              ⟨machine.context.style.cursorX, machine.context.style.cursorY⟩
              machine.context.style.color machine.context.style.fontSize)
              machine.surface).1 := rfl
      simp only [perform]
      split
      · rename_i after fault outcome
        rw [outcome] at drawn
        exact drawn
      · rename_i after outcome
        rw [outcome] at drawn
        exact after.advanceLine_surface.trans drawn
  | setColor color => rfl
  | setSize size => rfl
  | setCursor x y => rfl

/-- **An action does the same on matching machines**, if the surfaces answer
alike to what it draws. -/
theorem perform_agree (width : first.width = second.width)
    (height : first.height = second.height) (h : Matches R a b) (action : Action)
    (answers : ∀ p, action.primitive? first.width first.height a.context.style = some p →
      Outcome.Agree R (first.draw p a.surface) (second.draw p b.surface)) :
    Outcome.Agree (Matches R) (perform first a action) (perform second b action) := by
  cases action with
  | draw shape =>
      refine draw_agree h (Surface.drawShape_agree width height h.surface fun p drawn => ?_)
      exact answers p (by rw [Action.primitive?, drawn]; rfl)
  | write text location =>
      exact drawText_agree h rfl fun p drawn => answers p (by rw [drawn]; rfl)
  | writeLine text =>
      have place : Point.mk a.context.style.cursorX a.context.style.cursorY
          = ⟨b.context.style.cursorX, b.context.style.cursorY⟩ := by rw [h.style]
      have drawn : Outcome.Agree (Matches R) (drawText first a text _)
        (drawText second b text _) :=
        drawText_agree h place fun p drawn => answers p (by rw [drawn]; rfl)
      -- the cursor moves only if the text was drawn, on both or on neither
      rw [perform, perform]
      rcases outcome : drawText first a text ⟨a.context.style.cursorX,
        a.context.style.cursorY⟩ with ⟨a', fault⟩
      rcases outcome' : drawText second b text ⟨b.context.style.cursorX,
        b.context.style.cursorY⟩ with ⟨b', fault'⟩
      rw [outcome, outcome'] at drawn
      obtain ⟨rfl, state⟩ := drawn
      cases fault with
      | none => exact advanceLine_agree state
      | some fault => exact ⟨rfl, state⟩
  | setColor color => exact ⟨rfl, setStyle_matches h (by rw [h.style])⟩
  | setSize size => exact ⟨rfl, setStyle_matches h (by rw [h.style])⟩
  | setCursor x y => exact ⟨rfl, setStyle_matches h (by rw [h.style])⟩

/-- **A statement does the same on matching machines**, if the surfaces answer
alike to what it draws. -/
theorem execute_agree (width : first.width = second.width)
    (height : first.height = second.height) (h : Matches R a b) (statement : Statement)
    (answers : ∀ p, a.primitive? first statement = some p →
      Outcome.Agree R (first.draw p a.surface) (second.draw p b.surface)) :
    Outcome.Agree (Matches R) (execute first a statement) (execute second b statement) := by
  cases statement with
  | declaration kind name expression =>
      rw [execute, execute, declare, declare, h.scope]
      cases evaluate b.context.scope.lookup expression with
      | error fault => exact ⟨rfl, h⟩
      | ok value =>
          exact ⟨rfl, congrArg (Scope.declare kind name value) h.scope, h.style, h.surface⟩
  | call command arguments =>
      rw [primitive?, action?] at answers
      rw [execute, execute, ← h.scope]
      cases read : Argument.readAll a.context.scope.lookup arguments with
      | error fault => exact ⟨rfl, h⟩
      | ok values =>
          rw [read] at answers
          simp only [callCommand]
          cases called : actionOf command (values.map Argument.toValue) with
          | error fault => exact ⟨rfl, h⟩
          | ok action =>
              refine perform_agree width height h action fun p drawn => answers p ?_
              simp [called, drawn, Except.toOption]

/-- A report changes neither variables nor style. -/
theorem settle_matches {x : Machine σ × Option Fault} {y : Machine τ × Option Fault}
    (h : Outcome.Agree (Matches R) x y) (m n : Nat) :
    Matches R (settle m x) (settle n y) := by
  obtain ⟨a, fault⟩ := x
  obtain ⟨b, fault'⟩ := y
  obtain ⟨rfl, scope, style, surface⟩ := h
  cases fault with
  | none => exact ⟨scope, style, surface⟩
  | some fault => exact ⟨scope, style, surface⟩

/-- Machines in the same context are in the same context after a statement that does the same
on both, its report included. -/
theorem step_context_eq (same : a.context = b.context) {statement : Statement}
    (square : Outcome.Agree (Matches R) (execute first a statement)
      (execute second b statement))
    (line : Nat) :
    (a.step first line statement).context = (b.step second line statement).context := by
  have keeps := execute_keeps first a statement
  have keeps' := execute_keeps second b statement
  unfold step
  generalize execute first a statement = x at *
  generalize execute second b statement = y at *
  obtain ⟨a', fault⟩ := x
  obtain ⟨b', fault'⟩ := y
  obtain ⟨rfl, scope, style, -⟩ := square
  have after : a'.context = b'.context := by
    rw [same] at keeps
    rcases a' with ⟨⟨w, h, scopeA, styleA, reports, lines⟩, s⟩
    rcases b' with ⟨⟨w', h', scopeB, styleB, reports', lines'⟩, t⟩
    obtain ⟨rfl, rfl, rfl, rfl⟩ := keeps
    obtain ⟨rfl, rfl, rfl, rfl⟩ := keeps'
    cases scope
    cases style
    rfl
  cases fault with
  | none => exact after
  | some fault => exact congrArg (fun context => Context.reportFault context line fault) after

end Machine

/-! ## Surfaces that answer alike -/

/-- Two surfaces of one size that answer alike, in related states, to every primitive. -/
structure Surface.Alike (first : Surface σ) (second : Surface τ) (R : σ → τ → Prop) :
    Prop where
  width : first.width = second.width
  height : first.height = second.height
  answers : ∀ p s t, R s t → Outcome.Agree R (first.draw p s) (second.draw p t)

/-- Every surface answers like itself. -/
theorem Surface.Alike.refl (surface : Surface σ) : Surface.Alike surface surface Eq where
  width := rfl
  height := rfl
  answers := by
    rintro p s t rfl
    exact ⟨rfl, rfl⟩

namespace Sketch

variable {first : Surface σ} {second : Surface τ} {a : Machine σ} {b : Machine τ}

/-- **The same statements lead matching machines to matching machines**,
whatever their numbers. -/
theorem runStatements_matches_map (alike : Surface.Alike first second R)
    (h : Machine.Matches R a b) (statements : List (Nat × Statement)) (renumber : Nat → Nat) :
    Machine.Matches R (runStatements first a statements)
      (runStatements second b (statements.map (Prod.map renumber id))) := by
  induction statements generalizing a b with
  | nil => exact h
  | cons head rest ih =>
      obtain ⟨line, statement⟩ := head
      have square := Machine.execute_agree alike.width alike.height h statement
        fun p _ => alike.answers p _ _ h.surface
      exact ih (Machine.settle_matches square line (renumber line))

/-- **The same statements fail on matching machines**, with the same faults. -/
theorem faults_map (alike : Surface.Alike first second R) (h : Machine.Matches R a b)
    (statements : List (Nat × Statement)) (renumber : Nat → Nat) :
    faults second b (statements.map (Prod.map renumber id))
      = (faults first a statements).map (Prod.map renumber id) := by
  induction statements generalizing a b with
  | nil => rfl
  | cons head rest ih =>
      obtain ⟨line, statement⟩ := head
      have square := Machine.execute_agree alike.width alike.height h statement
        fun p _ => alike.answers p _ _ h.surface
      have later := ih (Machine.settle_matches square line (renumber line))
      rw [List.map_cons, Prod.map_apply, id_eq, faults, faults, List.map_append,
        ← square.fault]
      refine congrArg₂ (· ++ ·) ?_ later
      cases (Machine.execute first a statement).2 <;> rfl

theorem runStatements_matches (alike : Surface.Alike first second R)
    (h : Machine.Matches R a b) (statements : List (Nat × Statement)) :
    Machine.Matches R (runStatements first a statements)
      (runStatements second b statements) := by
  simpa using runStatements_matches_map alike h statements id

theorem faults_eq (alike : Surface.Alike first second R) (h : Machine.Matches R a b)
    (statements : List (Nat × Statement)) :
    faults second b statements = faults first a statements := by
  simpa using faults_map alike h statements id

/-- Surfaces that answer alike leave machines in the same context. -/
theorem runStatements_context_eq (alike : Surface.Alike first second R)
    (same : a.context = b.context) (related : R a.surface b.surface)
    (statements : List (Nat × Statement)) :
    (runStatements first a statements).context
      = (runStatements second b statements).context := by
  induction statements generalizing a b with
  | nil => exact same
  | cons head rest ih =>
      obtain ⟨line, statement⟩ := head
      have h : Machine.Matches R a b := ⟨by rw [same], by rw [same], related⟩
      have square := Machine.execute_agree alike.width alike.height h statement
        fun p _ => alike.answers p _ _ related
      exact ih (Machine.step_context_eq same square line)
        (Machine.settle_matches square line line).surface

end Sketch

/-! ## Logs -/

/-- The surface that also keeps a log of the primitives that it is asked for. -/
def Surface.logging (surface : Surface σ) : Surface (σ × List Primitive) where
  width := surface.width
  height := surface.height
  draw p state :=
    match surface.draw p state.1 with
    | (next, fault) => ((next, state.2 ++ [p]), fault)

/-- What has been logged before is not looked at. -/
theorem Surface.logging_alike_logging (surface : Surface σ) (log : List Primitive) :
    Surface.Alike surface.logging surface.logging fun s t => t = (s.1, log ++ s.2) where
  width := rfl
  height := rfl
  answers := by
    rintro p s t rfl
    refine ⟨rfl, ?_⟩
    simp only [logging, List.append_assoc]

end SketchScreen
