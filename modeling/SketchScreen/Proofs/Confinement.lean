import SketchScreen.Proofs.Binding
import SketchScreen.Proofs.ExactValue
import SketchScreen.Proofs.Surfaces

/-!
# What a Call Touches

A call writes to its own part of the machine only.  If it fails, the context is as it was
before.  If it succeeds, at most the style of texts is another one, and only in what the
command is there for.  The commands that set the style do not touch the surface, and all
others ask it for one primitive.

## Main Definitions

- `Command.setters`: the commands that set the style of texts and draw nothing.
- `Command.Restyles`: what a call that succeeds makes of the style of texts.
- `Command.IsEmptyCircle`: a call that draws a circle whose radius is not finite.

## Design Notes

`Restyles` has a constructor for each command that changes the style, and tells the change by
what the call gives, not by what the command receives.  It follows from two facts: what the
action of a command does (`perform_context`, `perform_surface`), and how the arguments of the
action come from the values of the call (`fits_of_bind`).
-/

namespace SketchScreen

namespace Command

/-- The commands that set the style of texts and draw nothing. -/
def setters : List Command := [setTextColor, setTextSize, setCursor]

/-- What a call that succeeds makes of the style of texts: the values of the call, the style
before, and the style after. -/
inductive Restyles : Command → List Value → TextStyle → TextStyle → Prop
  | setTextColor (value : Value) (rest : List Value) (style : TextStyle) :
    Restyles setTextColor (value :: rest) style { style with color := value.toColor }
  | setTextSize (n : Number) (rest : List Value) (style : TextStyle) :
    Restyles setTextSize (.number n :: rest) style
      { style with size := TextStyle.minSize.max (TextStyle.maxSize.min n) }
  | setCursor (x y : Number) (rest : List Value) (style : TextStyle) :
    Restyles setCursor (.number x :: .number y :: rest) style
      { style with cursorX := x, cursorY := y }
  | println (values : List Value) (style : TextStyle) (y : Number) :
    Restyles println values style { style with cursorY := y }
  | other {command : Command} (draws : command ∉ setters) (stays : command ≠ println)
      (values : List Value) (style : TextStyle) : Restyles command values style style

/-- A call that draws a circle whose radius, the third value, is a number that
is not finite. -/
def IsEmptyCircle (command : Command) (values : List Value) : Prop :=
  (command = fillCircle ∨ command = drawCircle) ∧
    ∃ r, values[2]? = some (.number r) ∧ r.value? = none

variable {command : Command} {values : List Value} {arguments : Arguments command.parameters}

/-- Values beyond the parameters make no difference to the arguments. -/
theorem bind_append (enough : command.arity ≤ values.length) (extra : List Value) :
    command.bind (values ++ extra) = command.bind values := by
  have more : command.arity ≤ (values ++ extra).length :=
    List.length_append ▸ enough.trans (Nat.le_add_right ..)
  rw [bind_of_enough more, bind_of_enough enough, bindValues_append enough]

/-! ## The style of texts -/

/-- **The action of a call changes the style of texts as the command is there for.** -/
theorem restyles_of_bind (bound : command.bind values = .ok arguments)
    {style restyled : TextStyle}
    (h : (command.action arguments).restyle style = .ok restyled) :
    command.Restyles values style restyled := by
  obtain ⟨enough, -, fits⟩ := fits_of_bind bound
  -- a command that sets the style gets as many values as it needs, so the row of
  -- values is taken apart
  cases command with
  | setTextColor =>
      obtain ⟨color, ⟨⟩⟩ := arguments
      cases h
      match values, enough, fits with
      | value :: rest, _, .cons received .nil =>
          cases received
          exact .setTextColor value rest style
  | setTextSize =>
      obtain ⟨size, ⟨⟩⟩ := arguments
      cases h
      match values, enough, fits with
      | value :: rest, _, .cons received .nil =>
          obtain ⟨n, rfl, same⟩ := received
          cases same
          exact .setTextSize size rest style
  | setCursor =>
      obtain ⟨x, y, ⟨⟩⟩ := arguments
      cases h
      match values, enough, fits with
      | first :: second :: rest, _, .cons across (.cons down .nil) =>
          obtain ⟨n, rfl, same⟩ := across
          cases same
          obtain ⟨m, rfl, same⟩ := down
          cases same
          exact .setCursor x y rest style
  | println =>
      obtain ⟨text, ⟨⟩⟩ := arguments
      obtain ⟨y, rfl⟩ := TextStyle.exists_of_advanceLine h
      exact .println values style y
  | _ =>
      cases h
      exact .other (by decide) (by decide) values style

/-! ## What is drawn -/

/-- The third value of a call with the parameters of a circle is the radius. -/
theorem getElem?_two_of_fits {x y color : BoundValue} {r : Number}
    (enough : fillCircle.arity ≤ values.length)
    (fits : List.Forall₂ (fun pair bound => BoundValue.Fits pair.1.kind pair.2 bound)
      (fillCircle.given values) [x, y, .number r, color]) :
    values[2]? = some (.number r) := by
  match values, enough, fits with
  | _ :: _ :: _ :: _ :: _, _, .cons _ (.cons _ (.cons received _)) =>
      obtain ⟨n, rfl, same⟩ := received
      cases same
      rfl

/-- A call whose action is a circle is one of a command for circles, with the
radius as its third value. -/
theorem radius_of_bind (bound : command.bind values = .ok arguments) {filled : Bool}
    {center : Point Number} {r : Number} {color : Color}
    (h : command.action arguments = .draw (.circle filled center r color)) :
    (command = fillCircle ∨ command = drawCircle) ∧ values[2]? = some (.number r) := by
  obtain ⟨enough, -, fits⟩ := fits_of_bind bound
  cases command with
  | fillCircle =>
      obtain ⟨x, y, r, color, ⟨⟩⟩ := arguments
      cases h
      exact ⟨Or.inl rfl, getElem?_two_of_fits enough fits⟩
  | drawCircle =>
      obtain ⟨x, y, r, color, ⟨⟩⟩ := arguments
      cases h
      exact ⟨Or.inr rfl, getElem?_two_of_fits enough fits⟩
  | _ => cases h

theorem exists_circle (arguments : Arguments command.parameters)
    (circle : command = fillCircle ∨ command = drawCircle) :
    ∃ filled center r color, command.action arguments
      = .draw (.circle filled center r color) := by
  rcases circle with rfl | rfl
  · exact ⟨true, _, _, _, rfl⟩
  · exact ⟨false, _, _, _, rfl⟩

theorem isEmptyCircle_iff (bound : command.bind values = .ok arguments) :
    command.IsEmptyCircle values ↔ ∃ filled center r color,
      command.action arguments = .draw (.circle filled center r color) ∧ r.value? = none := by
  constructor
  · rintro ⟨circle, r, third, infinite⟩
    obtain ⟨filled, center, r', color, same⟩ := exists_circle arguments circle
    cases third.symm.trans (radius_of_bind bound same).2
    exact ⟨filled, center, r, color, same, infinite⟩
  · rintro ⟨filled, center, r, color, same, infinite⟩
    obtain ⟨circle, third⟩ := radius_of_bind bound same
    exact ⟨circle, r, third, infinite⟩

end Command

/-- A shape that is not refused is left out exactly if it is a circle whose
radius is not finite. -/
theorem Shape.eq_none_iff_of_primitive? {shape : Shape} {width height : Number}
    {drawn : Option Primitive} (h : shape.primitive? width height = .ok drawn) :
    drawn = none ↔
      ∃ filled center r color, shape = .circle filled center r color ∧ r.value? = none := by
  cases shape with
  | circle filled center r color =>
      have finite := Number.isSome_value?_of_isFinite (of_circle? h).1
      have same : drawn = none ↔ r.value? = none := by
        rw [← Option.not_isSome_iff_eq_none, ← Option.not_isSome_iff_eq_none, finite]
      rw [same]
      constructor
      · intro infinite
        exact ⟨filled, center, r, color, rfl, infinite⟩
      · rintro ⟨filled, center, r, color, ⟨⟩, infinite⟩
        exact infinite
  | roundRect filled x y w h' r color =>
      obtain ⟨points, -, h⟩ := exists_of_bind_eq_ok h
      cases h
      refine iff_of_false (Option.some_ne_none _) ?_
      rintro ⟨filled, center, r, color, ⟨⟩, -⟩
  | _ =>
      cases h
      refine iff_of_false (Option.some_ne_none _) ?_
      rintro ⟨filled, center, r, color, ⟨⟩, -⟩

/-- A shape that is drawn without a fault is not refused. -/
theorem Surface.exists_of_drawShape {σ : Type} (surface : Surface σ) {shape : Shape}
    {state : σ} (h : (surface.drawShape shape state).2 = none) :
    ∃ drawn, shape.primitive? surface.width surface.height = .ok drawn := by
  rw [drawShape] at h
  cases drawn : shape.primitive? surface.width surface.height with
  | error fault =>
      rw [drawn] at h
      cases h
  | ok primitive => exact ⟨primitive, rfl⟩

namespace Machine

variable {σ : Type} {surface : Surface σ} {machine : Machine σ} {command : Command}
  {name : String} {values : List Value} {arguments : Arguments command.parameters}

/-- A shape that is drawn without a fault comes to nothing exactly if it is a circle whose
radius is not finite. -/
theorem primitive?_draw_eq_none_iff {shape : Shape}
    (done : (perform surface machine (.draw shape)).2 = none) :
    (Action.draw shape).primitive? surface.width surface.height machine.context.style = none ↔
      ∃ filled center r color, Action.draw shape = .draw (.circle filled center r color) ∧
        r.value? = none := by
  obtain ⟨drawn, notRefused⟩ := surface.exists_of_drawShape done
  rw [Action.primitive?, notRefused]
  simp only [Action.draw.injEq]
  exact Shape.eq_none_iff_of_primitive? notRefused

/-- **A call that succeeds draws nothing exactly if its command sets the style or it
is an empty circle.** -/
theorem primitive?_eq_none_iff (bound : command.bind values = .ok arguments)
    (done : (perform surface machine (command.action arguments)).2 = none) :
    (command.action arguments).primitive? surface.width surface.height machine.context.style
      = none ↔
      command ∈ Command.setters ∨ command.IsEmptyCircle values := by
  rw [Command.isEmptyCircle_iff bound]
  -- setters have no primitive and texts always have one; a shape has one unless
  -- it is an empty circle
  cases command with
  | setTextColor => exact iff_of_true rfl (Or.inl (by decide))
  | setTextSize => exact iff_of_true rfl (Or.inl (by decide))
  | setCursor => exact iff_of_true rfl (Or.inl (by decide))
  | drawString =>
      refine iff_of_false (Option.some_ne_none _) ?_
      rintro (setter | ⟨filled, center, r, color, ⟨⟩, -⟩)
      exact absurd setter (by decide)
  | println =>
      refine iff_of_false (Option.some_ne_none _) ?_
      rintro (setter | ⟨filled, center, r, color, ⟨⟩, -⟩)
      exact absurd setter (by decide)
  | _ => exact (primitive?_draw_eq_none_iff done).trans (or_iff_right (by decide)).symm

/-! ## Calls -/

/-- A call that succeeds is one of a command, and performs the action of the command. -/
theorem exists_of_callCommand (done : (callCommand surface machine name values).2 = none) :
    ∃ command arguments, Command.ofName? name = some command ∧
      command.bind values = .ok arguments ∧
      callCommand surface machine name values
        = perform surface machine (command.action arguments) := by
  cases called : actionOf name values with
  | error fault =>
      rw [callCommand, called] at done
      cases done
  | ok action =>
      obtain ⟨command, arguments, rfl, bound, rfl⟩ := exists_of_actionOf_eq_ok called
      exact ⟨command, arguments, Command.ofName?_eq_some_iff.mpr rfl, bound,
        callCommand_of_bind bound⟩

theorem callCommand_context_of_fault
    (fault : (callCommand surface machine name values).2 ≠ none) :
    (callCommand surface machine name values).1.context = machine.context := by
  rw [callCommand] at fault ⊢
  cases called : actionOf name values with
  | error fault => rfl
  | ok action =>
      rw [called] at fault
      exact (perform_context surface machine action).1 fault

/-- A command that sets the style leaves any surface alone, also if it fails. -/
theorem callCommand_surface_of_mem_setters (setter : command ∈ Command.setters)
    (named : Command.ofName? name = some command) :
    (callCommand surface machine name values).1.surface = machine.surface := by
  rw [callCommand]
  cases called : actionOf name values with
  | error fault => rfl
  | ok action =>
      obtain ⟨command', arguments, same, bound, rfl⟩ := exists_of_actionOf_eq_ok called
      cases named.symm.trans (Command.ofName?_eq_some_iff.mpr same)
      simp only [Command.setters, List.mem_cons, List.not_mem_nil, or_false] at setter
      obtain rfl | rfl | rfl := setter
      · rfl
      · rfl
      · rfl

/-- A call that succeeds on a recording surface records its primitive. -/
theorem callCommand_recording {width height : Number} {machine : Machine (List Primitive)}
    (done : (callCommand (.recording width height) machine name values).2 = none) :
    ∃ command, Command.ofName? name = some command ∧ ∃ drawn : Option Primitive,
      (drawn = none ↔ command ∈ Command.setters ∨ command.IsEmptyCircle values) ∧
      (callCommand (.recording width height) machine name values).1.surface
        = machine.surface ++ drawn.toList := by
  obtain ⟨command, arguments, named, bound, same⟩ := exists_of_callCommand done
  rw [same] at done ⊢
  refine ⟨command, named, _, primitive?_eq_none_iff bound done, ?_⟩
  rw [perform_surface]
  cases (command.action arguments).primitive? (Surface.recording width height).width
      (Surface.recording width height).height machine.context.style with
  | none => exact (List.append_nil _).symm
  | some p => rfl

/-- Values beyond what the command takes make no difference to a call. -/
theorem callCommand_append (named : Command.ofName? name = some command)
    (enough : command.arity ≤ values.length) (extra : List Value) :
    callCommand surface machine name (values ++ extra)
      = callCommand surface machine name values := by
  rw [callCommand, callCommand, actionOf, actionOf, named]
  simp only [Command.bind_append enough extra]

/-- **Each command touches only its own state.**  Call any command with any values, on any
machine and any surface.  If the call fails, the context is as it was before.  If it succeeds,
the size, the variables, the diagnostics and the lines of the sketch are as they were, and the
style of texts is changed by four commands only, each in its own part: the colour and the size
are set by the commands that are called so, the cursor is put at the two values given or moved
down by a text written there.  The commands that set the style leave the surface alone, also
if they fail.  On a recording surface any other call that succeeds makes exactly one record,
except that a circle whose radius is not finite makes none.  And once there are enough values,
more of them change nothing. -/
theorem callCommand_touches_own_state (surface : Surface σ) (machine : Machine σ)
    (name : String) (values : List Value) :
    let outcome := callCommand surface machine name values
    (outcome.2 ≠ none → outcome.1.context = machine.context) ∧
    (outcome.2 = none → ∃ command style, Command.ofName? name = some command ∧
      command.Restyles values machine.context.style style ∧
      outcome.1.context = { machine.context with style := style }) ∧
    (∀ command ∈ Command.setters, Command.ofName? name = some command →
      outcome.1.surface = machine.surface) ∧
    (∀ width height log,
      let recorded := callCommand (.recording width height) ⟨machine.context, log⟩ name values
      recorded.2 = none → ∃ command, Command.ofName? name = some command ∧
        (command ∈ Command.setters ∨ command.IsEmptyCircle values →
          recorded.1.surface = log) ∧
        (command ∉ Command.setters → ¬ command.IsEmptyCircle values →
          ∃ p, recorded.1.surface = log ++ [p])) ∧
    (∀ command extra, Command.ofName? name = some command → command.arity ≤ values.length →
      callCommand surface machine name (values ++ extra) = outcome) := by
  intro outcome
  refine ⟨callCommand_context_of_fault, ?_, ?_, ?_, ?_⟩
  · intro done
    obtain ⟨command, arguments, named, bound, same⟩ := exists_of_callCommand done
    change outcome = _ at same
    rw [same] at done ⊢
    obtain ⟨style, restyled, changed⟩ := (perform_context surface machine _).2 done
    exact ⟨command, style, named, Command.restyles_of_bind bound restyled, changed⟩
  · exact fun command setter named => callCommand_surface_of_mem_setters setter named
  · intro width height log recorded done
    obtain ⟨command, named, drawn, nothing, grown⟩ := callCommand_recording done
    refine ⟨command, named, ?_, ?_⟩
    · intro silent
      rw [nothing.mpr silent] at grown
      exact grown.trans (List.append_nil log)
    · intro notSetter notEmpty
      cases drawn with
      | none => exact absurd (nothing.mp rfl) (not_or.mpr ⟨notSetter, notEmpty⟩)
      | some p => exact ⟨p, grown⟩
  · exact fun command extra named enough => callCommand_append named enough extra

/-- A circle with an infinite radius, and with a value too many. -/
theorem callCommand_touches_own_state_infinite_radius :
    let machine : Machine (List Primitive) := ⟨Context.create 24 32 "", []⟩
    let radius : Number := .float (1 / 0)
    let values : List Value := [.number 3, .number 4, .number radius, .text "red"]
    let recorded := callCommand (.recording 24 32) machine "fillCircle" values
    Command.fillCircle.IsEmptyCircle values ∧ recorded.2 = none ∧ recorded.1.surface = [] ∧
      callCommand (.recording 24 32) machine "fillCircle" (values ++ [.null]) = recorded := by
  intro machine radius values recorded
  obtain ⟨-, -, -, silent, ignored⟩ :=
    callCommand_touches_own_state (.recording 24 32) machine "fillCircle" values
  have named : Command.ofName? "fillCircle" = some .fillCircle := by decide
  have empty : Command.fillCircle.IsEmptyCircle values :=
    ⟨Or.inl rfl, radius, rfl, by decide +kernel⟩
  have done : recorded.2 = none := by decide +kernel
  obtain ⟨command, named', nothing, -⟩ := silent 24 32 [] done
  cases named.symm.trans named'
  exact ⟨empty, done, nothing (Or.inr empty), ignored .fillCircle [.null] named (by decide)⟩

end Machine

end SketchScreen
