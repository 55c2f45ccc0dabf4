import SketchScreen.Proofs.Boxes
import SketchScreen.Proofs.NonFinite
import SketchScreen.Proofs.Writing

/-!
# Radii below Zero

Circles and rectangles with round corners are given a radius.  A circle whose radius is
below zero is refused before anything is asked of a surface, whatever surface it is.  A
rectangle with round corners is not: its outline is computed with any radius, and handed to
the surface as a polygon.

## Main Definitions

- `circleCalls`, `roundRectCalls`: the calls that give a radius.

## Design Notes

The check of a circle stands behind a test of finiteness, which a radius below zero passes
(`Number.isFinite_of_value?`), and in front of all else.  What is reported about it holds the
radius in digits, so the radius must be short enough to be written.
-/

namespace SketchScreen

/-! ## Numbers -/

namespace Number

variable {a : Number} {k : Nat} {q : ℚ}

/-- A number that has a value is found finite. -/
theorem isFinite_of_value? (within : a.IsWithin k) (range : k ≤ 1022)
    (value : a.value? = some q) : a.isFinite = .ok true := by
  obtain ⟨finite, tested, -⟩ := isFinite_gives within range
  have same := isSome_value?_of_isFinite tested
  rw [value, Option.isSome_some] at same
  rw [tested, same]

end Number

/-! ## Shapes -/

namespace Shape

variable {x y w h r : Number} {q : ℚ} {shown : String}

/-- **A circle with a radius below zero is refused.** -/
theorem circle?_of_negative (within : r.IsWithin 1000) (value : r.value? = some q)
    (negative : q < 0) (written : r.write = .ok shown) (filled : Bool) (center : Point Number)
    (color : Color) :
    circle? filled center r color = .error (.negativeRadius shown) := by
  have finite : r.isFinite = .ok true := Number.isFinite_of_value? within (by decide) value
  have below : r.lt 0 = true := (Number.lt_int_iff value 0).mpr (by exact_mod_cast negative)
  rw [circle?, finite, written]
  show (if r.lt 0 = true then _ else _) = _
  rw [if_pos below]
  rfl

/-- **A rectangle with round corners is a polygon**, whatever its radius is. -/
theorem exists_primitive?_roundRect (within : ∀ n ∈ [x, y, w, h, r], n.IsWithin 1000)
    (filled : Bool) (color : Color) :
    ∃ points, Geometry.roundRectPoints x y w h r Geometry.cornerSegments = .ok points ∧
      (∀ n ∈ (polygon filled points color).numbers, n.IsWithin 1002) ∧
      (polygon filled points color).IsRegular ∧
      ∀ width height, (roundRect filled x y w h r color).primitive? width height
        = .ok (some (polygon filled points color)) := by
  simp only [List.forall_mem_cons] at within
  obtain ⟨hx, hy, hw, hh, hr, -⟩ := within
  obtain ⟨points, result, enough, inside⟩ := Geometry.roundRectPoints_gives hx hy hw hh hr
    (by decide) (by decide : 0 < Geometry.cornerSegments)
  refine ⟨points, result, ?_, isRegular_polygon filled enough color, fun width height => ?_⟩
  · rw [numbers_polygon]
    exact Geometry.forall_coordinates_iff.mpr inside
  · rw [primitive?, result]
    rfl

end Shape

/-! ## Calls -/

/-- The calls that draw a circle. -/
def circleCalls (x y r : Number) (color : Value) : List (String × List Value) :=
  [("fillCircle", [.number x, .number y, .number r, color]),
    ("drawCircle", [.number x, .number y, .number r, color])]

/-- The calls that draw a rectangle with round corners, with whether they fill it. -/
def roundRectCalls (x y w h r : Number) (color : Value) : List (String × List Value × Bool) :=
  [("fillRoundRect", [.number x, .number y, .number w, .number h, .number r, color], true),
    ("drawRoundRect", [.number x, .number y, .number w, .number h, .number r, color], false)]

namespace Machine

variable {σ : Type} {surface : Surface σ} {machine : Machine σ}

/-- A call that draws does to the surface what its shape does. -/
theorem callCommand_of_shape (command : Command) {values : List Value}
    {arguments : Arguments command.parameters} {shape : Shape}
    (bound : command.bind values = .ok arguments)
    (drawn : command.action arguments = .draw shape) :
    machine.callCommand surface command.name values
      = machine.draw (surface.drawShape shape) := by
  rw [callCommand_of_bind bound, drawn]
  rfl

/-- A shape that is refused before it is drawn changes nothing. -/
theorem draw_of_refused {shape : Shape} {fault : Fault}
    (refused : shape.primitive? surface.width surface.height = .error fault) :
    machine.draw (surface.drawShape shape) = (machine, some fault) := by
  rw [draw, Surface.drawShape, refused]

/-- A line whose call fails is reported. -/
theorem step_of_callCommand {name text : String} {arguments : List Argument} {fault : Fault}
    (read : Argument.readAll machine.context.scope.lookup text = .ok arguments)
    (failed : machine.callCommand surface name (arguments.map Argument.toValue)
      = (machine, some fault)) (line : Nat) :
    machine.step surface line (.call name text)
      = { machine with context := machine.context.reportFault line fault } := by
  simp only [step, execute, read, failed, settle]

/-- **A radius below zero is refused for circles, and for nothing else.**  Take any finite
radius below zero, any other numbers and any value at all for a colour, such that integers
have a magnitude below `2 ^ 1000`.  Then a call that draws a circle fails on every surface
with a fault that rejects the value of the radius, and leaves the machine as it was: the
context, and the surface, of which nothing is asked.  On a line of a sketch the fault is all
that the line adds, as a diagnostic with the code `E405`.  A call that draws a rectangle with
round corners does on every surface what a polygon does, the one whose corners are computed
from that radius; so neither a screen nor a drawing refuses it. -/
theorem callCommand_of_negative_radius (x y w h r : Number) (color : Value)
    (within : ∀ n ∈ [x, y, w, h, r], n.IsWithin 1000) (q : ℚ) (value : r.value? = some q)
    (negative : q < 0) :
    (∃ shown, r.write = .ok shown ∧ ∀ call ∈ circleCalls x y r color,
      ∀ (σ : Type) (surface : Surface σ) (machine : Machine σ),
        machine.callCommand surface call.1 call.2 = (machine, some (.negativeRadius shown)) ∧
        ∀ (line : Nat) (text : String) (arguments : List Argument),
          Argument.readAll machine.context.scope.lookup text = .ok arguments →
          arguments.map Argument.toValue = call.2 →
          machine.step surface line (.call call.1 text)
            = ⟨machine.context.report ⟨"E405",
              s!"The radius provided ({shown}) is negative", line,
                machine.context.sourceLine? line, []⟩, machine.surface⟩) ∧
    ∀ call ∈ roundRectCalls x y w h r color,
      (∃ points, Geometry.roundRectPoints x y w h r Geometry.cornerSegments = .ok points ∧
        ∀ (σ : Type) (surface : Surface σ) (machine : Machine σ),
          machine.callCommand surface call.1 call.2.1
            = machine.draw (surface.draw (Shape.polygon call.2.2 points color.toColor))) ∧
      (∀ raster : Raster, raster.IsModest → ∀ machine : Machine Screen,
        (machine.callCommand raster.surface call.1 call.2.1).2 = none) ∧
      ∀ width height : Number, height.IsWithin 1000 → ∀ machine : Machine (Array Entity),
        (machine.callCommand (Drawing.surface width height) call.1 call.2.1).2 = none := by
  have hr : r.IsWithin 1000 := within r (by simp)
  constructor
  · obtain ⟨shown, written⟩ := Number.exists_write hr (by decide)
    refine ⟨shown, written, ?_⟩
    have refused : ∀ (filled : Bool) (width height : Number),
        (Shape.circle filled ⟨x, y⟩ r color.toColor).primitive? width height
          = .error (.negativeRadius shown) := by
      intro filled width height
      exact Shape.circle?_of_negative hr value negative written filled ⟨x, y⟩ color.toColor
    have called : ∀ call ∈ circleCalls x y r color,
        ∀ (σ : Type) (surface : Surface σ) (machine : Machine σ),
          machine.callCommand surface call.1 call.2
            = (machine, some (.negativeRadius shown)) := by
      simp only [circleCalls, List.forall_mem_cons]
      refine ⟨fun σ surface machine => ?_, fun σ surface machine => ?_, List.forall_mem_nil _⟩
      · exact (callCommand_of_shape .fillCircle rfl rfl).trans
          (draw_of_refused (refused true _ _))
      · exact (callCommand_of_shape .drawCircle rfl rfl).trans
          (draw_of_refused (refused false _ _))
    intro call mem σ surface machine
    have failed := called call mem σ surface machine
    refine ⟨failed, fun line text arguments read same => ?_⟩
    rw [← same] at failed
    exact step_of_callCommand read failed line
  · have drawn : ∀ call ∈ roundRectCalls x y w h r color,
        ∀ (σ : Type) (surface : Surface σ) (machine : Machine σ),
          machine.callCommand surface call.1 call.2.1
            = machine.draw
                (surface.drawShape (.roundRect call.2.2 x y w h r color.toColor)) := by
      simp only [roundRectCalls, List.forall_mem_cons]
      exact ⟨fun σ surface machine => callCommand_of_shape .fillRoundRect rfl rfl,
        fun σ surface machine => callCommand_of_shape .drawRoundRect rfl rfl,
        List.forall_mem_nil _⟩
    intro call mem
    obtain ⟨points, result, inside, regular, polygon⟩ :=
      Shape.exists_primitive?_roundRect within call.2.2 color.toColor
    have called : ∀ (σ : Type) (surface : Surface σ) (machine : Machine σ),
        machine.callCommand surface call.1 call.2.1
          = machine.draw (surface.draw (Shape.polygon call.2.2 points color.toColor)) := by
      intro σ surface machine
      rw [drawn call mem, draw, draw, Surface.drawShape, polygon]
    refine ⟨⟨points, result, called⟩, fun raster modest machine => ?_,
      fun width height short machine => ?_⟩
    · rw [called]
      exact Raster.draw_fault
        (Raster.plan_gives modest inside regular (by decide) (by decide)) _
    · rw [called]
      exact Drawing.draw_fault
        (Drawing.plan_gives (short.mono (by decide)) (by decide) inside regular) _

/-- A circle, and a rectangle that gets its corners outside of itself. -/
theorem callCommand_of_negative_radius_three :
    let raster : Raster := ⟨240, 320⟩
    let context := Context.create (.int 240) (.int 320) ""
    let machine : Machine Screen := ⟨context, Screen.blank raster .black⟩
    let red : Value := .text "TFT_RED"
    (∀ n ∈ [Number.int 2, .int 2, .int 12, .float 8.5, .int (-3)], n.IsWithin 1000) ∧
      (Number.int (-3)).value? = some (-3) ∧
      machine.callCommand raster.surface "drawCircle"
          [.number (.int 2), .number (.int 2), .number (.int (-3)), red]
        = (machine, some (.negativeRadius "-3")) ∧
      (machine.callCommand raster.surface "drawRoundRect"
        [.number (.int 2), .number (.int 2), .number (.int 12), .number (.float 8.5),
          .number (.int (-3)), red]).2 = none := by
  intro raster context machine red
  have within : ∀ n ∈ [Number.int 2, .int 2, .int 12, .float 8.5, .int (-3)],
      n.IsWithin 1000 := by
    decide +kernel
  have value : (Number.int (-3)).value? = some (-3) := rfl
  obtain ⟨⟨shown, written, circles⟩, rectangles⟩ := callCommand_of_negative_radius (.int 2)
    (.int 2) (.int 12) (.float 8.5) (.int (-3)) red within (-3) value (by norm_num)
  have digits : (Number.int (-3)).write = .ok "-3" := by decide +kernel
  cases digits.symm.trans written
  refine ⟨within, value, ?_, ?_⟩
  · exact (circles ("drawCircle", _) (.tail _ (.head _)) Screen raster.surface machine).1
  · exact (rectangles ("drawRoundRect", _, false) (.tail _ (.head _))).2.1 raster
      ⟨by decide, by decide⟩ machine

/-- The rectangle with round corners is drawn, and not refused. -/
theorem not_forall_negative_radius_refused :
    ¬ ∀ (x y w h r : Number) (color : Value) (q : ℚ),
    (∀ n ∈ [x, y, w, h, r], n.IsWithin 1000) →
      r.value? = some q → q < 0 →
      ∀ call ∈ circleCalls x y r color
          ++ (roundRectCalls x y w h r color).map fun call => (call.1, call.2.1),
        ∀ (σ : Type) (surface : Surface σ) (machine : Machine σ),
          ∃ fault, fault.rejectsValue = true ∧
            machine.callCommand surface call.1 call.2 = (machine, some fault) := by
  intro always
  let machine : Machine (List Primitive) := ⟨Context.create (.int 240) (.int 320) "", []⟩
  obtain ⟨fault, -, refused⟩ := always (.int 2) (.int 2) (.int 12) (.int 8) (.int (-2))
    (.text "TFT_RED") (-2) (by decide +kernel) rfl (by norm_num) ("drawRoundRect", _)
    (.tail _ (.tail _ (.tail _ (.head _)))) (List Primitive)
    (Surface.recording (.int 240) (.int 320)) machine
  have drawn : (machine.callCommand (Surface.recording (.int 240) (.int 320)) "drawRoundRect"
      [.number (.int 2), .number (.int 2), .number (.int 12), .number (.int 8),
        .number (.int (-2)), .text "TFT_RED"]).2 = none := by decide +kernel
  have clash : none = some fault := drawn.symm.trans (congrArg Prod.snd refused)
  cases clash

end Machine

end SketchScreen
