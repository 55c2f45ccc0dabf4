import SketchScreen.Proofs.ExactValue
import SketchScreen.Proofs.Surfaces

/-!
# Geometry that is not Finite

Infinities and not-a-number draw nothing and break nothing.  A command that is given such a
coordinate, size or radius is passed over in silence, on a screen and in a drawing alike.

## Main Definitions

- `Action.geometry`: the coordinates, sizes and radii that an action draws with.
- `Action.radius?`: the radius of a circle.
- `Surface.IgnoresNonFinite`: a surface that passes over primitives that are not finite.

## Design Notes

Both surfaces test all numbers of a primitive before anything else, so what is left to show is
that a number that is not finite survives until there.  It does unless it is added to
something on the way, and a sum with it is not finite either (`Number.value?_add_eq_none`); so
an outline with round corners has a corner that is not finite (`exists_of_roundRectPoints`),
and so has the height of glyphs.
-/

namespace SketchScreen

/-- The coordinates, sizes and radii that an action draws with, in a style of texts. -/
def Action.geometry (style : TextStyle) : Action → List Number
  | .draw shape => shape.numbers
  | .write _ location => [location.x, location.y, style.size]
  | .writeLine _ => [style.cursorX, style.cursorY, style.size]
  | .setColor _ | .setSize _ | .setCursor _ _ => []

/-- The radius of the circle that an action draws. -/
def Action.radius? : Action → Option Number
  | .draw (.circle _ _ r _) => some r
  | _ => none

/-! ## Tests -/

namespace Geometry

variable {k : Nat}

/-- **Numbers of which one is not finite fail the test.** -/
theorem allFinite_of_value?_eq_none {numbers : List Number}
    (within : ∀ n ∈ numbers, n.IsWithin k) (range : k ≤ 1022)
    (nonFinite : ∃ n ∈ numbers, n.value? = none) : allFinite numbers = .ok false := by
  obtain ⟨verdict, tested, passed⟩ := allFinite_gives within range
  cases verdict with
  | false => exact tested
  | true =>
      obtain ⟨n, mem, noValue⟩ := nonFinite
      have hasValue := Number.isSome_value?_of_isFinite (passed rfl n mem)
      rw [noValue] at hasValue
      cases hasValue

/-- The outline of a rectangle with round corners goes through all its edges. -/
theorem edges_mem_roundRectPoints {x y w h r : Number} {segments : Nat}
    {points : List (Point Number)}
    (result : roundRectPoints x y w h r segments = .ok points) :
    ∃ right bottom inside, x.add w = .ok right ∧ y.add h = .ok bottom ∧ x.add r = .ok inside ∧
      ∀ n ∈ [x, y, right, bottom, inside], n ∈ points.flatMap fun p => [p.x, p.y] := by
  obtain ⟨right, hright, result⟩ := exists_of_bind_eq_ok result
  obtain ⟨bottom, hbottom, result⟩ := exists_of_bind_eq_ok result
  obtain ⟨insideLeft, hinsideLeft, result⟩ := exists_of_bind_eq_ok result
  obtain ⟨insideRight, -, result⟩ := exists_of_bind_eq_ok result
  obtain ⟨insideTop, -, result⟩ := exists_of_bind_eq_ok result
  obtain ⟨insideBottom, -, result⟩ := exists_of_bind_eq_ok result
  obtain ⟨topRight, -, result⟩ := exists_of_bind_eq_ok result
  obtain ⟨bottomRight, -, result⟩ := exists_of_bind_eq_ok result
  obtain ⟨bottomLeft, -, result⟩ := exists_of_bind_eq_ok result
  obtain ⟨topLeft, -, result⟩ := exists_of_bind_eq_ok result
  cases result
  refine ⟨right, bottom, insideLeft, hright, hbottom, hinsideLeft, ?_⟩
  simp

/-- **An outline is not finite if a number that it is made from is not.** -/
theorem exists_of_roundRectPoints {x y w h r : Number} {segments : Nat}
    {points : List (Point Number)} (result : roundRectPoints x y w h r segments = .ok points)
    (nonFinite : ∃ n ∈ [x, y, w, h, r], n.value? = none) :
    ∃ n ∈ points.flatMap fun p => [p.x, p.y], n.value? = none := by
  obtain ⟨right, bottom, inside, hright, hbottom, hinside, mem⟩ :=
    edges_mem_roundRectPoints result
  simp only [List.forall_mem_cons] at mem
  obtain ⟨hx, hy, onRight, onBottom, onInside, -⟩ := mem
  simp only [List.mem_cons, List.not_mem_nil, or_false] at nonFinite
  obtain ⟨n, rfl | rfl | rfl | rfl | rfl, noValue⟩ := nonFinite
  · exact ⟨_, hx, noValue⟩
  · exact ⟨_, hy, noValue⟩
  · exact ⟨_, onRight, Number.value?_add_eq_none (Or.inr noValue) hright⟩
  · exact ⟨_, onBottom, Number.value?_add_eq_none (Or.inr noValue) hbottom⟩
  · exact ⟨_, onInside, Number.value?_add_eq_none (Or.inr noValue) hinside⟩

end Geometry

/-! ## Surfaces -/

/-- A primitive that is not finite: no integer of it is beyond the range of floats, and some
number of it is infinite or not a number. -/
structure Primitive.IsNonFinite (p : Primitive) : Prop where
  within : ∀ n ∈ p.numbers, n.IsWithin 1022
  exists_value?_eq_none : ∃ n ∈ p.numbers, n.value? = none

theorem Primitive.isNonFinite_of_mem_iff {p : Primitive} {numbers : List Number} {k : Nat}
    (same : ∀ n, n ∈ p.numbers ↔ n ∈ numbers) (within : ∀ n ∈ numbers, n.IsWithin k)
    (range : k ≤ 1022) (nonFinite : ∃ n ∈ numbers, n.value? = none) : p.IsNonFinite := by
  refine ⟨fun n mem => (within n ((same n).mp mem)).mono range, ?_⟩
  obtain ⟨n, mem, noValue⟩ := nonFinite
  exact ⟨n, (same n).mpr mem, noValue⟩

/-- Such a primitive fails the test that surfaces make. -/
theorem Primitive.IsNonFinite.allFinite {p : Primitive} (h : p.IsNonFinite) :
    Geometry.allFinite p.numbers = .ok false :=
  Geometry.allFinite_of_value?_eq_none h.within le_rfl h.exists_value?_eq_none

/-- A surface that passes over primitives that are not finite. -/
def Surface.IgnoresNonFinite {σ : Type} (surface : Surface σ) : Prop :=
  ∀ p state, Primitive.IsNonFinite p → surface.draw p state = (state, none)

theorem Raster.plan_of_isNonFinite (raster : Raster) {p : Primitive}
    (nonFinite : p.IsNonFinite) : raster.plan p = .ok none := by
  have test := nonFinite.allFinite
  cases p with
  | fillRect x y w h color =>
      rw [Primitive.numbers] at test
      rw [plan, planFillRect, test]
      rfl
  | drawRect x y w h color =>
      rw [Primitive.numbers] at test
      rw [plan, planDrawRect, test]
      rfl
  | drawLine start stop color =>
      change Geometry.pointsFinite [start, stop] = .ok false at test
      rw [plan, planLine, test]
      rfl
  | fillPolygon points color =>
      change Geometry.pointsFinite points = .ok false at test
      rw [plan, planPolygon, test]
      rfl
  | drawPolygon points color =>
      change Geometry.pointsFinite points = .ok false at test
      rw [plan, planPolygon, test]
      rfl
  | fillEllipse center rx ry color =>
      rw [Primitive.numbers] at test
      rw [plan, planFillEllipse, planEllipse, test]
      rfl
  | drawEllipse center rx ry color =>
      rw [Primitive.numbers] at test
      rw [plan, planDrawEllipse, planEllipse, test]
      rfl
  | drawText text location color size =>
      rw [Primitive.numbers] at test
      rw [plan, planText, test]
      rfl

theorem Drawing.plan_of_isNonFinite (height : Number) {p : Primitive}
    (nonFinite : p.IsNonFinite) : plan height p = .ok none := by
  have test := nonFinite.allFinite
  cases p with
  | fillRect x y w h color =>
      rw [Primitive.numbers] at test
      rw [plan, planRect, test]
      rfl
  | drawRect x y w h color =>
      rw [Primitive.numbers] at test
      rw [plan, planRect, test]
      rfl
  | drawLine start stop color =>
      change Geometry.pointsFinite [start, stop] = .ok false at test
      rw [plan, test]
      rfl
  | fillPolygon points color =>
      change Geometry.pointsFinite points = .ok false at test
      rw [plan, planPolygon, test]
      rfl
  | drawPolygon points color =>
      change Geometry.pointsFinite points = .ok false at test
      rw [plan, planPolygon, test]
      rfl
  | fillEllipse center rx ry color =>
      rw [Primitive.numbers] at test
      rw [plan, hasArea, test]
      rfl
  | drawEllipse center rx ry color =>
      rw [Primitive.numbers] at test
      rw [plan, hasArea, test]
      rfl
  | drawText text location color size =>
      rw [Primitive.numbers] at test
      rw [plan, test]
      rfl

/-- **Screens pass over what is not finite.** -/
theorem Raster.surface_ignoresNonFinite (raster : Raster) :
    raster.surface.IgnoresNonFinite := by
  intro p screen nonFinite
  show raster.draw p screen = _
  rw [draw, plan_of_isNonFinite raster nonFinite]

/-- **Drawings pass over what is not finite.** -/
theorem Drawing.surface_ignoresNonFinite (width height : Number) :
    (surface width height).IgnoresNonFinite := by
  intro p entities nonFinite
  show draw height p entities = _
  rw [draw, plan_of_isNonFinite height nonFinite]

/-! ## Shapes -/

namespace Shape

variable {width height : Number} {shape : Shape}

theorem circle?_gives {filled : Bool} {center : Point Number} {r : Number} {color : Color}
    (within : ∀ n ∈ [center.x, center.y, r], n.IsWithin 1000)
    (nonFinite : ∃ n ∈ [center.x, center.y, r], n.value? = none)
    (radius : ∀ q, r.value? = some q → 0 ≤ q) :
    Gives (fun drawn => ∀ p ∈ drawn, p.IsNonFinite) (circle? filled center r color) := by
  have hr : r.IsWithin 1000 := within r (by simp)
  have ellipse : ∀ p : Primitive, p.numbers = [center.x, center.y, r, r] → p.IsNonFinite := by
    intro p numbers
    refine Primitive.isNonFinite_of_mem_iff (fun n => ?_) within (by decide) nonFinite
    simp [numbers]
  refine .bind (Number.isFinite_gives hr (by decide)).liftNumber fun finite tested =>
    .ite ?_ ?_
  · intro isTrue
    obtain ⟨q, value⟩ := Option.isSome_iff_exists.mp
      ((Number.isSome_value?_of_isFinite tested).trans isTrue)
    have notBelow : ¬ r.lt 0 = true := fun below =>
      absurd (radius q value)
        (not_le.mpr (by exact_mod_cast (Number.lt_int_iff value 0).mp below))
    refine .ite (fun below => absurd below notBelow) fun _ => .pure fun p drawn => ?_
    cases filled with
    | false =>
        cases drawn
        exact ellipse _ rfl
    | true =>
        cases drawn
        exact ellipse _ rfl
  · intro _
    refine .pure fun p drawn => ?_
    cases drawn

/-- **A shape that is not finite is drawn as a primitive that is not finite**,
or not at all. -/
theorem primitive?_gives (within : ∀ n ∈ shape.numbers, n.IsWithin 1000)
    (nonFinite : ∃ n ∈ shape.numbers, n.value? = none)
    (radius : ∀ r, (Action.draw shape).radius? = some r → ∀ q, r.value? = some q → 0 ≤ q) :
    Gives (fun drawn => ∀ p ∈ drawn, p.IsNonFinite) (shape.primitive? width height) := by
  have same : ∀ p : Primitive, p.numbers = shape.numbers → p.IsNonFinite := by
    intro p numbers
    exact Primitive.isNonFinite_of_mem_iff (fun n => by rw [numbers]) within (by decide)
      nonFinite
  cases shape with
  | screen color =>
      obtain ⟨n, mem, -⟩ := nonFinite
      cases mem
  | primitive q =>
      refine .pure fun p drawn => ?_
      cases drawn
      exact same _ rfl
  | circle filled center r color => exact circle?_gives within nonFinite (radius r rfl)
  | triangle filled p0 p1 p2 color =>
      refine .pure fun p drawn => ?_
      cases drawn
      exact same _ (numbers_polygon ..)
  | roundRect filled x y w h r color =>
      simp only [numbers, List.forall_mem_cons] at within
      obtain ⟨hx, hy, hw, hh, hr, -⟩ := within
      obtain ⟨points, result, -, inside⟩ :=
        Geometry.roundRectPoints_gives hx hy hw hh hr (by decide)
          (by decide : 0 < Geometry.cornerSegments)
      have corner := Geometry.exists_of_roundRectPoints result nonFinite
      refine ⟨some (polygon filled points color), ?_, fun p drawn => ?_⟩
      · rw [primitive?, result]
        rfl
      · cases drawn
        exact Primitive.isNonFinite_of_mem_iff (fun n => by rw [numbers_polygon])
          (Geometry.forall_coordinates_iff.mpr inside) (by decide) corner

end Shape

/-! ## Texts -/

/-- Glyphs of a size that is not finite have no finite height. -/
theorem TextStyle.value?_fontSize_eq_none {style : TextStyle} (h : style.size.value? = none) :
    style.fontSize.value? = none := by
  obtain ⟨x, size, noValue⟩ := Number.eq_float_of_value?_eq_none h
  rw [fontSize, size]
  exact Number.Binary.value?_mul_eq_none (Or.inr noValue)

/-- A text whose place or size is not finite. -/
theorem Primitive.isNonFinite_drawText {style : TextStyle} (text : String)
    (location : Point Number)
    (within : ∀ n ∈ [location.x, location.y, style.size], n.IsWithin 1000)
    (nonFinite : ∃ n ∈ [location.x, location.y, style.size], n.value? = none) :
    (Primitive.drawText text location style.color style.fontSize).IsNonFinite := by
  simp only [List.forall_mem_cons] at within
  obtain ⟨hx, hy, hsize, -⟩ := within
  -- the height of glyphs has nothing to do with the cursor
  have glyphs : style.fontSize.IsWithin 1003 := by
    have home : TextStyle.IsWithin 1000 (style.setCursor 0 0) :=
      ⟨(TextStyle.start_isWithin 1000 (by decide)).cursor, hsize⟩
    show (style.setCursor 0 0).fontSize.IsWithin 1003
    exact TextStyle.fontSize_isWithin home
  constructor
  · simp only [Primitive.numbers, List.forall_mem_cons]
    exact ⟨hx.mono (by decide), hy.mono (by decide), glyphs.mono (by decide),
      List.forall_mem_nil _⟩
  · simp only [Primitive.numbers, List.exists_mem_cons_iff] at nonFinite ⊢
    exact nonFinite.imp_right (Or.imp_right (Or.imp_left TextStyle.value?_fontSize_eq_none))

/-! ## Commands -/

namespace Machine

variable {σ : Type} {surface : Surface σ}

theorem drawText_of_isNonFinite (ignores : surface.IgnoresNonFinite) (machine : Machine σ)
    {text : String} {location : Point Number}
    (nonFinite : (Primitive.drawText text location machine.context.style.color
      machine.context.style.fontSize).IsNonFinite) :
    drawText surface machine text location = (machine, none) := by
  rw [drawText, draw, ignores _ _ nonFinite]

/-- An outcome in which nothing is drawn and nothing fails. -/
structure IsIdle (machine : Machine σ) (outcome : Machine σ × Option Fault) : Prop where
  surface : outcome.1.surface = machine.surface
  fault : outcome.2 = none

/-- **An action with geometry that is not finite draws nothing and does not fail**, on any
surface that passes over primitives that are not finite. -/
theorem perform_of_nonFinite (ignores : surface.IgnoresNonFinite) (machine : Machine σ)
    {action : Action} (within : ∀ n ∈ action.geometry machine.context.style, n.IsWithin 1000)
    (radius : ∀ r, action.radius? = some r → ∀ q, r.value? = some q → 0 ≤ q)
    (nonFinite : ∃ n ∈ action.geometry machine.context.style, n.value? = none) :
    machine.IsIdle (perform surface machine action) := by
  cases action with
  | draw shape =>
      obtain ⟨drawn, result, every⟩ :=
        @Shape.primitive?_gives surface.width surface.height shape within nonFinite radius
      rw [perform, draw, Surface.drawShape, result]
      cases drawn with
      | none => exact ⟨rfl, rfl⟩
      | some p =>
          have ignored := ignores p machine.surface (every p rfl)
          exact ⟨congrArg Prod.fst ignored, congrArg Prod.snd ignored⟩
  | write text location =>
      rw [perform, drawText_of_isNonFinite ignores machine
        (Primitive.isNonFinite_drawText text location within nonFinite)]
      exact ⟨rfl, rfl⟩
  | writeLine text =>
      have style : machine.context.style.IsWithin 1000 := by
        simp only [Action.geometry, List.forall_mem_cons] at within
        exact ⟨⟨within.1, within.2.1⟩, within.2.2.1⟩
      obtain ⟨moved, advanced, -⟩ := TextStyle.advanceLine_gives style (by decide)
      have ignored := drawText_of_isNonFinite ignores machine
        (Primitive.isNonFinite_drawText text ⟨_, _⟩ within nonFinite)
      rw [perform, ignored]
      simp only [advanceLine, advanced]
      exact ⟨rfl, rfl⟩
  | setColor color =>
      obtain ⟨n, mem, -⟩ := nonFinite
      cases mem
  | setSize size =>
      obtain ⟨n, mem, -⟩ := nonFinite
      cases mem
  | setCursor x y =>
      obtain ⟨n, mem, -⟩ := nonFinite
      cases mem

/-- **Geometry that is not finite is passed over.**  Take any command with fitted arguments,
in any style, such that one of the coordinates, sizes and radii that it draws with is infinite
or not a number, while each of them that is an integer has a magnitude below `2 ^ 1000`, and
the radius of a circle is not a number below zero.  Then calling it leaves every screen and
every drawing as it was, with no new request to the painter, no new pixel and no new entity,
and it does not fail. -/
theorem callCommand_of_nonFinite (command : Command) (values : List Value)
    (arguments : Arguments command.parameters) (bound : command.bind values = .ok arguments)
    (context : Context)
    (within : ∀ n ∈ (command.action arguments).geometry context.style, n.IsWithin 1000)
    (radius : ∀ r, (command.action arguments).radius? = some r →
      ∀ q, r.value? = some q → 0 ≤ q)
    (nonFinite : ∃ n ∈ (command.action arguments).geometry context.style, n.value? = none)
    (raster : Raster) (screen : Screen) (width height : Number) (entities : Array Entity) :
    let onScreen : Machine Screen := ⟨context, screen⟩
    let inDrawing : Machine (Array Entity) := ⟨context, entities⟩
    onScreen.IsIdle (onScreen.callCommand raster.surface command.name values) ∧
      inDrawing.IsIdle
        (inDrawing.callCommand (Drawing.surface width height) command.name values) := by
  intro onScreen inDrawing
  simp only [callCommand_of_bind bound]
  constructor
  · exact perform_of_nonFinite raster.surface_ignoresNonFinite onScreen within radius
      nonFinite
  · exact perform_of_nonFinite (Drawing.surface_ignoresNonFinite width height) inDrawing
      within radius nonFinite

/-- A rectangle with round corners whose width is infinite. -/
theorem callCommand_of_nonFinite_width :
    let raster : Raster := ⟨24, 32⟩
    let context := Context.create (.int 24) (.int 32) ""
    let values : List Value :=
      [.number (.int 3), .number (.float 0.5), .number (.float (-Number.Binary.infinity)),
        .number (.int 8), .number (.int 2), .text "TFT_RED"]
    let arguments : Arguments Command.fillRoundRect.parameters :=
      (.int 3, .float 0.5, .float (-Number.Binary.infinity), .int 8, .int 2, ⟨255, 0, 0⟩, ())
    let action := Command.fillRoundRect.action arguments
    let onScreen : Machine Screen := ⟨context, Screen.blank raster .black⟩
    let inDrawing : Machine (Array Entity) := ⟨context, #[]⟩
    Command.fillRoundRect.bind values = .ok arguments ∧
      (∀ n ∈ action.geometry context.style, n.IsWithin 1000) ∧
      (∀ r, action.radius? = some r → ∀ q, r.value? = some q → 0 ≤ q) ∧
      (∃ n ∈ action.geometry context.style, n.value? = none) ∧
      onScreen.IsIdle (onScreen.callCommand raster.surface "fillRoundRect" values) ∧
      inDrawing.IsIdle
        (inDrawing.callCommand (Drawing.surface (.int 24) (.int 32)) "fillRoundRect"
          values) := by
  intro raster context values arguments action onScreen inDrawing
  have bound : Command.fillRoundRect.bind values = .ok arguments := by rfl
  have within : ∀ n ∈ action.geometry context.style, n.IsWithin 1000 := by
    show ∀ n ∈ [_, _, _, _, _], _
    decide +kernel
  have radius : ∀ r, action.radius? = some r → ∀ q, r.value? = some q → 0 ≤ q := by
    intro r none
    cases none
  have nonFinite : ∃ n ∈ action.geometry context.style, n.value? = none :=
    ⟨.float (-Number.Binary.infinity), by decide +kernel, by decide +kernel⟩
  exact ⟨bound, within, radius, nonFinite,
    callCommand_of_nonFinite .fillRoundRect values arguments bound context within radius
      nonFinite raster (Screen.blank raster .black) (.int 24) (.int 32) #[]⟩

end Machine

end SketchScreen
