import SketchScreen.Proofs.Magnitude
import SketchScreen.Proofs.Simulation
import SketchScreen.Sketch.Render

/-!
# Screens and Drawings Answer Alike

The raster surface and the drawing surface have little in common: each has its own tests, its
own arithmetic and its own ideas of what is empty.  Yet as long as the numbers that reach
commands are within the range of floats, neither has a reason to refuse anything, so a sketch
runs on both with the same reports, to the same variables and the same style.

## Main Definitions

- `Action.numbers`: the numbers that an action works with.
- `Sketch.numbers`, `Sketch.numbersOf`: the numbers that reach commands in a run.
- `Primitive.IsRegular`: a polygon with corners enough, a circle, or any other primitive.
- `TextStyle.IsWithin`: a style whose cursor and size are within range.

## Design Notes

Both surfaces plan first and draw then, and planning a primitive whose numbers are
within range gives a plan (`Raster.plan_gives`, `Drawing.plan_gives`).  Numbers get
some bits longer on the way: by two in an outline with round corners, by three in the
size of glyphs.  The cursor is kept within range by the run itself: it is where a
command has put it, or at a float.
-/

namespace SketchScreen

/-! ## The numbers of a run -/

/-- The numbers of a primitive. -/
def Primitive.numbers : Primitive → List Number
  | .fillRect x y w h _ | .drawRect x y w h _ => [x, y, w, h]
  | .drawLine start stop _ => [start.x, start.y, stop.x, stop.y]
  | .fillPolygon points _ | .drawPolygon points _ => points.flatMap fun p => [p.x, p.y]
  | .fillEllipse center rx ry _ | .drawEllipse center rx ry _ => [center.x, center.y, rx, ry]
  | .drawText _ location _ size => [location.x, location.y, size]

/-- The numbers of a shape. -/
def Shape.numbers : Shape → List Number
  | .screen _ => []
  | .primitive p => p.numbers
  | .circle _ center r _ => [center.x, center.y, r]
  | .triangle _ p0 p1 p2 _ => [p0.x, p0.y, p1.x, p1.y, p2.x, p2.y]
  | .roundRect _ x y w h r _ => [x, y, w, h, r]

/-- The numbers that an action works with. -/
def Action.numbers : Action → List Number
  | .draw shape => shape.numbers
  | .write _ location => [location.x, location.y]
  | .setSize size => [size]
  | .setCursor x y => [x, y]
  | .writeLine _ | .setColor _ => []

namespace Sketch

variable {σ : Type}

/-- The numbers that reach commands while statements are run. -/
def numbers (surface : Surface σ) (machine : Machine σ) : List (Nat × Statement) → List Number
  | [] => []
  | (line, statement) :: rest =>
    (machine.action? statement).elim [] Action.numbers
      ++ numbers surface (machine.step surface line statement) rest

/-- The numbers that reach commands in a run of a sketch. -/
def numbersOf (surface : Surface σ) (width height : Number) (source : String) (state : σ) :
    List Number :=
  match load width height source state with
  | .error _ => []
  | .ok (text, machine) => numbers surface machine (statements text.toList)

end Sketch

/-! ## What commands draw -/

/-- Polygons have at least two corners, and ellipses are circles. -/
def Primitive.IsRegular : Primitive → Prop
  | .fillPolygon points _ | .drawPolygon points _ => 2 ≤ points.length
  | .fillEllipse _ rx ry _ | .drawEllipse _ rx ry _ => rx = ry
  | _ => True

/-- Actions that draw a primitive as it is draw a regular one. -/
def Action.IsRegular : Action → Prop
  | .draw (.primitive p) => p.IsRegular
  | _ => True

theorem Command.ofName?_eq_some_iff {text : String} {command : Command} :
    ofName? text = some command ↔ command.name = text := by
  constructor
  · intro found
    exact eq_of_beq (List.find?_some found :)
  · rintro rfl
    cases command <;> decide

namespace Machine

variable {name : String} {values : List Value}

/-- An action is that of a command with fitted arguments. -/
theorem exists_of_actionOf_eq_ok {action : Action} (h : actionOf name values = .ok action) :
    ∃ command arguments, Command.name command = name ∧ command.bind values = .ok arguments ∧
      action = command.action arguments := by
  rw [actionOf] at h
  cases found : Command.ofName? name with
  | none =>
      rw [found] at h
      cases h
  | some command =>
      cases bound : command.bind values with
      | error fault =>
          simp only [found, bound] at h
          cases h
      | ok arguments =>
          simp only [found, bound] at h
          cases h
          exact ⟨command, arguments, Command.ofName?_eq_some_iff.mp found, bound, rfl⟩

/-- A call whose values are fitted performs the action of the command. -/
theorem callCommand_of_bind {σ : Type} {surface : Surface σ} {machine : Machine σ}
    {command : Command} {arguments : Arguments command.parameters}
    (h : command.bind values = .ok arguments) :
    callCommand surface machine command.name values
      = perform surface machine (command.action arguments) := by
  simp only [callCommand, actionOf, Command.ofName?_eq_some_iff.mpr rfl, h]
  rfl

end Machine

theorem Command.action_isRegular (command : Command)
    (arguments : Arguments command.parameters) : (command.action arguments).IsRegular := by
  cases command <;> trivial

theorem Machine.action?_isRegular {σ : Type} {machine : Machine σ} {statement : Statement}
    {action : Action} (h : machine.action? statement = some action) : action.IsRegular := by
  cases statement with
  | declaration kind name expression => cases h
  | call name arguments =>
      simp only [action?] at h
      split at h
      · cases h
      · rename_i values _
        cases called : actionOf name (values.map Argument.toValue) with
        | error fault =>
            rw [called] at h
            cases h
        | ok action' =>
            rw [called] at h
            cases h
            obtain ⟨command, bound, -, -, rfl⟩ := exists_of_actionOf_eq_ok called
            exact command.action_isRegular bound

namespace Shape

variable {width height : Number} {shape : Shape} {p : Primitive} {k : Nat}

theorem numbers_polygon (filled : Bool) (points : List (Point Number)) (color : Color) :
    (polygon filled points color).numbers = points.flatMap fun p => [p.x, p.y] := by
  cases filled <;> rfl

theorem isRegular_polygon (filled : Bool) {points : List (Point Number)}
    (h : 2 ≤ points.length) (color : Color) : (polygon filled points color).IsRegular := by
  cases filled <;> exact h

/-- A circle that is not refused is drawn if its radius is finite, and then is an ellipse
with equal half axes. -/
theorem of_circle? {filled : Bool} {center : Point Number} {r : Number} {color : Color}
    {drawn : Option Primitive} (h : circle? filled center r color = .ok drawn) :
    r.isFinite = .ok drawn.isSome ∧ ∀ p, drawn = some p →
      p = if filled then .fillEllipse center r r color
        else .drawEllipse center r r color := by
  rw [circle?] at h
  cases tested : r.isFinite with
  | error fault =>
      rw [tested] at h
      cases h
  | ok finite =>
      cases finite with
      | false =>
          rw [tested] at h
          cases h
          exact ⟨rfl, fun p same => absurd same.symm (Option.some_ne_none p)⟩
      | true =>
          simp only [tested, Fault.liftNumber, Except.mapError, bind, Except.bind,
            if_true] at h
          split at h
          · cases shown : r.write with
            | error fault =>
                rw [shown] at h
                cases h
            | ok text =>
                rw [shown] at h
                cases h
          · cases h
            exact ⟨rfl, fun p same => (Option.some.inj same).symm⟩

/-- **What a shape is drawn as** has numbers of two bits more, and is regular. -/
theorem primitive?_isWithin (hwidth : width.IsWithin k) (hheight : height.IsWithin k)
    (range : k + 2 ≤ 1022) (h : ∀ n ∈ shape.numbers, n.IsWithin k)
    (regular : (Action.draw shape).IsRegular)
    (drawn : shape.primitive? width height = .ok (some p)) :
    (∀ n ∈ p.numbers, n.IsWithin (k + 2)) ∧ p.IsRegular := by
  have wider : ∀ {n : Number}, n.IsWithin k → n.IsWithin (k + 2) :=
    fun hn => hn.mono (by omega)
  cases shape with
  | screen color =>
      cases drawn
      have zero : (0 : Number).IsWithin (k + 2) := Nat.two_pow_pos _
      refine ⟨?_, trivial⟩
      simp only [Primitive.numbers, List.forall_mem_cons]
      exact ⟨zero, zero, wider hwidth, wider hheight, List.forall_mem_nil _⟩
  | primitive q =>
      cases drawn
      exact ⟨fun n mem => wider (h n mem), regular⟩
  | circle filled center r color =>
      simp only [numbers, List.forall_mem_cons] at h
      obtain ⟨hx, hy, hr, -⟩ := h
      have within : ∀ n ∈ [center.x, center.y, r, r], n.IsWithin (k + 2) := by
        simp only [List.forall_mem_cons]
        exact ⟨wider hx, wider hy, wider hr, wider hr, List.forall_mem_nil _⟩
      rw [(of_circle? drawn).2 p rfl]
      cases filled with
      | false => exact ⟨within, rfl⟩
      | true => exact ⟨within, rfl⟩
  | triangle filled p0 p1 p2 color =>
      cases drawn
      rw [numbers_polygon]
      exact ⟨fun n mem => wider (h n mem), isRegular_polygon filled (by simp) color⟩
  | roundRect filled x y w h' r color =>
      simp only [numbers, List.forall_mem_cons] at h
      obtain ⟨hx, hy, hw, hh, hr, -⟩ := h
      have some : 0 < Geometry.cornerSegments := by decide
      obtain ⟨points, result, enough, within⟩ :=
        Geometry.roundRectPoints_gives hx hy hw hh hr range some
      rw [primitive?, result] at drawn
      cases drawn
      rw [numbers_polygon]
      exact ⟨Geometry.forall_coordinates_iff.mpr within,
        isRegular_polygon filled enough color⟩

end Shape

/-! ## The raster surface -/

namespace Geometry

variable {center : Point Number} {rx ry width height reach : Number} {k : Nat}

theorem offScreen_gives (hcenter : center.IsWithin k) (hrx : rx.IsWithin k)
    (hry : ry.IsWithin k) (range : k ≤ 1022) :
    Gives (fun _ => True) (offScreen center rx ry width height) := by
  refine .bind (Number.sub_gives hcenter.1 hrx range) fun left _ => ?_
  refine .bind (Number.sub_gives hcenter.2 hry range) fun top _ => ?_
  refine .bind (Number.add_gives hcenter.1 hrx range) fun right _ => ?_
  exact .bind (Number.add_gives hcenter.2 hry range) fun bottom _ => .pure trivial

theorem nearScreen_gives (hcenter : center.IsWithin k) (hrx : rx.IsWithin k)
    (hry : ry.IsWithin k) (hwidth : width.IsWithin k) (hheight : height.IsWithin k)
    (hreach : reach.IsWithin k) (range : k ≤ 1022) :
    Gives (fun _ => True) (nearScreen center rx ry width height reach) := by
  have zero : (Number.int 0).IsWithin k := Nat.two_pow_pos _
  refine .bind (Number.sub_gives zero hreach range) fun least _ => ?_
  refine .bind (Number.sub_gives hcenter.1 hrx range) fun left _ => ?_
  refine .bind (Number.sub_gives hcenter.2 hry range) fun top _ => ?_
  refine .bind (Number.add_gives hcenter.1 hrx range) fun right _ => ?_
  refine .bind (Number.add_gives hcenter.2 hry range) fun bottom _ => ?_
  refine .bind (Number.add_gives hwidth hreach range) fun farRight _ => ?_
  exact .bind (Number.add_gives hheight hreach range) fun farBottom _ => .pure trivial

end Geometry

namespace Raster

/-- A screen that has pixels, but no more than numbers of thirteen bits can count. -/
structure IsModest (raster : Raster) : Prop where
  width : 1 ≤ raster.width ∧ raster.width ≤ 1920
  height : 1 ≤ raster.height ∧ raster.height ≤ 1920

variable {raster : Raster} {x y w h rx ry size : Number} {center location : Point Number}
  {ink : Color} {k : Nat}

/-- An integer of thirteen bits is within every range that is not narrower. -/
theorem isWithin_of_lt {n : Nat} (small : n < 8192) (least : 13 ≤ k) :
    (Number.int n).IsWithin k := by
  have thirteen : (Number.int n).IsWithin 13 := small
  exact thirteen.mono least

theorem IsModest.width_isWithin (modest : raster.IsModest) (least : 13 ≤ k) :
    raster.widthNumber.IsWithin k :=
  isWithin_of_lt (Nat.lt_of_le_of_lt modest.width.2 (by decide)) least

theorem IsModest.height_isWithin (modest : raster.IsModest) (least : 13 ≤ k) :
    raster.heightNumber.IsWithin k :=
  isWithin_of_lt (Nat.lt_of_le_of_lt modest.height.2 (by decide)) least

/-- The place and the sides of a screen. -/
theorem IsModest.screen_isWithin (modest : raster.IsModest) :
    ∀ n ∈ [(0 : Int), 0, raster.width, raster.height], (Number.int n).IsWithin 13 := by
  have zero : (Number.int 0).IsWithin 13 := by decide
  simp only [List.forall_mem_cons]
  exact ⟨zero, zero, modest.width_isWithin le_rfl, modest.height_isWithin le_rfl,
    List.forall_mem_nil _⟩

theorem planFillRect_gives (within : ∀ n ∈ [x, y, w, h], n.IsWithin k) (range : k ≤ 1022) :
    Gives (fun _ => True) (raster.planFillRect x y w h ink) := by
  have ⟨hx, hy, hw, hh⟩ : x.IsWithin k ∧ y.IsWithin k ∧ w.IsWithin k ∧ h.IsWithin k := by
    simpa using within
  refine .bind (Geometry.allFinite_gives within range) fun _ _ => .ite ?_ fun _ =>
    .pure trivial
  refine fun _ => .bind (Geometry.normalizeRect_gives hx hy hw hh range) fun rect _ => ?_
  exact .ite (fun _ => .pure trivial) fun _ => .pure trivial

theorem planDrawRect_gives (within : ∀ n ∈ [x, y, w, h], n.IsWithin k) (range : k ≤ 1022) :
    Gives (fun _ => True) (planDrawRect x y w h ink) := by
  have ⟨hx, hy, hw, hh⟩ : x.IsWithin k ∧ y.IsWithin k ∧ w.IsWithin k ∧ h.IsWithin k := by
    simpa using within
  refine .bind (Geometry.allFinite_gives within range) fun _ _ => .ite ?_ fun _ =>
    .pure trivial
  refine fun _ => .ite (fun _ => .pure trivial) fun _ => ?_
  exact .bind (Geometry.normalizeRect_gives hx hy hw hh range) fun rect _ => .pure trivial

theorem planLine_gives {start stop : Point Number}
    (within : ∀ p ∈ [start, stop], p.IsWithin k) (range : k ≤ 1022) :
    Gives (fun _ => True) (planLine start stop ink) :=
  .bind (Geometry.pointsFinite_gives within range) fun _ _ =>
    .ite (fun _ => .pure trivial) fun _ => .pure trivial

theorem planPolygon_gives {points : List (Point Number)} (within : ∀ p ∈ points, p.IsWithin k)
    (enough : 2 ≤ points.length) (range : k ≤ 1022) (filled : Bool) :
    Gives (fun _ => True) (planPolygon filled points ink) := by
  refine .bind (Geometry.pointsFinite_gives within range).liftNumber fun _ _ =>
    .ite ?_ fun _ => .pure trivial
  exact fun _ => .ite (fun few => absurd enough (by omega)) fun _ => .pure trivial

theorem ellipseMask_gives (within : ∀ n ∈ [center.x, center.y, rx, ry], n.IsWithin k)
    (range : k ≤ 1022) : Gives (fun _ => True) (raster.ellipseMask center rx ry) := by
  have ⟨hcx, hcy, hrx, hry⟩ : center.x.IsWithin k ∧ center.y.IsWithin k ∧ rx.IsWithin k ∧
      ry.IsWithin k := by simpa using within
  refine .bind (Number.toFloat_gives hcx range) fun cx _ => ?_
  refine .bind (Number.toFloat_gives hcy range) fun cy _ => ?_
  refine .bind (Number.toFloat_gives hrx range) fun a _ => ?_
  exact .bind (Number.toFloat_gives hry range) fun b _ => .pure trivial

theorem planEllipse_gives (modest : raster.IsModest)
    (within : ∀ n ∈ [center.x, center.y, rx, ry], n.IsWithin k) (least : 13 ≤ k)
    (range : k ≤ 1022) : Gives (fun _ => True) (raster.planEllipse center rx ry) := by
  have ⟨hcx, hcy, hrx, hry⟩ : center.x.IsWithin k ∧ center.y.IsWithin k ∧ rx.IsWithin k ∧
      ry.IsWithin k := by simpa using within
  have hwidth := modest.width_isWithin least
  have hheight := modest.height_isWithin least
  have hreach :
      (Number.int (reachFactor * max raster.width raster.height : Nat)).IsWithin k := by
    refine isWithin_of_lt ?_ least
    have := modest.width
    have := modest.height
    rw [reachFactor]
    omega
  refine .bind (Geometry.allFinite_gives within range) fun _ _ => .ite ?_ fun _ =>
    .pure trivial
  refine fun _ => .ite (fun _ => .pure trivial) fun _ => ?_
  refine .bind (Geometry.offScreen_gives ⟨hcx, hcy⟩ hrx hry range) fun _ _ =>
    .ite (fun _ => .pure trivial) fun _ => ?_
  refine .bind (Geometry.nearScreen_gives ⟨hcx, hcy⟩ hrx hry hwidth hheight hreach range)
    fun _ _ => .ite ?_ fun _ =>
      .bind (ellipseMask_gives within range) fun _ _ => .pure trivial
  refine fun _ => .bind (Number.sub_gives hcx hrx range) fun left _ => ?_
  refine .bind (Number.sub_gives hcy hry range) fun top _ => ?_
  refine .bind (Number.add_gives hcx hrx range) fun right _ => ?_
  exact .bind (Number.add_gives hcy hry range) fun bottom _ => .pure trivial

theorem planFillEllipse_gives (modest : raster.IsModest)
    (within : ∀ n ∈ [center.x, center.y, rx, ry], n.IsWithin k) (least : 13 ≤ k)
    (range : k ≤ 1022) : Gives (fun _ => True) (raster.planFillEllipse center rx ry ink) := by
  refine .bind (planEllipse_gives modest within least range) fun plan _ => ?_
  cases plan with
  | nothing => exact .pure trivial
  | inBox left top right bottom => exact .pure trivial
  | masked mask => exact .pure trivial

theorem planDrawEllipse_gives (modest : raster.IsModest)
    (within : ∀ n ∈ [center.x, center.y, rx, ry], n.IsWithin k) (least : 13 ≤ k)
    (range : k ≤ 1022) : Gives (fun _ => True) (raster.planDrawEllipse center rx ry ink) := by
  refine .bind (planEllipse_gives modest within least range).liftNumber fun plan _ => ?_
  cases plan with
  | nothing => exact .pure trivial
  | inBox left top right bottom => exact .pure trivial
  | masked mask =>
      -- a screen without pixels would have no border
      have := modest.width
      have := modest.height
      refine .ite (fun empty => absurd empty (by omega)) fun _ => ?_
      exact .ite (fun empty => absurd empty (by omega)) fun _ => .pure trivial

theorem planText_gives {text : String}
    (within : ∀ n ∈ [location.x, location.y, size], n.IsWithin k) (range : k ≤ 1022) :
    Gives (fun _ => True) (planText text location ink size) := by
  refine .bind (Geometry.allFinite_gives within range) fun _ passed => .ite ?_ fun _ =>
    .pure trivial
  refine fun finite => .ite (fun _ => .pure trivial) fun _ => ?_
  exact .bind (Number.round_gives (passed finite size (by simp))) fun height _ =>
    .pure trivial

/-- **The raster surface has a plan for every regular primitive** whose numbers
are within range. -/
theorem plan_gives (modest : raster.IsModest) {p : Primitive}
    (within : ∀ n ∈ p.numbers, n.IsWithin k) (regular : p.IsRegular) (least : 13 ≤ k)
    (range : k ≤ 1022) : Gives (fun _ => True) (raster.plan p) := by
  cases p with
  | fillRect x y w h color => exact (planFillRect_gives within range).liftNumber
  | drawRect x y w h color => exact (planDrawRect_gives within range).liftNumber
  | drawLine start stop color =>
      have points : ∀ p ∈ [start, stop], p.IsWithin k :=
        Geometry.forall_coordinates_iff.mp within
      exact (planLine_gives points range).liftNumber
  | fillPolygon points color =>
      exact planPolygon_gives (Geometry.forall_coordinates_iff.mp within) regular range true
  | drawPolygon points color =>
      exact planPolygon_gives (Geometry.forall_coordinates_iff.mp within) regular range false
  | fillEllipse center rx ry color =>
      exact (planFillEllipse_gives modest within least range).liftNumber
  | drawEllipse center rx ry color => exact planDrawEllipse_gives modest within least range
  | drawText text location color size => exact (planText_gives within range).liftNumber

/-- What is planned is drawn without a fault. -/
theorem draw_fault {p : Primitive} (h : Gives (fun _ => True) (raster.plan p))
    (screen : Screen) : (raster.draw p screen).2 = none := by
  obtain ⟨request, planned, -⟩ := h
  rw [draw, planned]
  cases request <;> rfl

end Raster

/-! ## The drawing surface -/

namespace Drawing

variable {height x y w h rx ry r : Number} {center : Point Number}
  {points : List (Point Number)} {k : Nat}

theorem flip_gives (hheight : height.IsWithin k) (range : k + 1 ≤ 1022) {p : Point Number}
    (hp : p.IsWithin k) : Gives (fun _ => True) (flip height p) := by
  refine .bind (Number.sub_gives hheight hp.2 (by omega)) fun up hup => ?_
  refine .bind (Number.toFloat_gives hp.1 (by omega)) fun x _ => ?_
  exact .bind (Number.toFloat_gives hup range) fun y _ => .pure trivial

theorem flipAll_gives (hheight : height.IsWithin k) (range : k + 1 ≤ 1022)
    (within : ∀ p ∈ points, p.IsWithin k) : Gives (fun _ => True) (flipAll height points) :=
  (Gives.mapM fun p mem => flip_gives hheight range (within p mem)).mono fun _ _ => trivial

theorem planRect_gives (hheight : height.IsWithin k) (range : k + 2 ≤ 1022)
    (within : ∀ n ∈ [x, y, w, h], n.IsWithin k) :
    Gives (fun _ => True) (planRect height x y w h) := by
  have ⟨hx, hy, hw, hh⟩ : x.IsWithin k ∧ y.IsWithin k ∧ w.IsWithin k ∧ h.IsWithin k := by
    simpa using within
  refine .bind (Geometry.allFinite_gives within (by omega)) fun _ _ =>
    .ite (fun _ => .ite (fun _ => .pure trivial) fun _ => ?_) fun _ => .pure trivial
  refine .bind (Geometry.normalizeRect_gives hx hy hw hh (by omega)) fun rect hrect => ?_
  obtain ⟨⟨left, top⟩, right, bottom⟩ := hrect
  have corner : ∀ p ∈ corners rect, p.IsWithin (k + 1) := by
    simp only [corners, List.forall_mem_cons]
    exact ⟨⟨left, top⟩, ⟨right, top⟩, ⟨right, bottom⟩, ⟨left, bottom⟩, List.forall_mem_nil _⟩
  exact .bind (flipAll_gives (hheight.mono (by omega)) range corner) fun _ _ => .pure trivial

theorem planPolygon_gives (hheight : height.IsWithin k) (range : k + 1 ≤ 1022)
    (within : ∀ p ∈ points, p.IsWithin k) :
    Gives (fun _ => True) (planPolygon height points) := by
  refine .bind (Geometry.pointsFinite_gives within (by omega)) fun _ _ =>
    .ite ?_ fun _ => .pure trivial
  exact fun _ => .bind (flipAll_gives hheight range within) fun _ _ => .pure trivial

theorem hasArea_gives (within : ∀ n ∈ [center.x, center.y, rx, ry], n.IsWithin k)
    (range : k ≤ 1022) : Gives (fun _ => True) (hasArea center rx ry) :=
  .bind (Geometry.allFinite_gives within range) fun _ _ =>
    .ite (fun _ => .pure trivial) fun _ => .pure trivial

/-- The corners of an ellipse are floats. -/
theorem ellipseCorner_gives (within : ∀ n ∈ [center.x, center.y, rx, ry], n.IsWithin k)
    (range : k ≤ 1022) (i : Nat) :
    Gives (Point.IsWithin k) (ellipseCorner center rx ry i) := by
  have ⟨hcx, hcy, hrx, hry⟩ : center.x.IsWithin k ∧ center.y.IsWithin k ∧ rx.IsWithin k ∧
      ry.IsWithin k := by simpa using within
  have offset : ∀ {r : Number} {f : Float}, r.IsWithin k →
      Gives Number.IsFloat (r.mul (.float f)) :=
    fun hr => Number.mul_gives_float hr trivial range (Or.inr trivial)
  have along : ∀ {c d : Number}, c.IsWithin k → d.IsFloat → Gives Number.IsFloat (c.add d) :=
    fun hc hd => Number.add_gives_float hc (hd.isWithin k) range (Or.inr hd)
  refine .bind (offset hrx) fun dx hdx => .bind (along hcx hdx) fun x hx => ?_
  refine .bind (offset hry) fun dy hdy => .bind (along hcy hdy) fun y hy => ?_
  exact .pure ⟨hx.isWithin k, hy.isWithin k⟩

/-- The outline of a circle. -/
theorem ellipseShape_gives (hheight : height.IsWithin k) (range : k + 1 ≤ 1022)
    (hcenter : center.IsWithin k) (hr : r.IsWithin k) :
    Gives (fun _ => True) (ellipseShape height center r r) := by
  refine .bind (flip_gives hheight range hcenter) fun middle _ => ?_
  have float := Number.toFloat_gives hr (by omega)
  cases r with
  | int n =>
      -- an integer is equal to itself, so this is a circle
      have same : (Number.int n).eq (.int n) = true := by
        have compared : compare n n = .eq := Int.compare_eq_eq.mpr rfl
        show (some (compare n n) == some .eq) = true
        rw [compared]
        rfl
      rw [if_pos same]
      exact .bind float fun radius _ => .pure trivial
  | float x =>
      have ratio := @Number.divide_gives (.float x) (.float x) 0 trivial trivial (by decide)
      refine .ite (fun _ => .bind float fun _ _ => .pure trivial) fun _ =>
        .ite (fun _ => ?_) fun _ => ?_
      · refine .bind ratio fun q hq => ?_
        refine .bind (Number.toFloat_gives (hq.isWithin 0) (by decide)) fun q _ => ?_
        exact .bind float fun axis _ => .pure trivial
      · refine .bind ratio fun q hq => ?_
        refine .bind (Number.toFloat_gives (hq.isWithin 0) (by decide)) fun q _ => ?_
        exact .bind float fun axis _ => .pure trivial

/-- **The drawing surface has a plan for every regular primitive** whose numbers
are within range. -/
theorem plan_gives (hheight : height.IsWithin k) (range : k + 2 ≤ 1022) {p : Primitive}
    (within : ∀ n ∈ p.numbers, n.IsWithin k) (regular : p.IsRegular) :
    Gives (fun _ => True) (plan height p) := by
  cases p with
  | fillRect x y w h color =>
      exact .bind (planRect_gives hheight range within) fun corners _ => .pure trivial
  | drawRect x y w h color =>
      exact .bind (planRect_gives hheight range within) fun corners _ => .pure trivial
  | drawLine start stop color =>
      have points : ∀ p ∈ [start, stop], p.IsWithin k :=
        Geometry.forall_coordinates_iff.mp within
      refine .bind (Geometry.pointsFinite_gives points (by omega)) fun _ _ =>
        .ite (fun _ => ?_) fun _ => .pure trivial
      refine .bind (flip_gives hheight (by omega) (points start (by simp))) fun a _ => ?_
      exact .bind (flip_gives hheight (by omega) (points stop (by simp))) fun b _ =>
        .pure trivial
  | fillPolygon points color =>
      refine .bind (planPolygon_gives hheight (by omega) ?_) fun corners _ => .pure trivial
      exact Geometry.forall_coordinates_iff.mp within
  | drawPolygon points color =>
      refine .bind (planPolygon_gives hheight (by omega) ?_) fun corners _ => .pure trivial
      exact Geometry.forall_coordinates_iff.mp within
  | fillEllipse center rx ry color =>
      refine .bind (hasArea_gives within (by omega)) fun _ _ =>
        .ite (fun _ => ?_) fun _ => .pure trivial
      refine .bind (Gives.mapM fun i _ => ellipseCorner_gives within (by omega) i)
        fun points hpoints => ?_
      exact .bind (flipAll_gives hheight (by omega) hpoints) fun flipped _ => .pure trivial
  | drawEllipse center rx ry color =>
      obtain rfl : rx = ry := regular
      have ⟨hcx, hcy, hrx⟩ : center.x.IsWithin k ∧ center.y.IsWithin k ∧ rx.IsWithin k := by
        simpa [Primitive.numbers] using within
      refine .bind (hasArea_gives within (by omega)) fun _ _ =>
        .ite (fun _ => ?_) fun _ => .pure trivial
      exact .bind (ellipseShape_gives hheight (by omega) ⟨hcx, hcy⟩ hrx) fun shape _ =>
        .pure trivial
  | drawText text location color size =>
      have ⟨hx, hy, hsize⟩ : location.x.IsWithin k ∧ location.y.IsWithin k ∧
          size.IsWithin k := by
        simpa [Primitive.numbers] using within
      refine .bind (Geometry.allFinite_gives within (by omega)) fun _ _ =>
        .ite (fun _ => .ite (fun _ => .pure trivial) fun _ => ?_) fun _ => .pure trivial
      refine .bind (Number.toFloat_gives hsize (by omega)) fun glyphs _ => ?_
      exact .bind (flip_gives hheight (by omega) ⟨hx, hy⟩) fun place _ => .pure trivial

theorem draw_fault {p : Primitive} (h : Gives (fun _ => True) (plan height p))
    (entities : Array Entity) : (draw height p entities).2 = none := by
  obtain ⟨entity, planned, -⟩ := h
  rw [draw, planned]
  cases entity <;> rfl

end Drawing

/-! ## The style of texts -/

/-- A style whose cursor and size are within range. -/
structure TextStyle.IsWithin (bits : Nat) (style : TextStyle) : Prop where
  cursor : style.cursorX.IsWithin bits ∧ style.cursorY.IsWithin bits
  size : style.size.IsWithin bits

namespace TextStyle

variable {style : TextStyle} {k : Nat}

theorem start_isWithin (k : Nat) (positive : 0 < k) : start.IsWithin k :=
  ⟨⟨Nat.two_pow_pos k, Nat.two_pow_pos k⟩, Nat.one_lt_two_pow (by omega)⟩

/-- Glyphs have three bits more than their size. -/
theorem fontSize_isWithin (h : style.IsWithin k) : style.fontSize.IsWithin (k + 3) := by
  have size := h.size
  unfold fontSize
  cases value : style.size with
  | int n =>
      rw [value] at size
      show ((baseHeight : Int) * n).natAbs < 2 ^ (k + 3)
      have below : n.natAbs < 2 ^ k := size
      rw [baseHeight, Nat.pow_add]
      omega
  | float x => trivial

/-- The size of texts stays within range. -/
theorem setSize_isWithin (h : style.IsWithin k) {size : Number} (hsize : size.IsWithin k)
    (least : 4 ≤ k) : (style.setSize size).IsWithin k := by
  have small : ∀ n : Int, n.natAbs < 2 ^ 4 → (Number.int n).IsWithin k := by
    intro n below
    have four : (Number.int n).IsWithin 4 := below
    exact four.mono least
  exact ⟨h.cursor, (small 1 (by decide)).max ((small 10 (by decide)).min hsize)⟩

/-- A cursor that moves down is at a float. -/
theorem advanceLine_gives (h : style.IsWithin k) (range : k + 3 ≤ 1022) :
    Gives (IsWithin k) style.advanceLine := by
  have distance : Gives Number.IsFloat (style.fontSize.mul (.float 1.5)) :=
    Number.mul_gives_float (fontSize_isWithin h) trivial range (Or.inr trivial)
  refine .bind distance fun d hd => ?_
  refine .bind (Number.add_gives_float h.cursor.2 (hd.isWithin k) (by omega) (Or.inr hd))
    fun y hy => ?_
  exact .pure ⟨⟨h.cursor.1, hy.isWithin k⟩, h.size⟩

end TextStyle

namespace Machine

variable {σ : Type} {surface : Surface σ} {machine : Machine σ} {k : Nat}

/-- **An action keeps the style within range**, if its numbers are. -/
theorem perform_style_isWithin (h : machine.context.style.IsWithin k) {action : Action}
    (within : ∀ n ∈ action.numbers, n.IsWithin k) (least : 4 ≤ k) (range : k + 3 ≤ 1022) :
    (perform surface machine action).1.context.style.IsWithin k := by
  obtain ⟨failed, done⟩ := perform_context surface machine action
  by_cases fault : (perform surface machine action).2 = none
  · obtain ⟨style, restyled, same⟩ := done fault
    rw [same]
    cases action with
    | draw shape =>
        cases restyled
        exact h
    | write text location =>
        cases restyled
        exact h
    | writeLine text =>
        obtain ⟨moved, eq, hmoved⟩ := TextStyle.advanceLine_gives h range
        cases eq.symm.trans restyled
        exact hmoved
    | setColor color =>
        cases restyled
        exact ⟨h.cursor, h.size⟩
    | setSize size =>
        cases restyled
        exact TextStyle.setSize_isWithin h (within size (by simp [Action.numbers])) least
    | setCursor x y =>
        cases restyled
        exact ⟨⟨within x (by simp [Action.numbers]), within y (by simp [Action.numbers])⟩,
          h.size⟩
  · rw [failed fault]
    exact h

theorem step_style_isWithin (h : machine.context.style.IsWithin k) {statement : Statement}
    (within : ∀ n ∈ (machine.action? statement).elim [] Action.numbers, n.IsWithin k)
    (least : 4 ≤ k) (range : k + 3 ≤ 1022) (line : Nat) :
    (machine.step surface line statement).context.style.IsWithin k := by
  have executed : (execute surface machine statement).1.context.style.IsWithin k := by
    cases statement with
    | declaration kind name expression =>
        simp only [execute, declare]
        split
        · exact h
        · exact h
    | call name arguments =>
        rw [action?] at within
        rw [execute]
        cases read : Argument.readAll machine.context.scope.lookup arguments with
        | error fault => exact h
        | ok values =>
            rw [read] at within
            simp only [callCommand]
            cases called : actionOf name (values.map Argument.toValue) with
            | error fault => exact h
            | ok action =>
                refine perform_style_isWithin h ?_ least range
                simpa [called, Except.toOption] using within
  unfold step
  rcases outcome : execute surface machine statement with ⟨after, _ | fault⟩
  · rw [outcome] at executed
    exact executed
  · rw [outcome] at executed
    exact executed

/-- **What a statement draws is regular and within range**, if the numbers that
reach its command are. -/
theorem primitive?_isWithin (h : machine.context.style.IsWithin k) {statement : Statement}
    (within : ∀ n ∈ (machine.action? statement).elim [] Action.numbers, n.IsWithin k)
    (hwidth : surface.width.IsWithin k) (hheight : surface.height.IsWithin k)
    (range : k + 3 ≤ 1022) {p : Primitive}
    (drawn : machine.primitive? surface statement = some p) :
    (∀ n ∈ p.numbers, n.IsWithin (k + 3)) ∧ p.IsRegular := by
  obtain ⟨action, called, drawn⟩ := Option.bind_eq_some_iff.mp drawn
  rw [called, Option.elim_some] at within
  have wider : ∀ {n : Number}, n.IsWithin k → n.IsWithin (k + 3) :=
    fun hn => hn.mono (by omega)
  have size := TextStyle.fontSize_isWithin h
  have text : ∀ {location : Point Number}, location.IsWithin k →
      ∀ n ∈ [location.x, location.y, machine.context.style.fontSize], n.IsWithin (k + 3) := by
    intro location hlocation
    simp only [List.forall_mem_cons]
    exact ⟨wider hlocation.1, wider hlocation.2, size, List.forall_mem_nil _⟩
  cases action with
  | draw shape =>
      obtain ⟨numbers, regular⟩ := Shape.primitive?_isWithin hwidth hheight (by omega) within
        (action?_isRegular called) (Action.primitive?_draw_eq_some_iff.mp drawn)
      exact ⟨fun n mem => (numbers n mem).mono (by omega), regular⟩
  | write text' location =>
      cases drawn
      exact ⟨text ⟨within _ (by simp [Action.numbers]), within _ (by simp [Action.numbers])⟩,
        trivial⟩
  | writeLine text' =>
      cases drawn
      exact ⟨text h.cursor, trivial⟩
  | setColor color => cases drawn
  | setSize size => cases drawn
  | setCursor x y => cases drawn

end Machine

/-! ## One sketch on two surfaces -/

namespace Sketch

variable {raster : Raster}

/-- Neither surface refuses what is regular and within range. -/
theorem draw_agree (modest : raster.IsModest) {p : Primitive}
    (within : ∀ n ∈ p.numbers, n.IsWithin 1003) (regular : p.IsRegular) (screen : Screen)
    (entities : Array Entity) :
    Outcome.Agree (fun _ _ => True) (raster.surface.draw p screen)
      ((Drawing.surface raster.widthNumber raster.heightNumber).draw p entities) := by
  have height : raster.heightNumber.IsWithin 1003 := modest.height_isWithin (by decide)
  refine ⟨?_, trivial⟩
  show (raster.draw p screen).2 = (Drawing.draw raster.heightNumber p entities).2
  rw [Raster.draw_fault (Raster.plan_gives modest within regular (by decide) (by decide)),
    Drawing.draw_fault (Drawing.plan_gives height (by decide) within regular)]

/-- **The same statements on both surfaces lead to the same context.** -/
theorem runStatements_drawing_context_eq (modest : raster.IsModest) {a : Machine Screen}
    {b : Machine (Array Entity)} (same : a.context = b.context)
    (style : a.context.style.IsWithin 1000) {statements : List (Nat × Statement)}
    (within : ∀ n ∈ numbers raster.surface a statements, n.IsWithin 1000) :
    (runStatements (Drawing.surface raster.widthNumber raster.heightNumber) b
      statements).context
      = (runStatements raster.surface a statements).context := by
  have width : raster.widthNumber.IsWithin 1000 := modest.width_isWithin (by decide)
  have height : raster.heightNumber.IsWithin 1000 := modest.height_isWithin (by decide)
  induction statements generalizing a b with
  | nil => exact same.symm
  | cons head rest ih =>
      obtain ⟨line, statement⟩ := head
      rw [numbers, List.forall_mem_append] at within
      obtain ⟨here, later⟩ := within
      have start : Machine.Matches (fun _ _ => True) a b :=
        ⟨by rw [same], by rw [same], trivial⟩
      have square := @Machine.execute_agree _ _ _ raster.surface
        (Drawing.surface raster.widthNumber raster.heightNumber) _ _ rfl rfl start statement
        fun p drawn => by
          obtain ⟨numbers, regular⟩ :=
            Machine.primitive?_isWithin style here width height (by decide) drawn
          exact draw_agree modest numbers regular _ _
      exact ih (Machine.step_context_eq same square line)
        (Machine.step_style_isWithin style here (by decide) (by decide) line) later

/-- A drawing is cleared without a fault. -/
theorem clear_drawing_fault (modest : raster.IsModest) (entities : Array Entity) :
    ((Drawing.surface raster.widthNumber raster.heightNumber).clear entities).2 = none := by
  have width : raster.widthNumber.IsWithin 1000 := modest.width_isWithin (by decide)
  have height : raster.heightNumber.IsWithin 1000 := modest.height_isWithin (by decide)
  obtain ⟨within, regular⟩ := @Shape.primitive?_isWithin
    raster.widthNumber raster.heightNumber (.screen .black) _ 1000 width height (by decide)
    (List.forall_mem_nil _) trivial rfl
  exact Drawing.draw_fault
    (Drawing.plan_gives (height.mono (by decide)) (by decide) within regular) entities

/-- A sketch whose numbers are within range runs on a screen, and in every drawing to the same
context. -/
theorem exists_run_drawing (modest : raster.IsModest) {source : String} {screen : Screen}
    (within : ∀ n ∈ numbersOf raster.surface raster.widthNumber raster.heightNumber
      source screen, n.IsWithin 1000) :
    ∃ onScreen, run raster.surface raster.widthNumber raster.heightNumber source screen
      = .ok onScreen ∧
      ∀ entities, ∃ inDrawing,
        run (Drawing.surface raster.widthNumber raster.heightNumber) raster.widthNumber
          raster.heightNumber source entities = .ok inDrawing ∧
        inDrawing.context = onScreen.context := by
  have short : Number.IsShort raster.width ∧ Number.IsShort raster.height := by
    have := modest.width
    have := modest.height
    exact ⟨Number.isShort_of_natAbs_lt (by omega), Number.isShort_of_natAbs_lt (by omega)⟩
  have loaded := Source.substitute_int short.1 short.2 source
  change Source.substitute raster.widthNumber raster.heightNumber source = _ at loaded
  rw [numbersOf, load_of_substitute loaded] at within
  refine ⟨_, run_of_load (load_of_substitute loaded screen), fun entities => ?_⟩
  refine ⟨_, run_of_load (load_of_substitute loaded entities), ?_⟩
  exact runStatements_drawing_context_eq modest rfl
    (TextStyle.start_isWithin 1000 (by decide)) within

/-- **Screens and drawings give the same reports.**  Take any sketch and any size with sides
from 1 to 1920, such that every number that reaches a command in the run on a screen is a
float or an integer of magnitude below `2 ^ 1000`.  The sketch runs on a screen and in a
drawing of that size, whatever is on them, and both runs end in the same context: with the
same variables, the same cursor and style, and the same reports.  So does the run in a new
drawing that is cleared first, which is what gets exported. -/
theorem run_drawing_context_eq (width height : Nat) (hwidth : 1 ≤ width ∧ width ≤ 1920)
    (hheight : 1 ≤ height ∧ height ≤ 1920) (source : String) (screen : Screen)
    (entities : Array Entity)
    (within : ∀ n ∈ numbersOf (Raster.mk width height).surface (.int width) (.int height)
      source screen, n.IsWithin 1000) :
    ∃ onScreen inDrawing exported,
      run (Raster.mk width height).surface (.int width) (.int height) source screen
        = .ok onScreen ∧
      run (Drawing.surface (.int width) (.int height)) (.int width) (.int height) source
        entities = .ok inDrawing ∧
      onDrawing (.int width) (.int height) source = .ok exported ∧
      inDrawing.context = onScreen.context ∧ exported.context = onScreen.context := by
  have modest : (Raster.mk width height).IsModest := ⟨hwidth, hheight⟩
  obtain ⟨onScreen, ran, drawn⟩ := exists_run_drawing modest within
  obtain ⟨inDrawing, ranInDrawing, same⟩ := drawn entities
  have clear := clear_drawing_fault modest #[]
  rcases cleared : (Drawing.surface (.int width) (.int height)).clear #[] with ⟨empty, fault⟩
  have fault : fault = none := by
    rw [← clear]
    exact (congrArg Prod.snd cleared).symm
  obtain ⟨exported, ranExported, same'⟩ := drawn empty
  refine ⟨onScreen, inDrawing, exported, ran, ranInDrawing, ?_, same, same'⟩
  rw [onDrawing, render, cleared, fault]
  exact congrArg Fault.liftNumber ranExported

/-- A text at the cursor, and a circle that both surfaces refuse. -/
theorem run_drawing_context_eq_negative_radius :
    let raster : Raster := ⟨24, 32⟩
    let source := "tft.println(\"hi\");\ntft.fillCircle(1, WIDTH, -3, 0);"
    let screen := Screen.blank raster .black
    (1 ≤ raster.width ∧ raster.width ≤ 1920) ∧ (1 ≤ raster.height ∧ raster.height ≤ 1920) ∧
      numbersOf raster.surface (.int 24) (.int 32) source screen
        = [.int 1, .int 24, .int (-3)] ∧
      (∀ n ∈ numbersOf raster.surface (.int 24) (.int 32) source screen, n.IsWithin 1000) ∧
      ∃ onScreen inDrawing exported,
        run raster.surface (.int 24) (.int 32) source screen = .ok onScreen ∧
        run (Drawing.surface (.int 24) (.int 32)) (.int 24) (.int 32) source #[]
          = .ok inDrawing ∧
        onDrawing (.int 24) (.int 32) source = .ok exported ∧
        inDrawing.context = onScreen.context ∧ exported.context = onScreen.context ∧
        onScreen.context.diagnostics.map Diagnostic.line = [2] := by
  intro raster source screen
  have reached : numbersOf raster.surface (.int 24) (.int 32) source screen
      = [.int 1, .int 24, .int (-3)] := by decide +kernel
  have within : ∀ n ∈ numbersOf raster.surface (.int 24) (.int 32) source screen,
      n.IsWithin 1000 := by
    rw [reached]
    decide +kernel
  obtain ⟨onScreen, inDrawing, exported, ran, ranInDrawing, ranExported, same, same'⟩ :=
    run_drawing_context_eq 24 32 (by decide) (by decide) source screen #[] within
  have lines : (run raster.surface (.int 24) (.int 32) source screen).map
      (fun m => m.context.diagnostics.map Diagnostic.line) = .ok [2] := by decide +kernel
  change run raster.surface (.int 24) (.int 32) source screen = .ok onScreen at ran
  rw [ran] at lines
  exact ⟨by decide, by decide, reached, within, onScreen, inDrawing, exported, ran,
    ranInDrawing, ranExported, same, same', Except.ok.inj lines⟩

end Sketch

end SketchScreen
