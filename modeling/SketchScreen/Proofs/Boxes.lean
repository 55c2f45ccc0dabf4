import SketchScreen.Proofs.Rectangles

/-!
# Boxes for the Painter

A painter refuses a box whose corners are in the wrong order, and cannot count beyond some
range.  The boxes that it is asked for with integers are never of that kind: corners stay in
order and in range, also where they are clamped.  An ellipse that reaches far beyond the
screen is not put into a box at all, so clamping never changes the form of an ellipse.

## Main Definitions

- `Request.box?`, `Request.ink`: the box and the ink of a request.
- `Rect.IsPaintable`, `Request.IsAccepted`: boxes and requests that no painter refuses.
- `Screen.Asked`: the request that has been made since.
- `Rect.around`: the box around an ellipse.
- `Raster.Misses`, `Raster.Reaches`: boxes beside a screen, and boxes that stay near it.

## Design Notes

Sums and differences of integers are exact, so the tests of a plan are tests of a box of
integers (`offScreen_int`, `nearScreen_int`).  A box that stays near the screen is far within
the range to which coordinates are clamped.
-/

namespace SketchScreen

/-! ## Colours -/

namespace Color

/-- Expanding sixteen bits fills the range of the channels. -/
theorem isShown_ofRgb565 (value : Int) : (ofRgb565 value).IsShown := by
  have five : ∀ field < 0x20, 0 ≤ expandField 31 field ∧ expandField 31 field ≤ 255 := by
    decide
  have six : ∀ field < 0x40, 0 ≤ expandField 63 field ∧ expandField 63 field ≤ 255 := by
    decide
  simp only [IsShown, ofRgb565, List.forall_mem_cons]
  exact ⟨five _ (Nat.mod_lt _ (by decide)), six _ (Nat.mod_lt _ (by decide)),
    five _ (Nat.mod_lt _ (by decide)), List.forall_mem_nil _⟩

theorem isShown_ofNumber (n : Number) : (ofNumber n).IsShown := by
  rw [ofNumber]
  split <;> exact isShown_ofRgb565 _

theorem isShown_white : white.IsShown := by decide

end Color

/-- **Whatever is given as a colour, pixels can have it.** -/
theorem Value.isShown_toColor (value : Value) : value.toColor.IsShown := by
  cases value with
  | number n => exact Color.isShown_ofNumber n
  | text s =>
      rw [toColor, colorOfText]
      split
      · exact Color.isShown_ofRgb565 _
      · split
        · split
          · exact Color.isShown_ofRgb565 _
          · exact Color.isShown_white
        · exact Color.isShown_white
  | _ => exact Color.isShown_white

/-! ## Requests -/

namespace Request

/-- The box of a rectangle or an ellipse. -/
def box? : Request → Option (Rect Int)
  | fillBox left top right bottom _ | outlineBox left top right bottom _
  | fillEllipse left top right bottom _ | outlineEllipse left top right bottom _ =>
    some ⟨left, top, right, bottom⟩
  | _ => none

/-- Whether an ellipse is asked for. -/
def isEllipse : Request → Bool
  | fillEllipse _ _ _ _ _ | outlineEllipse _ _ _ _ _ => true
  | _ => false

/-- The ink of a request. -/
def ink : Request → Color
  | fillBox _ _ _ _ ink | outlineBox _ _ _ _ ink | line _ _ _ _ ink | fillPolygon _ ink
  | outlinePolygon _ ink | fillEllipse _ _ _ _ ink | outlineEllipse _ _ _ _ ink
  | text _ _ _ _ ink | paint _ ink => ink

end Request

/-- A box that no painter refuses: its corners are in order and in range. -/
structure Rect.IsPaintable (box : Rect Int) : Prop where
  columns : box.left ≤ box.right
  rows : box.top ≤ box.bottom
  range : ∀ v ∈ [box.left, box.top, box.right, box.bottom], -2 ^ 20 ≤ v ∧ v ≤ 2 ^ 20

theorem Rect.isPaintable {left top right bottom : Int}
    (columns : -2 ^ 20 ≤ left ∧ left ≤ right ∧ right ≤ 2 ^ 20)
    (rows : -2 ^ 20 ≤ top ∧ top ≤ bottom ∧ bottom ≤ 2 ^ 20) :
    (Rect.mk left top right bottom).IsPaintable where
  columns := columns.2.1
  rows := rows.2.1
  range := by
    simp only [List.forall_mem_cons, List.not_mem_nil, false_imp_iff, implies_true, and_true]
    omega

/-- A request that no painter refuses: so is its box, and pixels can have its ink. -/
structure Request.IsAccepted (r : Request) : Prop where
  box : ∀ box ∈ r.box?, box.IsPaintable
  ink : r.ink.IsShown

/-- The request that has been made since, if any. -/
def Screen.Asked (before : Screen) (asked : Option Request) (after : Screen) : Prop :=
  after.requests = before.requests ++ asked.toArray

theorem Raster.asked_of_plan {raster : Raster} {p : Primitive} {asked : Option Request}
    (h : raster.plan p = .ok asked) (screen : Screen) :
    screen.Asked asked (raster.surface.draw p screen).1 := by
  show (raster.draw p screen).1.requests = _
  rw [draw, h]
  cases asked with
  | none => exact (Array.append_empty).symm
  | some r => exact Array.push_eq_append

/-! ## Rectangles -/

namespace Raster

variable {raster : Raster} {x y w h : Int} {k : Nat} {ink : Color}

theorem nearestPixel_mem_range (v : Int) :
    -2 ^ 20 ≤ nearestPixel (.int v) ∧ nearestPixel (.int v) ≤ 2 ^ 20 := by
  rw [nearestPixel_int, coordinateLimit]
  omega

theorem nearestPixel_of_mem_range {v : Int} (range : -2 ^ 20 ≤ v ∧ v ≤ 2 ^ 20) :
    nearestPixel (.int v) = v := by
  rw [nearestPixel_int, coordinateLimit]
  omega

/-- The box of a filled rectangle is accepted, and it is asked for where the
rectangle shows. -/
theorem exists_plan_fillRect (modest : raster.IsModest)
    (within : ∀ n ∈ [x, y, w, h], (Number.int n).IsWithin k) (range : k ≤ 1022)
    (shown : ink.IsShown) :
    ∃ asked, raster.plan (.fillRect (.int x) (.int y) (.int w) (.int h) ink) = .ok asked ∧
      (∀ r ∈ asked, r.IsAccepted) ∧
      ((∃ i j : Nat, i < raster.width ∧ j < raster.height ∧
        (Rect.ofSides x y w h).HoldsCell i j) →
        asked.isSome) := by
  obtain ⟨left, top, right, bottom, planned, columns, rows, same⟩ :=
    exists_box_fillRect modest within range ink
  have width := modest.width
  have height := modest.height
  refine ⟨_, planned, ?_, ?_⟩
  · intro r mem
    obtain ⟨nonempty, ⟨⟩⟩ := Option.ite_none_left_eq_some.mp mem
    refine ⟨?_, shown⟩
    rintro _ ⟨⟩
    exact Rect.isPaintable (by omega) (by omega)
  · rintro ⟨i, j, hi, hj, holds⟩
    rw [same i j hi hj] at holds
    rw [if_neg (by omega)]
    rfl

/-- The box of an outlined rectangle. -/
theorem planDrawRect_int (within : ∀ n ∈ [x, y, w, h], (Number.int n).IsWithin k)
    (range : k ≤ 1022) (ink : Color) :
    planDrawRect (.int x) (.int y) (.int w) (.int h) ink =
      let rect := Rect.ofSides x y w h
      let left := nearestPixel (.int rect.left)
      let top := nearestPixel (.int rect.top)
      let right := max (nearestPixel (.int rect.right) - 1) left
      let bottom := max (nearestPixel (.int rect.bottom) - 1) top
      .ok (if w = 0 ∨ h = 0 then none else some (.outlineBox left top right bottom ink)) := by
  have finite : Geometry.allFinite [.int x, .int y, .int w, .int h] = .ok true :=
    Geometry.allFinite_int within range
  have empty : ((Number.int w).isZero || (Number.int h).isZero) = true ↔ w = 0 ∨ h = 0 := by
    rw [Bool.or_eq_true, Number.isZero_int_iff, Number.isZero_int_iff]
  rw [planDrawRect, finite, Geometry.normalizeRect_int]
  simp only [bind, Except.bind, if_true, empty]
  split <;> rfl

/-- The box of an outlined rectangle is accepted, and asked for unless the
rectangle is empty. -/
theorem exists_plan_drawRect (within : ∀ n ∈ [x, y, w, h], (Number.int n).IsWithin k)
    (range : k ≤ 1022) (shown : ink.IsShown) :
    ∃ asked, raster.plan (.drawRect (.int x) (.int y) (.int w) (.int h) ink) = .ok asked ∧
      (∀ r ∈ asked, r.IsAccepted) ∧ (w ≠ 0 → h ≠ 0 → asked.isSome) := by
  refine ⟨_, congrArg Fault.liftNumber (planDrawRect_int within range ink), ?_,
    fun hw hh => ?_⟩
  · intro r mem
    obtain ⟨-, ⟨⟩⟩ := Option.ite_none_left_eq_some.mp mem
    refine ⟨?_, shown⟩
    rintro _ ⟨⟩
    have left := nearestPixel_mem_range (Rect.ofSides x y w h).left
    have top := nearestPixel_mem_range (Rect.ofSides x y w h).top
    have right := nearestPixel_mem_range (Rect.ofSides x y w h).right
    have bottom := nearestPixel_mem_range (Rect.ofSides x y w h).bottom
    exact Rect.isPaintable ⟨left.1, le_max_right .., max_le (by omega) left.2⟩
      ⟨top.1, le_max_right .., max_le (by omega) top.2⟩
  · rw [if_neg (by omega)]
    rfl

end Raster

/-! ## Ellipses -/

/-- The box around an ellipse. -/
def Rect.around (cx cy rx ry : Int) : Rect Int := ⟨cx - rx, cy - ry, cx + rx, cy + ry⟩

namespace Raster

/-- A box that lies wholly beside the screen. -/
def Misses (raster : Raster) (box : Rect Int) : Prop :=
  box.right < 0 ∨ box.bottom < 0 ∨ raster.width < box.left ∨ raster.height < box.top

instance (raster : Raster) (box : Rect Int) : Decidable (raster.Misses box) :=
  inferInstanceAs (Decidable (_ ∨ _))

/-- How far an ellipse may reach beyond the screen and still be drawn by the painter. -/
def reach (raster : Raster) : Int := (reachFactor * max raster.width raster.height : Nat)

/-- A box that stays near the screen. -/
def Reaches (raster : Raster) (box : Rect Int) : Prop :=
  -raster.reach ≤ box.left ∧ -raster.reach ≤ box.top ∧
    box.right ≤ raster.width + raster.reach ∧
    box.bottom ≤ raster.height + raster.reach

instance (raster : Raster) (box : Rect Int) : Decidable (raster.Reaches box) :=
  inferInstanceAs (Decidable (_ ∧ _))

variable {raster : Raster} {cx cy rx ry : Int} {k : Nat} {ink : Color}

theorem offScreen_int :
    Geometry.offScreen ⟨.int cx, .int cy⟩ (.int rx) (.int ry) raster.widthNumber
      raster.heightNumber = .ok (decide (raster.Misses (.around cx cy rx ry))) := by
  refine congrArg Except.ok ?_
  rw [Bool.eq_iff_iff, decide_eq_true_eq, Bool.or_eq_true, Bool.or_eq_true, Bool.or_eq_true]
  show ((((Number.int (cx + rx)).lt (.int 0) = true ∨
    (Number.int (cy + ry)).lt (.int 0) = true) ∨
    (Number.int raster.width).lt (.int (cx - rx)) = true) ∨
    (Number.int raster.height).lt (.int (cy - ry)) = true) ↔ _
  simp only [Number.int_lt_int_iff, or_assoc]
  rfl

theorem nearScreen_int : Geometry.nearScreen ⟨.int cx, .int cy⟩ (.int rx) (.int ry)
    raster.widthNumber raster.heightNumber (.int raster.reach)
      = .ok (decide (raster.Reaches (.around cx cy rx ry))) := by
  refine congrArg Except.ok ?_
  rw [Bool.eq_iff_iff, decide_eq_true_eq, Bool.and_eq_true, Bool.and_eq_true,
    Bool.and_eq_true]
  show ((((Number.int (0 - raster.reach)).le (.int (cx - rx)) = true ∧
    (Number.int (0 - raster.reach)).le (.int (cy - ry)) = true) ∧
    (Number.int (cx + rx)).le (.int (raster.width + raster.reach)) = true) ∧
    (Number.int (cy + ry)).le (.int (raster.height + raster.reach)) = true) ↔ _
  simp only [Number.int_le_int_iff, zero_sub, and_assoc]
  rfl

/-- A box near the screen is in the range of the painter. -/
theorem IsModest.isPaintable_around (modest : raster.IsModest) (hrx : 0 < rx) (hry : 0 < ry)
    (near : raster.Reaches (.around cx cy rx ry)) :
    (Rect.around cx cy rx ry).IsPaintable := by
  have width := modest.width
  have height := modest.height
  simp only [Reaches, Rect.around, reach, reachFactor] at near
  exact Rect.isPaintable (by omega) (by omega)

/-- **How an ellipse reaches the painter**: in the box around it if in a box at all, and in
some way if it has an area and is not beside the screen. -/
theorem exists_planEllipse (modest : raster.IsModest)
    (within : ∀ n ∈ [cx, cy, rx, ry], (Number.int n).IsWithin k) (range : k ≤ 1022) :
    ∃ plan, raster.planEllipse ⟨.int cx, .int cy⟩ (.int rx) (.int ry) = .ok plan ∧
      (∀ left top right bottom, plan = .inBox left top right bottom →
        Rect.mk left top right bottom = .around cx cy rx ry ∧
          (Rect.around cx cy rx ry).IsPaintable) ∧
      (0 < rx → 0 < ry → ¬ raster.Misses (.around cx cy rx ry) → plan ≠ .nothing) := by
  have finite : Geometry.allFinite [.int cx, .int cy, .int rx, .int ry] = .ok true :=
    Geometry.allFinite_int within range
  have numbers : ∀ n ∈ [Number.int cx, .int cy, .int rx, .int ry], n.IsWithin k :=
    List.forall_mem_map.mpr within
  obtain ⟨mask, masked, -⟩ : Gives (fun _ => True)
      (raster.ellipseMask ⟨.int cx, .int cy⟩ (.int rx) (.int ry)) :=
    ellipseMask_gives numbers range
  have empty : ((Number.int rx).le 0 || (Number.int ry).le 0) = true ↔ rx ≤ 0 ∨ ry ≤ 0 := by
    rw [Bool.or_eq_true]
    exact or_congr Number.int_le_int_iff Number.int_le_int_iff
  have off := @offScreen_int raster cx cy rx ry
  have near := @nearScreen_int raster cx cy rx ry
  rw [reach] at near
  rw [planEllipse, finite]
  simp only [bind, Except.bind, if_true, empty, off, near, masked, decide_eq_true_eq]
  by_cases noArea : rx ≤ 0 ∨ ry ≤ 0
  · rw [if_pos noArea]
    exact ⟨.nothing, rfl, nofun, fun hrx hry => by omega⟩
  · rw [if_neg noArea]
    by_cases misses : raster.Misses (.around cx cy rx ry)
    · rw [if_pos misses]
      exact ⟨.nothing, rfl, nofun, fun _ _ shows => absurd misses shows⟩
    · rw [if_neg misses]
      by_cases reaches : raster.Reaches (.around cx cy rx ry)
      · rw [if_pos reaches]
        have box := modest.isPaintable_around (by omega) (by omega) reaches
        have unclamped : ∀ v ∈ [cx - rx, cy - ry, cx + rx, cy + ry],
            nearestPixel (.int v) = v :=
          fun v mem => nearestPixel_of_mem_range (box.range v mem)
        simp only [List.forall_mem_cons] at unclamped
        obtain ⟨left, top, right, bottom, -⟩ := unclamped
        refine ⟨_, rfl, ?_, fun _ _ _ => nofun⟩
        rintro _ _ _ _ ⟨⟩
        exact ⟨by rw [Rect.around, left, top, right, bottom], box⟩
      · rw [if_neg reaches]
        exact ⟨.masked mask, rfl, nofun, fun _ _ _ => nofun⟩

/-- The request that follows from a plan, as an area or as an outline. -/
def EllipsePlan.request (inBox : Int → Int → Int → Int → Color → Request)
    (masked : Mask → Mask) (ink : Color) : EllipsePlan → Option Request
  | .nothing => none
  | .inBox left top right bottom => some (inBox left top right bottom ink)
  | .masked mask => some (.paint (masked mask) ink)

namespace EllipsePlan

variable {inBox : Int → Int → Int → Int → Color → Request} {masked : Mask → Mask}
  {plan : EllipsePlan} {box : Rect Int}

theorem isSome_request (made : plan ≠ .nothing) : (plan.request inBox masked ink).isSome := by
  cases plan with
  | nothing => exact absurd rfl made
  | inBox _ _ _ _ | masked _ => rfl

theorem isAccepted_request (shown : ink.IsShown)
    (form : ∀ left top right bottom,
      (inBox left top right bottom ink).box? = some ⟨left, top, right, bottom⟩ ∧
        (inBox left top right bottom ink).ink = ink)
    (boxed : ∀ left top right bottom, plan = .inBox left top right bottom →
      Rect.mk left top right bottom = box ∧ box.IsPaintable) :
    ∀ r ∈ plan.request inBox masked ink,
      r.IsAccepted ∧ (r.isEllipse = true → r.box? = some box) := by
  cases plan with
  | nothing => nofun
  | inBox left top right bottom =>
      obtain ⟨boxOf, inkOf⟩ := form left top right bottom
      obtain ⟨rfl, paintable⟩ := boxed _ _ _ _ rfl
      rintro _ ⟨⟩
      refine ⟨⟨fun other mem => ?_, by rwa [inkOf]⟩, fun _ => boxOf⟩
      rw [boxOf] at mem
      cases mem
      exact paintable
  | masked mask =>
      rintro _ ⟨⟩
      exact ⟨⟨nofun, shown⟩, nofun⟩

end EllipsePlan

/-- An ellipse is asked for in the box around it, or as a mask. -/
theorem exists_plan_ellipse (modest : raster.IsModest)
    (within : ∀ n ∈ [cx, cy, rx, ry], (Number.int n).IsWithin k) (range : k ≤ 1022)
    (shown : ink.IsShown) :
    ∀ p ∈ [Primitive.fillEllipse ⟨.int cx, .int cy⟩ (.int rx) (.int ry) ink,
        .drawEllipse ⟨.int cx, .int cy⟩ (.int rx) (.int ry) ink],
      ∃ asked, raster.plan p = .ok asked ∧
        (∀ r ∈ asked, r.IsAccepted ∧
          (r.isEllipse = true → r.box? = some (.around cx cy rx ry))) ∧
        (0 < rx → 0 < ry → ¬ raster.Misses (.around cx cy rx ry) → asked.isSome) := by
  obtain ⟨plan, planned, boxed, made⟩ := exists_planEllipse modest within range
  have width := modest.width
  have height := modest.height
  have filled : raster.plan (.fillEllipse ⟨.int cx, .int cy⟩ (.int rx) (.int ry) ink)
      = .ok (plan.request .fillEllipse id ink) := by
    rw [Raster.plan, planFillEllipse, planned]
    cases plan <;> rfl
  have outlined : raster.plan (.drawEllipse ⟨.int cx, .int cy⟩ (.int rx) (.int ry) ink)
      = .ok (plan.request .outlineEllipse Mask.border ink) := by
    rw [Raster.plan, planDrawEllipse, planned]
    cases plan with
    | nothing | inBox _ _ _ _ => rfl
    | masked mask =>
        show (if raster.height = 0 then _ else if raster.width = 0 then _ else _) = _
        rw [if_neg (by omega), if_neg (by omega)]
        rfl
  simp only [List.forall_mem_cons]
  refine ⟨⟨_, filled, ?_, ?_⟩, ⟨_, outlined, ?_, ?_⟩, List.forall_mem_nil _⟩
  · exact EllipsePlan.isAccepted_request shown (fun _ _ _ _ => ⟨rfl, rfl⟩) boxed
  · exact fun hrx hry shows => EllipsePlan.isSome_request (made hrx hry shows)
  · exact EllipsePlan.isAccepted_request shown (fun _ _ _ _ => ⟨rfl, rfl⟩) boxed
  · exact fun hrx hry shows => EllipsePlan.isSome_request (made hrx hry shows)

/-- A circle whose radius is no integer below zero is an ellipse. -/
theorem circle?_int {r : Int} (within : (Number.int r).IsWithin k) (range : k ≤ 1022)
    (nonneg : 0 ≤ r) (filled : Bool) (center : Point Number) (ink : Color) :
    ∃ p ∈ [Primitive.fillEllipse center (.int r) (.int r) ink,
        .drawEllipse center (.int r) (.int r) ink],
      Shape.circle? filled center (.int r) ink = .ok (some p) := by
  have notLess : ¬ (Number.int r).lt (.int 0) = true := by
    rw [Number.int_lt_int_iff]
    omega
  rw [Shape.circle?, Number.isFinite_int within range]
  show ∃ p ∈ _, (if (Number.int r).lt (.int 0) = true then _ else _) = _
  rw [if_neg notLess]
  cases filled with
  | true => exact ⟨_, List.mem_cons_self, rfl⟩
  | false => exact ⟨_, List.mem_cons_of_mem _ List.mem_cons_self, rfl⟩

theorem circle?_int_of_neg {r : Int} (within : (Number.int r).IsWithin k) (range : k ≤ 1022)
    (neg : r < 0) (filled : Bool) (center : Point Number) (ink : Color) :
    ∃ fault, Shape.circle? filled center (.int r) ink = .error fault := by
  have less : (Number.int r).lt (.int 0) = true := Number.int_lt_int_iff.mpr neg
  rw [Shape.circle?, Number.isFinite_int within range]
  show ∃ fault, (if (Number.int r).lt (.int 0) = true then _ else _) = _
  rw [if_pos less]
  cases (Number.int r).write <;> exact ⟨_, rfl⟩

/-- So is a circle, unless it is refused. -/
theorem exists_asked_circle (modest : raster.IsModest) {r : Int}
    (within : ∀ n ∈ [cx, cy, r], (Number.int n).IsWithin k) (range : k ≤ 1022)
    (shown : ink.IsShown) (filled : Bool) (screen : Screen) :
    ∃ asked, screen.Asked asked
        (raster.surface.drawShape (.circle filled ⟨.int cx, .int cy⟩ (.int r) ink) screen).1 ∧
      (∀ request ∈ asked, request.IsAccepted ∧
        (request.isEllipse = true → request.box? = some (.around cx cy r r))) ∧
      (0 < r → ¬ raster.Misses (.around cx cy r r) → asked.isSome) := by
  simp only [List.forall_mem_cons] at within
  obtain ⟨hcx, hcy, hr, -⟩ := within
  rw [Surface.drawShape, Shape.primitive?]
  by_cases neg : r < 0
  · obtain ⟨fault, refused⟩ := circle?_int_of_neg hr range neg filled ⟨.int cx, .int cy⟩ ink
    rw [refused]
    exact ⟨none, Array.append_empty.symm, by simp, fun pos => by omega⟩
  · have sides : ∀ n ∈ [cx, cy, r, r], (Number.int n).IsWithin k := by simp [hcx, hcy, hr]
    have ellipse := exists_plan_ellipse modest sides range shown
    obtain ⟨p, mem, drawn⟩ := circle?_int hr range (by omega) filled ⟨.int cx, .int cy⟩ ink
    obtain ⟨asked, planned, accepted, made⟩ := ellipse p mem
    rw [drawn]
    exact ⟨asked, asked_of_plan planned screen, accepted, fun pos => made pos pos⟩

end Raster

/-! ## Calls -/

/-- A call that draws asks for what its shape asks for. -/
theorem Machine.asked_callCommand {raster : Raster} {machine : Machine Screen}
    (command : Command) {values : List Value} {arguments : Arguments command.parameters}
    {shape : Shape} {asked : Option Request} (bound : command.bind values = .ok arguments)
    (drawn : command.action arguments = .draw shape)
    (h : machine.surface.Asked asked (raster.surface.drawShape shape machine.surface).1) :
    machine.surface.Asked asked
      (machine.callCommand raster.surface command.name values).1.surface := by
  rw [callCommand_of_bind bound, drawn]
  exact h

/-- **The painter is asked for nothing that it refuses.**  Take any size with sides from 1 to
1920, any integers of magnitude below `2 ^ 1000`, and any value at all for a colour.  A call
that draws a rectangle or a circle, and a primitive that draws an ellipse, then makes one
request at most.  The corners of its box are in order and at most `2 ^ 20` in magnitude, and
the channels of its ink are between 0 and 255; and if it is for an ellipse, the box is the one
around the ellipse.  A request is made wherever there is something to be seen: for a filled
rectangle that has a cell on the screen, for the outline of a rectangle that has an area, and
for an ellipse that has an area and is not beside the screen. -/
theorem requests_accepted (raster : Raster) (hwidth : 1 ≤ raster.width ∧ raster.width ≤ 1920)
    (hheight : 1 ≤ raster.height ∧ raster.height ≤ 1920) (a b c d : Int)
    (ha : a.natAbs < 2 ^ 1000) (hb : b.natAbs < 2 ^ 1000) (hc : c.natAbs < 2 ^ 1000)
    (hd : d.natAbs < 2 ^ 1000) (color : Value) (machine : Machine Screen) :
    let number (n : Int) : Value := .number (.int n)
    let after (name : String) (values : List Value) : Screen :=
      (machine.callCommand raster.surface name values).1.surface
    (∃ asked, machine.surface.Asked asked
        (after "fillRect" [number a, number b, number c, number d, color]) ∧
      (∀ r ∈ asked, r.IsAccepted) ∧
      ((∃ i j : Nat, i < raster.width ∧ j < raster.height ∧
        (Rect.ofSides a b c d).HoldsCell i j) →
        asked.isSome)) ∧
    (∃ asked, machine.surface.Asked asked
        (after "drawRect" [number a, number b, number c, number d, color]) ∧
      (∀ r ∈ asked, r.IsAccepted) ∧ (c ≠ 0 → d ≠ 0 → asked.isSome)) ∧
    (∀ name ∈ ["fillCircle", "drawCircle"], ∃ asked,
      machine.surface.Asked asked (after name [number a, number b, number c, color]) ∧
      (∀ r ∈ asked, r.IsAccepted ∧ (r.isEllipse = true → r.box? = some (.around a b c c))) ∧
      (0 < c → ¬ raster.Misses (.around a b c c) → asked.isSome)) ∧
    (∀ p ∈ [Primitive.fillEllipse ⟨.int a, .int b⟩ (.int c) (.int d) color.toColor,
        .drawEllipse ⟨.int a, .int b⟩ (.int c) (.int d) color.toColor], ∃ asked,
      machine.surface.Asked asked (raster.surface.draw p machine.surface).1 ∧
      (∀ r ∈ asked, r.IsAccepted ∧ (r.isEllipse = true → r.box? = some (.around a b c d))) ∧
      (0 < c → 0 < d → ¬ raster.Misses (.around a b c d) → asked.isSome)) := by
  intro number after
  have modest : raster.IsModest := ⟨hwidth, hheight⟩
  have shown := color.isShown_toColor
  have within : ∀ n ∈ [a, b, c, d], (Number.int n).IsWithin 1000 := by
    simp only [List.forall_mem_cons]
    exact ⟨ha, hb, hc, hd, List.forall_mem_nil _⟩
  have round : ∀ n ∈ [a, b, c], (Number.int n).IsWithin 1000 := fun n mem =>
    within n (List.mem_of_mem_dropLast mem)
  refine ⟨?_, ?_, ?_, fun p mem => ?_⟩
  · obtain ⟨asked, planned, accepted, made⟩ :=
      Raster.exists_plan_fillRect modest within (by decide) shown
    refine ⟨asked, ?_, accepted, made⟩
    exact Machine.asked_callCommand .fillRect rfl rfl (Raster.asked_of_plan planned _)
  · obtain ⟨asked, planned, accepted, made⟩ :=
      Raster.exists_plan_drawRect within (by decide) shown
    refine ⟨asked, ?_, accepted, made⟩
    exact Machine.asked_callCommand .drawRect rfl rfl (Raster.asked_of_plan planned _)
  · have circle := fun filled =>
      Raster.exists_asked_circle modest round (by decide) shown filled machine.surface
    obtain ⟨asked, drawn, rest⟩ := circle true
    obtain ⟨asked', drawn', rest'⟩ := circle false
    simp only [List.forall_mem_cons]
    exact ⟨⟨asked, Machine.asked_callCommand .fillCircle rfl rfl drawn, rest⟩,
      ⟨asked', Machine.asked_callCommand .drawCircle rfl rfl drawn', rest'⟩,
      List.forall_mem_nil _⟩
  · obtain ⟨asked, planned, accepted, made⟩ :=
      Raster.exists_plan_ellipse modest within (by decide) shown p mem
    exact ⟨asked, Raster.asked_of_plan planned _, accepted, made⟩

/-- A circle that hangs over the right side of the screen, in what is no colour. -/
theorem requests_accepted_circle :
    let raster : Raster := ⟨10, 8⟩
    let machine : Machine Screen :=
      ⟨Context.create (.int 10) (.int 8) "", Screen.blank raster .black⟩
    let values : List Value :=
      [.number (.int 9), .number (.int 3), .number (.int 4), .list []]
    (1 ≤ raster.width ∧ raster.width ≤ 1920) ∧ (1 ≤ raster.height ∧ raster.height ≤ 1920) ∧
      ∃ r, machine.surface.Asked (some r)
          (machine.callCommand raster.surface "fillCircle" values).1.surface ∧
        r.isEllipse = true ∧ r.IsAccepted ∧ r.box? = some ⟨5, -1, 13, 7⟩ := by
  intro raster machine values
  have small : ∀ n ∈ [9, 3, 4], Int.natAbs n < 2 ^ 1000 := by decide +kernel
  obtain ⟨-, -, circles, -⟩ := requests_accepted raster (by decide) (by decide) 9 3 4 4
    (small _ (by decide)) (small _ (by decide)) (small _ (by decide)) (small _ (by decide))
    (.list []) machine
  obtain ⟨asked, drawn, accepted, made⟩ := circles "fillCircle" (by decide)
  obtain ⟨r, rfl⟩ := Option.isSome_iff_exists.mp (made (by decide) (by decide))
  have ellipse :
      (machine.callCommand raster.surface "fillCircle" values).1.surface.requests.map
      Request.isEllipse = #[true] := by decide +kernel
  rw [show (machine.callCommand raster.surface "fillCircle" values).1.surface.requests
      = _ from drawn] at ellipse
  have isEllipse : r.isEllipse = true := by simpa [machine, Screen.blank] using ellipse
  exact ⟨by decide, by decide, r, drawn, isEllipse, (accepted r rfl).1,
    (accepted r rfl).2 isEllipse⟩

end SketchScreen
