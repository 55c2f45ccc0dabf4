import SketchScreen.Number.Basic

/-!
# Geometry

Rectangles, curves and outlines in screen coordinates: the origin is the top left
corner and `y` grows downward.

## Main Definitions

- `Arithmetic`: the operations that outlines are computed with.
- `Point`: a point.
- `normalizeRect`: the corners of a rectangle whose width or height may be negative.
- `quadBezier`: a quadratic curve as a row of points.
- `roundRectPoints`: the outline of a rectangle with round corners.
- `offScreen`, `insideEllipse`: where an ellipse is.

## Design Notes

Outlines are defined for any arithmetic.  Sketches compute with numbers that are rounded, and
whose operations may fail; exact fractions obey the same definitions.
-/

namespace SketchScreen

/-- The operations that outlines are computed with.  They may fail or have other effects. -/
class Arithmetic (m : outParam (Type → Type)) (α : Type) where
  ofInt : Int → α
  add : α → α → m α
  sub : α → α → m α
  mul : α → α → m α
  div : α → α → m α
  lt : α → α → Bool
  le : α → α → Bool

instance : Arithmetic (Except NumberFault) Number where
  ofInt := Number.int
  add := Number.add
  sub := Number.sub
  mul := Number.mul
  div := Number.divide
  lt := Number.lt
  le := Number.le

instance : Arithmetic Id Float where
  ofInt n := Number.Binary.nearest (n < 0) n.natAbs 1
  add x y := x + y
  sub x y := x - y
  mul x y := x * y
  div x y := x / y
  lt x y := x < y
  le x y := x ≤ y

/-- A point. -/
structure Point (α : Type) where
  x : α
  y : α
deriving DecidableEq

/-- The corners of a rectangle, top left and bottom right. -/
structure Rect (α : Type) where
  left : α
  top : α
  right : α
  bottom : α
deriving DecidableEq

namespace Geometry

/-- The number of straight pieces of a round corner. -/
def cornerSegments : Nat := 8

section Curves

variable {m : Type → Type} {α : Type} [Monad m] [Arithmetic m α]

open Arithmetic (ofInt add sub mul div lt le)

/-- One coordinate of the point at `t` of a quadratic curve, where `u` is `1 - t`. -/
def bezierCoordinate (u t start control stop : α) : m α := do
  let first ← mul (← mul u u) start
  let middle ← mul (← mul (← mul (ofInt 2) u) t) control
  let last ← mul (← mul t t) stop
  add (← add first middle) last

/-- The point after `i` of `segments` pieces of a quadratic curve. -/
def bezierPoint (start control stop : Point α) (segments i : Nat) : m (Point α) := do
  let t ← div (ofInt i) (ofInt segments)
  let u ← sub (ofInt 1) t
  let x ← bezierCoordinate u t start.x control.x stop.x
  let y ← bezierCoordinate u t start.y control.y stop.y
  return ⟨x, y⟩

/-- The points of a quadratic curve after its start, the last of which is its end. -/
def quadBezier (start control stop : Point α) (segments : Nat) : m (List (Point α)) :=
  (List.range segments).mapM fun i => bezierPoint start control stop segments (i + 1)

/-- The closed outline of a rectangle whose corners are quadratic curves of radius `r`, from
the left end of the top edge around to the right. -/
def roundRectPoints (x y w h r : α) (segments : Nat) : m (List (Point α)) := do
  let right ← add x w
  let bottom ← add y h
  let insideLeft ← add x r
  let insideRight ← sub right r
  let insideTop ← add y r
  let insideBottom ← sub bottom r
  let topRight ← quadBezier ⟨insideRight, y⟩ ⟨right, y⟩ ⟨right, insideTop⟩ segments
  let bottomRight ←
    quadBezier ⟨right, insideBottom⟩ ⟨right, bottom⟩ ⟨insideRight, bottom⟩ segments
  let bottomLeft ← quadBezier ⟨insideLeft, bottom⟩ ⟨x, bottom⟩ ⟨x, insideBottom⟩ segments
  let topLeft ← quadBezier ⟨x, insideTop⟩ ⟨x, y⟩ ⟨insideLeft, y⟩ segments
  return [⟨insideLeft, y⟩, ⟨insideRight, y⟩] ++ topRight
    ++ [⟨right, insideBottom⟩] ++ bottomRight
    ++ [⟨insideLeft, bottom⟩] ++ bottomLeft
    ++ [⟨x, insideTop⟩] ++ topLeft.dropLast

/-- Whether the box around an ellipse lies wholly beside the screen. -/
def offScreen (center : Point α) (rx ry width height : α) : m Bool := do
  let left ← sub center.x rx
  let top ← sub center.y ry
  let right ← add center.x rx
  let bottom ← add center.y ry
  return lt right (ofInt 0) || lt bottom (ofInt 0) || lt width left || lt height top

/-- Whether the box around an ellipse stays within `reach` of the screen. -/
def nearScreen (center : Point α) (rx ry width height reach : α) : m Bool := do
  let least ← sub (ofInt 0) reach
  let left ← sub center.x rx
  let top ← sub center.y ry
  let right ← add center.x rx
  let bottom ← add center.y ry
  let farRight ← add width reach
  let farBottom ← add height reach
  return le least left && le least top && le right farRight && le bottom farBottom

/-- The square of the distance of the centre of pixel `i` from a centre, in
units of a radius. -/
def ellipseTerm (center radius : α) (i : Nat) : m α := do
  let half ← div (ofInt 1) (ofInt 2)
  let distance ← sub (← add (ofInt i) half) center
  let d ← div distance radius
  mul d d

/-- Whether the centre of the pixel in column `i` and row `j` lies in an ellipse. -/
def insideEllipse (center : Point α) (rx ry : α) (i j : Nat) : m Bool := do
  let sum ← add (← ellipseTerm center.x rx i) (← ellipseTerm center.y ry j)
  return le sum (ofInt 1)

end Curves

/-- The corners of a rectangle whose width or height may be negative. -/
def normalizeRect (x y w h : Number) : Except NumberFault (Rect Number) := do
  let x1 ← x.add w
  let y1 ← y.add h
  return ⟨x.min x1, y.min y1, x.max x1, y.max y1⟩

/-- Whether all numbers are finite; those after the first that is not are not looked at. -/
def allFinite : List Number → Except NumberFault Bool
  | [] => .ok true
  | n :: rest => do
    if ← n.isFinite then allFinite rest else return false

/-- Whether all coordinates of the points are finite. -/
def pointsFinite (points : List (Point Number)) : Except NumberFault Bool :=
  allFinite (points.flatMap fun p => [p.x, p.y])

end Geometry

end SketchScreen
