import SketchScreen.Color
import SketchScreen.Fault
import SketchScreen.Geometry
import SketchScreen.Number.Format

/-!
# Surfaces

A surface understands eight primitives; every other shape is one of them in disguise.

## Main Definitions

- `Primitive`: what a surface is asked to draw.
- `Shape`: what commands draw.
- `Shape.primitive?`: the primitive that a shape is, if it is drawn at all.
- `Surface`: a size and what a primitive does to a state.
- `Surface.drawShape`: draws a shape.
- `Surface.recording`: the surface that only keeps the primitives.

## Design Notes

A surface may change its state and still report a fault, so drawing gives both.
-/

namespace SketchScreen

/-- What a surface is asked to draw. -/
inductive Primitive where
  | fillRect (x y w h : Number) (color : Color)
  | drawRect (x y w h : Number) (color : Color)
  | drawLine (start stop : Point Number) (color : Color)
  | fillPolygon (points : List (Point Number)) (color : Color)
  | drawPolygon (points : List (Point Number)) (color : Color)
  | fillEllipse (center : Point Number) (rx ry : Number) (color : Color)
  | drawEllipse (center : Point Number) (rx ry : Number) (color : Color)
  /-- A text with its top left corner at a place, in glyphs of a height. -/
  | drawText (text : String) (location : Point Number) (color : Color) (size : Number)
deriving DecidableEq

/-- What commands draw; `filled` tells areas from outlines. -/
inductive Shape where
  | screen (color : Color)
  | primitive (p : Primitive)
  | circle (filled : Bool) (center : Point Number) (r : Number) (color : Color)
  | triangle (filled : Bool) (p0 p1 p2 : Point Number) (color : Color)
  | roundRect (filled : Bool) (x y w h r : Number) (color : Color)
deriving DecidableEq

namespace Shape

/-- The polygon with given corners, as an area or an outline. -/
def polygon (filled : Bool) (points : List (Point Number)) (color : Color) : Primitive :=
  if filled then .fillPolygon points color else .drawPolygon points color

/-- The circle as an area or an outline.  A radius that is not finite draws nothing, and one
below zero is rejected. -/
def circle? (filled : Bool) (center : Point Number) (r : Number) (color : Color) :
    Except Fault (Option Primitive) := do
  if ← Fault.liftNumber r.isFinite then
    if r.lt 0 then .error (.negativeRadius (← Fault.liftNumber r.write))
    else return some (if filled then .fillEllipse center r r color
      else .drawEllipse center r r color)
  else return none

/-- The primitive that a shape is on a screen of the given size, if it is drawn at all. -/
def primitive? (width height : Number) : Shape → Except Fault (Option Primitive)
  | screen color => .ok (some (.fillRect 0 0 width height color))
  | primitive p => .ok (some p)
  | circle filled center r color => circle? filled center r color
  | triangle filled p0 p1 p2 color => .ok (some (polygon filled [p0, p1, p2] color))
  | roundRect filled x y w h r color => do
    let points ← Fault.liftNumber (Geometry.roundRectPoints x y w h r Geometry.cornerSegments)
    return some (polygon filled points color)

end Shape

/-- A surface: its size, and what a primitive does to its state. -/
structure Surface (σ : Type) where
  width : Number
  height : Number
  draw : Primitive → σ → σ × Option Fault

namespace Surface

variable {σ : Type}

/-- Draws a shape. -/
def drawShape (surface : Surface σ) (shape : Shape) (state : σ) : σ × Option Fault :=
  match shape.primitive? surface.width surface.height with
  | .error fault => (state, some fault)
  | .ok none => (state, none)
  | .ok (some p) => surface.draw p state

/-- Fills the screen with black. -/
def clear (surface : Surface σ) (state : σ) : σ × Option Fault :=
  surface.drawShape (.screen .black) state

/-- The surface that appends the primitives to a list. -/
def recording (width height : Number) : Surface (List Primitive) where
  width := width
  height := height
  draw p log := (log ++ [p], none)

end Surface

end SketchScreen
