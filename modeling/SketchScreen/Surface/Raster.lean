import SketchScreen.Image
import SketchScreen.Surface

/-!
# The Raster Surface

The simulated screen.  Each primitive becomes at most one request to a painter: boxes, lines
and polygons in whole pixels, ellipses that stay close to the screen, and masks for ellipses
that reach far beyond it.

## Main Definitions

- `Request`: what a painter is asked for.
- `Raster.plan`: the request of a primitive.
- `Mask`: a set of pixels of the screen, for instance those inside an ellipse.
- `Screen`: the requests so far and the pixels, as long as they are known.
- `Raster.surface`: the raster surface.

## Design Notes

Coordinates are clamped to a fixed range before they reach the painter.  How a painter
fills polygons, draws ellipses and sets type is its own affair, so after such a request
the pixels are not known.
-/

namespace SketchScreen

/-- A set of pixels of a screen. -/
structure Mask where
  width : Nat
  height : Nat
  inside : Nat → Nat → Bool

namespace Mask

/-- The number of pixels of a mask. -/
def count (mask : Mask) : Nat :=
  mask.height.fold (fun j _ total =>
    mask.width.fold (fun i _ total => if mask.inside i j then total + 1 else total) total) 0

/-- Whether the four neighbours of a pixel belong to the mask; those beyond the edge of the
screen count as the pixel itself. -/
def isInterior (mask : Mask) (i j : Nat) : Bool :=
  mask.inside i (j - 1) && mask.inside i (min (j + 1) (mask.height - 1))
    && mask.inside (i - 1) j && mask.inside (min (i + 1) (mask.width - 1)) j

/-- The pixels of a mask that have a neighbour on the screen outside of it. -/
def border (mask : Mask) : Mask :=
  { mask with inside := fun i j => mask.inside i j && !mask.isInterior i j }

/-- The mask as a region. -/
def region (mask : Mask) : Region :=
  ⟨0, 0, mask.width, mask.height, fun x y => mask.inside x.toNat y.toNat⟩

/-- The pixels whose centres lie in an ellipse.  The terms of columns and rows
are computed once. -/
def ellipse (width height : Nat) (center : Point Float) (rx ry : Float) : Mask :=
  let columns := Array.ofFn fun i : Fin width => Id.run (Geometry.ellipseTerm center.x rx i)
  let rows := Array.ofFn fun j : Fin height => Id.run (Geometry.ellipseTerm center.y ry j)
  ⟨width, height, fun i j =>
    match columns[i]?, rows[j]? with
    | some a, some b => a + b ≤ 1.0
    | _, _ => false⟩

end Mask

/-- What a painter is asked for, in whole pixels. -/
inductive Request where
  | fillBox (left top right bottom : Int) (ink : Color)
  | outlineBox (left top right bottom : Int) (ink : Color)
  | line (x0 y0 x1 y1 : Int) (ink : Color)
  | fillPolygon (corners : List (Int × Int)) (ink : Color)
  | outlinePolygon (corners : List (Int × Int)) (ink : Color)
  | fillEllipse (left top right bottom : Int) (ink : Color)
  | outlineEllipse (left top right bottom : Int) (ink : Color)
  /-- A text with its top left corner at a pixel, in type of a height. -/
  | text (x y : Int) (text : String) (height : Int) (ink : Color)
  /-- All pixels of a mask. -/
  | paint (mask : Mask) (ink : Color)

/-- The image after a request, if it is known what the painter does. -/
def Request.apply? (image : Image) : Request → Option Image
  | fillBox left top right bottom ink => some (image.paint (.box left top right bottom) ink)
  | outlineBox left top right bottom ink =>
    some (image.paintAll (Region.outline left top right bottom) ink)
  | line x0 y0 x1 y1 ink => some (image.paint (.segment x0 y0 x1 y1) ink)
  | outlinePolygon corners ink => some (image.paintAll (Region.polygon corners) ink)
  | paint mask ink => some (image.paint mask.region ink)
  | fillPolygon _ _ | fillEllipse _ _ _ _ _ | outlineEllipse _ _ _ _ _ | text _ _ _ _ _ =>
      none

/-- The size of a raster. -/
structure Raster where
  width : Nat
  height : Nat
deriving DecidableEq, Repr

namespace Raster

/-- The raster of a size, of which the fractions are dropped. -/
def create (width height : Number) : Except Fault Raster := do
  let w ← Fault.liftNumber width.truncate
  let h ← Fault.liftNumber height.truncate
  if w < 0 ∨ h < 0 then .error .negativeSize else return ⟨w.toNat, h.toNat⟩

/-- The greatest magnitude of a coordinate that reaches the painter. -/
def coordinateLimit : Int := 0x100000

/-- How many screens an ellipse may reach beyond the screen and still be drawn
by the painter. -/
def reachFactor : Nat := 4

/-- A coordinate brought into the range of the painter. -/
def clampCoordinate (v : Number) : Number :=
  (Number.int (-coordinateLimit)).max ((Number.int coordinateLimit).min v)

/-- The nearest pixel to a coordinate, brought into the range of the painter.  A clamped
coordinate is always finite, so it has one. -/
def nearestPixel (v : Number) : Int :=
  match (clampCoordinate v).round with
  | .ok n => n
  | .error _ => 0

/-- The nearest pixel to a point. -/
def nearestPoint (p : Point Number) : Int × Int :=
  (nearestPixel p.x, nearestPixel p.y)

/-- The width as a number. -/
def widthNumber (raster : Raster) : Number := .int raster.width

/-- The height as a number. -/
def heightNumber (raster : Raster) : Number := .int raster.height

/-- The request for a filled rectangle: the pixels whose centres lie in it, if any. -/
def planFillRect (raster : Raster) (x y w h : Number) (ink : Color) :
    Except NumberFault (Option Request) := do
  if ← Geometry.allFinite [x, y, w, h] then
    let rect ← Geometry.normalizeRect x y w h
    let left := max (nearestPixel rect.left) 0
    let top := max (nearestPixel rect.top) 0
    let right := min (nearestPixel rect.right) raster.width - 1
    let bottom := min (nearestPixel rect.bottom) raster.height - 1
    if right < left ∨ bottom < top then return none
    else return some (.fillBox left top right bottom ink)
  else return none

/-- The request for the outline of a rectangle that is not empty. -/
def planDrawRect (x y w h : Number) (ink : Color) : Except NumberFault (Option Request) := do
  if ← Geometry.allFinite [x, y, w, h] then
    if w.isZero || h.isZero then return none
    else
      let rect ← Geometry.normalizeRect x y w h
      let left := nearestPixel rect.left
      let top := nearestPixel rect.top
      let right := max (nearestPixel rect.right - 1) left
      let bottom := max (nearestPixel rect.bottom - 1) top
      return some (.outlineBox left top right bottom ink)
  else return none

/-- The request for a line. -/
def planLine (start stop : Point Number) (ink : Color) :
    Except NumberFault (Option Request) := do
  if ← Geometry.pointsFinite [start, stop] then
    let (x0, y0) := nearestPoint start
    let (x1, y1) := nearestPoint stop
    return some (.line x0 y0 x1 y1 ink)
  else return none

/-- The request for a polygon as an area or an outline. -/
def planPolygon (filled : Bool) (points : List (Point Number)) (ink : Color) :
    Except Fault (Option Request) := do
  if ← Fault.liftNumber (Geometry.pointsFinite points) then
    if points.length < 2 then .error .fewCorners
    else
      let corners := points.map nearestPoint
      return some (if filled then .fillPolygon corners ink else .outlinePolygon corners ink)
  else return none

/-- How an ellipse reaches the painter. -/
inductive EllipsePlan where
  /-- Not at all. -/
  | nothing
  /-- As an ellipse in a box. -/
  | inBox (left top right bottom : Int)
  /-- As the mask of its pixels. -/
  | masked (mask : Mask)

/-- The mask of an ellipse on the screen. -/
def ellipseMask (raster : Raster) (center : Point Number) (rx ry : Number) :
    Except NumberFault Mask := do
  let cx ← center.x.toFloat
  let cy ← center.y.toFloat
  let a ← rx.toFloat
  let b ← ry.toFloat
  return .ellipse raster.width raster.height ⟨cx, cy⟩ a b

/-- How an ellipse reaches the painter: not at all if it is empty or beside the screen, in a
box while it stays near the screen, and as a mask otherwise. -/
def planEllipse (raster : Raster) (center : Point Number) (rx ry : Number) :
    Except NumberFault EllipsePlan := do
  let width := raster.widthNumber
  let height := raster.heightNumber
  let reach : Number := .int (reachFactor * max raster.width raster.height : Nat)
  if ← Geometry.allFinite [center.x, center.y, rx, ry] then
    if rx.le 0 || ry.le 0 then return .nothing
    else if ← Geometry.offScreen center rx ry width height then return .nothing
    else if ← Geometry.nearScreen center rx ry width height reach then
      let left ← center.x.sub rx
      let top ← center.y.sub ry
      let right ← center.x.add rx
      let bottom ← center.y.add ry
      return .inBox (nearestPixel left) (nearestPixel top) (nearestPixel right)
        (nearestPixel bottom)
    else return .masked (← raster.ellipseMask center rx ry)
  else return .nothing

/-- The request for a filled ellipse. -/
def planFillEllipse (raster : Raster) (center : Point Number) (rx ry : Number) (ink : Color) :
    Except NumberFault (Option Request) := do
  match ← raster.planEllipse center rx ry with
  | .nothing => return none
  | .inBox left top right bottom => return some (.fillEllipse left top right bottom ink)
  | .masked mask => return some (.paint mask ink)

/-- The request for the outline of an ellipse.  A screen without pixels has no border. -/
def planDrawEllipse (raster : Raster) (center : Point Number) (rx ry : Number) (ink : Color) :
    Except Fault (Option Request) := do
  match ← Fault.liftNumber (raster.planEllipse center rx ry) with
  | .nothing => return none
  | .inBox left top right bottom => return some (.outlineEllipse left top right bottom ink)
  | .masked mask =>
    if raster.height = 0 then .error (.emptyAxis 0)
    else if raster.width = 0 then .error (.emptyAxis 1)
    else return some (.paint mask.border ink)

/-- The request for a text that is not empty. -/
def planText (text : String) (location : Point Number) (ink : Color) (size : Number) :
    Except NumberFault (Option Request) := do
  if ← Geometry.allFinite [location.x, location.y, size] then
    if text.isEmpty then return none
    else
      let height ← size.round
      return some (.text (nearestPixel location.x) (nearestPixel location.y) text
        (max 1 height) ink)
  else return none

/-- The request of a primitive, if it asks for anything. -/
def plan (raster : Raster) : Primitive → Except Fault (Option Request)
  | .fillRect x y w h color => Fault.liftNumber (raster.planFillRect x y w h color)
  | .drawRect x y w h color => Fault.liftNumber (planDrawRect x y w h color)
  | .drawLine start stop color => Fault.liftNumber (planLine start stop color)
  | .fillPolygon points color => planPolygon true points color
  | .drawPolygon points color => planPolygon false points color
  | .fillEllipse center rx ry color =>
    Fault.liftNumber (raster.planFillEllipse center rx ry color)
  | .drawEllipse center rx ry color => raster.planDrawEllipse center rx ry color
  | .drawText text location color size => Fault.liftNumber (planText text location color size)

end Raster

/-- The state of a raster surface. -/
structure Screen where
  /-- The pixels, as long as they are known. -/
  image : Option Image
  /-- All requests so far. -/
  requests : Array Request

namespace Screen

/-- A screen of one colour. -/
def blank (raster : Raster) (color : Color) : Screen :=
  ⟨some (Image.blank raster.width raster.height color), #[]⟩

/-- The screen after a request. -/
def request (screen : Screen) (r : Request) : Screen :=
  ⟨screen.image.bind fun image => r.apply? image, screen.requests.push r⟩

end Screen

namespace Raster

/-- What a primitive does to a screen. -/
def draw (raster : Raster) (p : Primitive) (screen : Screen) : Screen × Option Fault :=
  match raster.plan p with
  | .error fault => (screen, some fault)
  | .ok none => (screen, none)
  | .ok (some r) => (screen.request r, none)

/-- The raster surface. -/
def surface (raster : Raster) : Surface Screen where
  width := raster.widthNumber
  height := raster.heightNumber
  draw := raster.draw

/-! ## The grid -/

/-- The settings of a grid. -/
structure Grid where
  spacing : Int
  color : Color
  /-- The strength of the ink, from 0 for none to 1 for opaque. -/
  alpha : Number

/-- The grid of the preview: cells of ten pixels in a light grey. -/
def Grid.preview : Grid := ⟨10, ⟨100, 100, 100⟩, .float 0.3⟩

/-- A grid that is ready to be drawn. -/
structure GridPlan where
  /-- The ends of its lines. -/
  lines : List (Int × Int × Int × Int)
  /-- The strength of the ink out of 255, before it is brought into range. -/
  strength : Int
deriving DecidableEq, Repr

/-- The multiples of a positive spacing up to a length. -/
def gridStops (spacing : Int) (length : Nat) : List Int :=
  if spacing ≤ 0 then []
  else (List.range (length / spacing.toNat + 1)).map fun (k : Nat) => (k : Int) * spacing

/-- The lines of a grid and the strength of its ink. -/
def planGrid (raster : Raster) (grid : Grid) : Except Fault GridPlan := do
  let strength ← Fault.liftNumber (← Fault.liftNumber (grid.alpha.mul 255)).round
  if grid.spacing = 0 then .error .gridSpacing
  else
    let columns := (gridStops grid.spacing raster.width).map fun x =>
      (x, 0, x, (raster.height : Int))
    let rows := (gridStops grid.spacing raster.height).map fun y =>
      (0, y, (raster.width : Int), y)
    return ⟨columns ++ rows, strength⟩

/-- An image under a grid. -/
def GridPlan.over (plan : GridPlan) (grid : Grid) (image : Image) : Image :=
  if grid.spacing ≤ 0 then image
  else image.withGrid grid.spacing.toNat (max 0 (min 255 plan.strength)).toNat grid.color

end Raster

end SketchScreen
