import SketchScreen.Surface

/-!
# The Drawing Surface

A drawing for exchange with other programs.  Each primitive becomes at most one entity on one
of three layers: outlines, fills and texts.

## Main Definitions

- `Entity`: an entity of a drawing, with its layer and its type.
- `Drawing.plan`: the entity of a primitive.
- `Drawing.surface`: the drawing surface.

## Design Notes

In a drawing `y` grows upward, so every point is flipped about the height of the screen.
-/

namespace SketchScreen

/-- The kinds of entities, with their coordinates in the drawing. -/
inductive EntityShape where
  | line (start stop : Point Float)
  /-- A closed outline. -/
  | polyline (points : List (Point Float))
  | circle (center : Point Float) (radius : Float)
  /-- An ellipse by its longer half axis and the ratio of the shorter one to it. -/
  | ellipse (center axis : Point Float) (ratio : Float)
  | text (text : String) (height : Float) (location : Point Float)
  /-- A filled area by its corners. -/
  | hatch (points : List (Point Float))
deriving DecidableEq

/-- An entity of a drawing. -/
structure Entity where
  shape : EntityShape
  color : Color
deriving DecidableEq

namespace Entity

/-- The name of an entity's type. -/
def typeName (e : Entity) : String :=
  match e.shape with
  | .line _ _ => "LINE"
  | .polyline _ => "LWPOLYLINE"
  | .circle _ _ => "CIRCLE"
  | .ellipse _ _ _ => "ELLIPSE"
  | .text _ _ _ => "TEXT"
  | .hatch _ => "HATCH"

/-- The name of an entity's layer. -/
def layer (e : Entity) : String :=
  match e.shape with
  | .text _ _ _ => "TEXT"
  | .hatch _ => "FILLS"
  | _ => "SHAPES"

end Entity

namespace Drawing

/-- The version of the file format. -/
def version : String := "AC1024"

/-- The unit of length: none, as one unit is one pixel. -/
def unit : Int := 0

/-- The layers with the numbers of their colours. -/
def layers : List (String × Nat) := [("SHAPES", 7), ("FILLS", 8), ("TEXT", 2)]

/-- The number of corners of a filled ellipse. -/
def ellipseSegments : Nat := 64

/-- A full turn. -/
def fullTurn : Float := Float.ofBits 0x401921FB54442D18

/-- The least ratio of the half axes of an ellipse. -/
def minRatio : Float := 1e-10

/-- A ratio of half axes brought into range. -/
def clampRatio (ratio : Float) : Float :=
  if ratio < minRatio then minRatio else if 1.0 < ratio then 1.0 else ratio

/-- A text on one line: breaks are dropped, and carets at its end. -/
def oneLine (text : String) : String :=
  let cs := text.toList
  if cs.contains '\n' || cs.contains '\r' || cs.getLast? == some '^' then
    let kept := cs.filter fun c => c != '\n' && c != '\r'
    String.ofList (kept.reverse.dropWhile (· == '^')).reverse
  else text

/-- The height of a text that asks for none above zero. -/
def usualHeight : Float := 2.5

/-- The height of a text. -/
def textHeight (height : Float) : Float := if 0.0 < height then height else usualHeight

/-- A point of the screen in the drawing. -/
def flip (height : Number) (p : Point Number) : Except NumberFault (Point Float) := do
  let up ← height.sub p.y
  return ⟨← p.x.toFloat, ← up.toFloat⟩

/-- Points of the screen in the drawing. -/
def flipAll (height : Number) (points : List (Point Number)) :
    Except NumberFault (List (Point Float)) :=
  points.mapM (flip height)

/-- The corners of a rectangle. -/
def corners (rect : Rect Number) : List (Point Number) :=
  [⟨rect.left, rect.top⟩, ⟨rect.right, rect.top⟩, ⟨rect.right, rect.bottom⟩,
    ⟨rect.left, rect.bottom⟩]

/-- The corners of a rectangle in the drawing, if it is finite and not empty. -/
def planRect (height x y w h : Number) :
    Except NumberFault (Option (List (Point Float))) := do
  if ← Geometry.allFinite [x, y, w, h] then
    if w.isZero || h.isZero then return none
    else
      let rect ← Geometry.normalizeRect x y w h
      return some (← flipAll height (corners rect))
  else return none

/-- The corners of a polygon in the drawing, if they are finite. -/
def planPolygon (height : Number) (points : List (Point Number)) :
    Except NumberFault (Option (List (Point Float))) := do
  if ← Geometry.pointsFinite points then return some (← flipAll height points)
  else return none

/-- Whether an ellipse is drawn: it is finite and not empty. -/
def hasArea (center : Point Number) (rx ry : Number) : Except NumberFault Bool := do
  if ← Geometry.allFinite [center.x, center.y, rx, ry] then return !(rx.le 0 || ry.le 0)
  else return false

/-- The corner of an ellipse after `i` of its segments. -/
def ellipseCorner (center : Point Number) (rx ry : Number) (i : Nat) :
    Except NumberFault (Point Number) := do
  let angle := fullTurn * i.toFloat / ellipseSegments.toFloat
  let x ← center.x.add (← rx.mul (.float angle.cos))
  let y ← center.y.add (← ry.mul (.float angle.sin))
  return ⟨x, y⟩

/-- The outline of an ellipse: a circle if the half axes are equal. -/
def ellipseShape (height : Number) (center : Point Number) (rx ry : Number) :
    Except NumberFault EntityShape := do
  let middle ← flip height center
  if rx.eq ry then return .circle middle (← rx.toFloat)
  else if ry.lt rx then
    let ratio ← (← ry.divide rx).toFloat
    return .ellipse middle ⟨← rx.toFloat, 0.0⟩ (clampRatio ratio)
  else
    let ratio ← (← rx.divide ry).toFloat
    return .ellipse middle ⟨0.0, ← ry.toFloat⟩ (clampRatio ratio)

/-- The entity of a primitive on a screen of the given height, if it draws anything. -/
def plan (height : Number) : Primitive → Except NumberFault (Option Entity)
  | .fillRect x y w h color => do
    return (← planRect height x y w h).map fun points => ⟨.hatch points, color⟩
  | .drawRect x y w h color => do
    return (← planRect height x y w h).map fun points => ⟨.polyline points, color⟩
  | .drawLine start stop color => do
    if ← Geometry.pointsFinite [start, stop] then
      return some ⟨.line (← flip height start) (← flip height stop), color⟩
    else return none
  | .fillPolygon points color => do
    return (← planPolygon height points).map fun points => ⟨.hatch points, color⟩
  | .drawPolygon points color => do
    return (← planPolygon height points).map fun points => ⟨.polyline points, color⟩
  | .fillEllipse center rx ry color => do
    if ← hasArea center rx ry then
      let points ← (List.range ellipseSegments).mapM (ellipseCorner center rx ry)
      return some ⟨.hatch (← flipAll height points), color⟩
    else return none
  | .drawEllipse center rx ry color => do
    if ← hasArea center rx ry then return some ⟨← ellipseShape height center rx ry, color⟩
    else return none
  | .drawText text location color size => do
    if ← Geometry.allFinite [location.x, location.y, size] then
      if text.isEmpty then return none
      else
        let glyphHeight := textHeight (← size.toFloat)
        return some ⟨.text (oneLine text) glyphHeight (← flip height location), color⟩
    else return none

/-- What a primitive does to the entities of a drawing. -/
def draw (height : Number) (p : Primitive) (entities : Array Entity) :
    Array Entity × Option Fault :=
  match plan height p with
  | .error fault => (entities, some (.number fault))
  | .ok none => (entities, none)
  | .ok (some entity) => (entities.push entity, none)

/-- The drawing surface. -/
def surface (width height : Number) : Surface (Array Entity) where
  width := width
  height := height
  draw := draw height

end Drawing

end SketchScreen
