import SketchScreen.Surface.Raster
import SketchScreen.Value

/-!
# The Preview Window

A window shows a screen at a whole scale, with or without a grid.  Keys change the
scale and switch the grid.

## Main Definitions

- `WindowEvent`: what a window system is asked for.
- `Viewer`: the state of a window.
- `Viewer.create`, `Viewer.redraw`, `Viewer.press`: opening, drawing and keys.
- `Viewer.present`: a window with everything that is asked for until it is closed.
-/

namespace SketchScreen

/-- What a window system is asked for. -/
inductive WindowEvent where
  /-- A texture of a picture with three octets per pixel. -/
  | texture (width height : Nat)
  | window (width height : Nat) (caption : String)
  /-- The window reports its events to the viewer. -/
  | handlers
  | clear
  /-- A texture, known by its first pixel, fills the window. -/
  | blit (first : Option Color) (width height : Nat)
  | resize (width height : Nat)
  /-- Events are handled until the window is closed. -/
  | run
deriving DecidableEq, Repr

/-- The keys of a window. -/
inductive Key where
  | grid
  | zoomIn
  | zoomOut
  | other
deriving DecidableEq, Repr

/-- The state of a window. -/
structure Viewer where
  raster : Raster
  scale : Nat
  showsGrid : Bool
  /-- The first pixels of the screen without and with the grid. -/
  plain : Option Color
  grid : Option Color
deriving DecidableEq

namespace Viewer

/-- The greatest scale. -/
def maxScale : Nat := 8

/-- The scale of a window for which none is given. -/
def defaultScale : Value := .number (.int 2)

/-- The title of a window for which none is given. -/
def defaultTitle : String := "tftsim"

/-- The keys of a window, as they are explained when it opens. -/
def legend : String :=
  "tftsim preview\n  g: toggle 10px grid overlay\n  up-arrow / down-arrow: zoom in / out\n"
    ++ "  ESC: close viewer\n"

/-- A scale brought into range. -/
def clampScale (n : Int) : Nat := (max 1 (min (maxScale : Int) n)).toNat

/-- The width of a window. -/
def width (v : Viewer) : Nat := v.raster.width * v.scale

/-- The height of a window. -/
def height (v : Viewer) : Nat := v.raster.height * v.scale

/-- A screen under the grid of the preview. -/
def gridded (raster : Raster) (image : Image) : Image :=
  match raster.planGrid Raster.Grid.preview with
  | .ok plan => plan.over Raster.Grid.preview image
  | .error _ => image

/-- Opens a window. -/
def create (raster : Raster) (image : Option Image) (title : String) (scale : Value) :
    Except Fault (Viewer × List WindowEvent) := do
  let n ← scale.toInt
  let first := fun (i : Image) => i.pixel? 0 0
  let viewer : Viewer := ⟨raster, clampScale n, false, image.bind first,
    image.bind fun i => first (gridded raster i)⟩
  let texture := WindowEvent.texture raster.width raster.height
  return (viewer, [texture, texture, .window viewer.width viewer.height title, .handlers])

/-- Draws the contents of a window. -/
def redraw (v : Viewer) : List WindowEvent :=
  [.clear, .blit (if v.showsGrid then v.grid else v.plain) v.width v.height]

/-- Changes the scale of a window. -/
def rescale (v : Viewer) (scale : Nat) : Viewer × List WindowEvent :=
  let v := { v with scale := scale }
  (v, [.resize v.width v.height])

/-- Handles a key. -/
def press (v : Viewer) : Key → Viewer × List WindowEvent
  | .grid => ({ v with showsGrid := !v.showsGrid }, [])
  | .zoomIn => if v.scale < maxScale then v.rescale (v.scale + 1) else (v, [])
  | .zoomOut => if 1 < v.scale then v.rescale (v.scale - 1) else (v, [])
  | .other => (v, [])

/-- Opens a window and hands over to it. -/
def present (raster : Raster) (image : Option Image) (title : String) (scale : Value) :
    Except Fault (List WindowEvent) := do
  let (_, events) ← create raster image title scale
  return events ++ [.run]

end Viewer

end SketchScreen
