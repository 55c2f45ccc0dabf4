import SketchScreen.Sketch.Run
import SketchScreen.Surface.Drawing
import SketchScreen.Surface.Raster

/-!
# Sketches on Screens and in Drawings

## Main Definitions

- `Sketch.onRaster`: a run on a new screen of the given size.
- `Sketch.onDrawing`: a run in a new drawing of the given size.
-/

namespace SketchScreen.Sketch

/-- Runs a sketch on a new black screen. -/
def onRaster (raster : Raster) (width height : Number) (source : String) :
    Except NumberFault (Machine Screen) :=
  run raster.surface width height source (Screen.blank raster .black)

/-- Runs a sketch in a new drawing whose background is black. -/
def onDrawing (width height : Number) (source : String) :
    Except Fault (Machine (Array Entity)) :=
  render (Drawing.surface width height) width height source #[]

end SketchScreen.Sketch
