import SketchScreen.Color
import SketchScreen.Fault

/-!
# Images

The pixels of a screen, and the regions that are painted on it.

## Main Definitions

- `Image`: rows of pixels.
- `Image.pixel?`: the colour of a pixel.
- `Region`: a set of pixels inside a box.
- `Image.paint`: gives the pixels of a region one colour.
- `Region.box`, `Region.segment`: rectangles and straight lines.
- `Image.withGrid`: an image under a translucent grid.

## Design Notes

A straight line takes one pixel per step along its longer side; the offset along the shorter
side is that of the exact line, a half going away from the start.
-/

namespace SketchScreen

/-- The colour with each channel brought into the range that pixels have. -/
def Color.clip (c : Color) : Color :=
  ⟨max 0 (min 255 c.r), max 0 (min 255 c.g), max 0 (min 255 c.b)⟩

/-- A set of pixels inside a box. -/
structure Region where
  left : Int
  top : Int
  right : Int
  bottom : Int
  /-- Which pixels of the box belong to the region. -/
  covers : Int → Int → Bool

namespace Region

/-- Whether a pixel belongs to the region. -/
def holds (region : Region) (x y : Int) : Bool :=
  region.left ≤ x && x ≤ region.right && region.top ≤ y && y ≤ region.bottom
    && region.covers x y

/-- All pixels of a box, its sides included. -/
def box (left top right bottom : Int) : Region :=
  ⟨left, top, right, bottom, fun _ _ => true⟩

/-- The offset along the shorter side after `k` steps of a line with the given sides. -/
def minorOffset (long short k : Nat) : Nat :=
  (2 * short * k + long) / (2 * long)

/-- The direction from one coordinate to another. -/
def direction (start stop : Int) : Int :=
  if stop < start then -1 else 1

/-- The pixels of a straight line, both ends included. -/
def segment (x0 y0 x1 y1 : Int) : Region :=
  let dx := (x1 - x0).natAbs
  let dy := (y1 - y0).natAbs
  let covers :=
    if dy < dx then fun (x y : Int) =>
      y == y0 + direction y0 y1 * minorOffset dx dy (x - x0).natAbs
    else fun (x y : Int) =>
      x == x0 + direction x0 x1 * minorOffset dy dx (y - y0).natAbs
  ⟨min x0 x1, min y0 y1, max x0 x1, max y0 y1, covers⟩

/-- The four lines of the outline of a box. -/
def outline (left top right bottom : Int) : List Region :=
  [segment left top right top, segment left bottom right bottom,
    segment left (top + 1) left bottom, segment right (top + 1) right bottom]

/-- The side between two corners; corners that coincide have none. -/
def side? (a b : Int × Int) : Option Region :=
  if a = b then none else some (segment a.1 a.2 b.1 b.2)

/-- The sides of a closed polygon. -/
def polygon (corners : List (Int × Int)) : List Region :=
  match corners with
  | [] => []
  | first :: rest => (corners.zip (rest ++ [first])).filterMap fun (a, b) => side? a b

end Region

/-- The pixels of a screen, row by row. -/
structure Image where
  width : Nat
  height : Nat
  rows : Array (Array Color)
deriving DecidableEq

namespace Image

/-- An image of one colour. -/
def blank (width height : Nat) (color : Color) : Image :=
  ⟨width, height, Array.replicate height (Array.replicate width color.clip)⟩

/-- The colour of a pixel. -/
def pixel? (image : Image) (x y : Nat) : Option Color :=
  image.rows[y]?.bind fun row => row[x]?

/-- Changes the pixels between two rows, each by its place. -/
def mapRows (image : Image) (top bottom : Int) (change : Nat → Nat → Color → Color) : Image :=
  { image with
    rows := image.rows.mapIdx fun y row =>
      if top ≤ y ∧ y ≤ bottom then row.mapIdx fun x old => change x y old else row }

/-- Gives the pixels of a region one colour. -/
def paint (image : Image) (region : Region) (ink : Color) : Image :=
  let ink := ink.clip
  image.mapRows region.top region.bottom fun x y old => if region.holds x y then ink else old

/-- Gives the pixels of several regions one colour. -/
def paintAll (image : Image) (regions : List Region) (ink : Color) : Image :=
  regions.foldl (fun image region => image.paint region ink) image

/-- A coordinate where negative ones count from the far edge. -/
def wrapIndex? (size : Nat) (i : Int) : Option Nat :=
  let k := if i < 0 then i + size else i
  if 0 ≤ k ∧ k < size then some k.toNat else none

/-- The colour of a pixel where negative coordinates count from the far edge. -/
def pixelAt (image : Image) (x y : Int) : Except Fault Color :=
  match wrapIndex? image.width x, wrapIndex? image.height y with
  | some i, some j =>
    match image.pixel? i j with
    | some color => .ok color
    | none => .error .outsideScreen
  | _, _ => .error .outsideScreen

/-! ## The grid -/

/-- One channel of an opaque pixel `old` under ink of strength `alpha` out of 255. -/
def blendChannel (alpha : Nat) (ink old : Int) : Int :=
  let weight := alpha * 128
  let total := ink.toNat * weight + old.toNat * (255 * 128 - weight) + 0x4000
  ((total / 256 + total) / 256 / 128 : Nat)

/-- A pixel under ink. -/
def blend (alpha : Nat) (ink old : Color) : Color :=
  ⟨blendChannel alpha ink.r old.r, blendChannel alpha ink.g old.g,
    blendChannel alpha ink.b old.b⟩

/-- Whether a grid of the given spacing runs through a pixel. -/
def onGrid (spacing x y : Nat) : Bool :=
  x % spacing == 0 || y % spacing == 0

/-- An image under a grid; a crossing is blended once. -/
def withGrid (image : Image) (spacing : Nat) (alpha : Nat) (ink : Color) : Image :=
  image.mapRows 0 image.height fun x y old =>
    if onGrid spacing x y then blend alpha ink.clip old else old

end Image

end SketchScreen
