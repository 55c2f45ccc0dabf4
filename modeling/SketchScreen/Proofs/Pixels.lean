import SketchScreen.Proofs.ExactValue
import SketchScreen.Surface.Raster

/-!
# Boxes of Pixels

A rectangle with corners at integers becomes a box of whole pixels, and the box
is painted pixel by pixel.

## Main Definitions

- `Color.IsShown`: a colour that pixels can have.
- `Image.IsSized`: an image with all its rows, each of the full width.

## Design Notes

An image is known by its pixels (`IsSized.ext`), and each operation by what it does to one
pixel (`pixel?_mapRows`, `pixel?_paint`).  For rectangles, `Raster.planFillRect_int` gives the
box of whole pixels with the coordinates clamped; clamping is of no consequence on screens
that are narrower than the range of the painter.
-/

namespace SketchScreen

/-! ## Integers -/

namespace Number

theorem int_lt_int_iff {m n : Int} : (int m).lt (int n) = true ↔ m < n := by
  have value : (int m).value? = some (m : ℚ) := rfl
  rw [lt_int_iff value, Int.cast_lt]

theorem int_le_int_iff {m n : Int} : (int m).le (int n) = true ↔ m ≤ n := by
  rw [le, compare?, Bool.or_eq_true, beq_iff_eq, beq_iff_eq, Option.some.injEq,
    Option.some.injEq, Int.compare_eq_lt, Int.compare_eq_eq]
  omega

theorem min_int (m n : Int) : (int m).min (int n) = int (Min.min m n) := by
  rw [Number.min]
  split
  · rename_i less
    rw [min_eq_right (int_lt_int_iff.mp less).le]
  · rename_i notLess
    rw [min_eq_left (not_lt.mp (int_lt_int_iff.not.mp notLess))]

theorem max_int (m n : Int) : (int m).max (int n) = int (Max.max m n) := by
  rw [Number.max]
  split
  · rename_i less
    rw [max_eq_right (int_lt_int_iff.mp less).le]
  · rename_i notLess
    rw [max_eq_left (not_lt.mp (int_lt_int_iff.not.mp notLess))]

/-- Integers within range pass the test of finiteness. -/
theorem isFinite_int {n : Int} {k : Nat} (h : (int n).IsWithin k) (range : k ≤ 1022) :
    (int n).isFinite = .ok true := by
  obtain ⟨x, nearest, -⟩ := toFloat_gives h range
  change intToFloat n = .ok x at nearest
  rw [isFinite, nearest]
  rfl

end Number

namespace Rect

/-- The rectangle at a place with sides that may be negative. -/
def ofSides (x y w h : Int) : Rect Int :=
  ⟨min x (x + w), min y (y + h), max x (x + w), max y (y + h)⟩

/-- A rectangle with corners at integers, in numbers. -/
def toNumbers (rect : Rect Int) : Rect Number :=
  ⟨.int rect.left, .int rect.top, .int rect.right, .int rect.bottom⟩

end Rect

namespace Geometry

theorem allFinite_of_forall {numbers : List Number}
    (h : ∀ n ∈ numbers, n.isFinite = .ok true) : allFinite numbers = .ok true := by
  induction numbers with
  | nil => rfl
  | cons n rest ih =>
      rw [List.forall_mem_cons] at h
      rw [allFinite, h.1]
      exact ih h.2

theorem allFinite_int {numbers : List Int} {k : Nat}
    (within : ∀ n ∈ numbers, (Number.int n).IsWithin k) (range : k ≤ 1022) :
    allFinite (numbers.map .int) = .ok true := by
  refine allFinite_of_forall fun n mem => ?_
  obtain ⟨m, side, rfl⟩ := List.mem_map.mp mem
  exact Number.isFinite_int (within m side) range

theorem normalizeRect_int (x y w h : Int) :
    normalizeRect (.int x) (.int y) (.int w) (.int h)
      = .ok (Rect.ofSides x y w h).toNumbers := by
  show Except.ok (Rect.mk (Number.min (.int x) (.int (x + w)))
    (Number.min (.int y) (.int (y + h)))
    (Number.max (.int x) (.int (x + w))) (Number.max (.int y) (.int (y + h)))) = _
  simp only [Number.min_int, Number.max_int]
  rfl

end Geometry

namespace Raster

theorem nearestPixel_int (v : Int) :
    nearestPixel (.int v) = max (-coordinateLimit) (min coordinateLimit v) := by
  rw [nearestPixel, clampCoordinate, Number.min_int, Number.max_int]
  rfl

/-- Clamping and clipping move no side of a rectangle across a pixel of the screen. -/
theorem nearestPixel_between_iff {size i : Nat} (modest : size ≤ 1920) (hi : i < size)
    (a b : Int) :
    max (nearestPixel (.int a)) 0 ≤ i ∧ (i : Int) ≤ min (nearestPixel (.int b)) size - 1 ↔
      a ≤ i ∧ (i : Int) + 1 ≤ b := by
  rw [nearestPixel_int, nearestPixel_int, coordinateLimit]
  omega

/-- **The box of a rectangle with corners at integers.** -/
theorem planFillRect_int (raster : Raster) {x y w h : Int} {k : Nat}
    (within : ∀ n ∈ [x, y, w, h], (Number.int n).IsWithin k) (range : k ≤ 1022)
    (ink : Color) :
    raster.planFillRect (.int x) (.int y) (.int w) (.int h) ink =
      let rect := (Rect.ofSides x y w h).toNumbers
      let left := max (nearestPixel rect.left) 0
      let top := max (nearestPixel rect.top) 0
      let right := min (nearestPixel rect.right) raster.width - 1
      let bottom := min (nearestPixel rect.bottom) raster.height - 1
      .ok (if right < left ∨ bottom < top then none
        else some (.fillBox left top right bottom ink)) := by
  have finite : Geometry.allFinite [.int x, .int y, .int w, .int h] = .ok true :=
    Geometry.allFinite_int within range
  rw [planFillRect, finite, Geometry.normalizeRect_int]
  simp only [bind, Except.bind, if_true]
  split <;> rfl

end Raster

/-! ## Pixels -/

/-- A colour that pixels can have. -/
def Color.IsShown (c : Color) : Prop :=
  ∀ channel ∈ [c.r, c.g, c.b], 0 ≤ channel ∧ channel ≤ 255

instance (c : Color) : Decidable c.IsShown :=
  inferInstanceAs (Decidable (∀ channel ∈ [c.r, c.g, c.b], 0 ≤ channel ∧ channel ≤ 255))

theorem Color.IsShown.clip_eq {c : Color} (h : c.IsShown) : c.clip = c := by
  simp only [IsShown, List.forall_mem_cons] at h
  rw [Color.clip]
  congr 1 <;> omega

theorem Region.holds_box_iff {left top right bottom x y : Int} :
    (box left top right bottom).holds x y = true ↔
      (left ≤ x ∧ x ≤ right) ∧ top ≤ y ∧ y ≤ bottom := by
  show (decide (left ≤ x) && decide (x ≤ right) && decide (top ≤ y)
    && decide (y ≤ bottom) && true) = true ↔ _
  simp [and_assoc]

namespace Image

/-- An image with all its rows, each of the full width. -/
structure IsSized (raster : Raster) (image : Image) : Prop where
  width : image.width = raster.width
  height : image.height = raster.height
  rows : image.rows.size = raster.height
  row : ∀ row ∈ image.rows, row.size = raster.width

variable {raster : Raster} {image : Image}

theorem pixel?_mapRows (image : Image) (top bottom : Int) (change : Nat → Nat → Color → Color)
    (x y : Nat) :
    (image.mapRows top bottom change).pixel? x y = (image.pixel? x y).map fun old =>
      if top ≤ y ∧ y ≤ bottom then change x y old else old := by
  rw [pixel?, pixel?, mapRows, Array.getElem?_mapIdx]
  cases image.rows[y]? with
  | none => rfl
  | some row =>
      simp only [Option.map_some, Option.bind_some]
      split
      · rw [Array.getElem?_mapIdx]
      · rw [Option.map_id']

/-- **Painting gives the pixels of a region one colour and leaves all others as they are.** -/
theorem pixel?_paint (image : Image) (region : Region) (ink : Color) (x y : Nat) :
    (image.paint region ink).pixel? x y
      = (image.pixel? x y).map fun old => if region.holds x y then ink.clip else old := by
  rw [paint, pixel?_mapRows]
  congr 1
  funext old
  split
  · rfl
  · rename_i outside
    rw [if_neg]
    intro holds
    simp only [Region.holds, Bool.and_eq_true, decide_eq_true_eq] at holds
    omega

theorem IsSized.mapRows (h : image.IsSized raster) (top bottom : Int)
    (change : Nat → Nat → Color → Color) :
    (image.mapRows top bottom change).IsSized raster where
  width := h.width
  height := h.height
  rows := by rw [Image.mapRows, Array.size_mapIdx, h.rows]
  row := by
    intro row mem
    obtain ⟨y, bound, rfl⟩ := Array.mem_mapIdx.mp mem
    split
    · rw [Array.size_mapIdx]
      exact h.row _ (Array.getElem_mem bound)
    · exact h.row _ (Array.getElem_mem bound)

theorem IsSized.paint (h : image.IsSized raster) (region : Region) (ink : Color) :
    (image.paint region ink).IsSized raster :=
  h.mapRows ..

theorem IsSized.paintAll (h : image.IsSized raster) (regions : List Region) (ink : Color) :
    (image.paintAll regions ink).IsSized raster := by
  induction regions generalizing image with
  | nil => exact h
  | cons region rest ih => exact ih (h.paint region ink)

theorem isSized_blank (raster : Raster) (ink : Color) :
    (blank raster.width raster.height ink).IsSized raster where
  width := rfl
  height := rfl
  rows := Array.size_replicate
  row := by
    intro row mem
    rw [(Array.mem_replicate.mp mem).2, Array.size_replicate]

theorem pixel?_blank {width height x y : Nat} (hx : x < width) (hy : y < height)
    (ink : Color) : (blank width height ink).pixel? x y = some ink.clip := by
  simp [pixel?, blank, hx, hy]

/-- An image has a colour at every place. -/
theorem IsSized.exists_pixel? (h : image.IsSized raster) {x y : Nat} (hx : x < raster.width)
    (hy : y < raster.height) : ∃ color, image.pixel? x y = some color := by
  have row : y < image.rows.size := h.rows ▸ hy
  have column : x < image.rows[y].size := by
    rw [h.row _ (Array.getElem_mem row)]
    exact hx
  refine ⟨image.rows[y][x], ?_⟩
  rw [pixel?, Array.getElem?_eq_getElem row, Option.bind_some,
    Array.getElem?_eq_getElem column]

/-- **An image is known by its pixels.** -/
theorem IsSized.ext {other : Image} (h : image.IsSized raster) (h' : other.IsSized raster)
    (pixels : ∀ x y, x < raster.width → y < raster.height →
      image.pixel? x y = other.pixel? x y) :
    image = other := by
  have rows : image.rows = other.rows := by
    refine Array.ext (h.rows.trans h'.rows.symm) fun y hy hy' => ?_
    have size := h.row _ (Array.getElem_mem hy)
    have size' := h'.row _ (Array.getElem_mem hy')
    refine Array.ext (size.trans size'.symm) fun x hx hx' => ?_
    have same := pixels x y (size ▸ hx) (h.rows ▸ hy)
    rw [pixel?, pixel?, Array.getElem?_eq_getElem hy, Array.getElem?_eq_getElem hy',
      Option.bind_some, Option.bind_some, Array.getElem?_eq_getElem hx,
      Array.getElem?_eq_getElem hx'] at same
    exact Option.some.inj same
  rcases image with ⟨w, t, r⟩
  rcases other with ⟨w', t', r'⟩
  cases h.width.trans h'.width.symm
  cases h.height.trans h'.height.symm
  cases rows
  rfl

end Image

end SketchScreen
