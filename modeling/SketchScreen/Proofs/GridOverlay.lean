import SketchScreen.Proofs.Pixels

/-!
# The Grid Over a Screen

A grid is drawn line by line on a transparent overlay, and the overlay is laid on the
screen.  This module compares that with `Raster.GridPlan.over`, which blends the pixels of
the grid straight away: the lines cover exactly the multiples of the spacing in both
directions, where two lines cross the overlay has the ink once, and where there is no line
it leaves a pixel as it is.

## Main Definitions

- `Glaze`: an ink with its strength.
- `Overlaid`: a screen with an overlay on it.
- `Overlaid.stroke`, `Overlaid.strokes`: lines drawn on the overlay.
- `Overlaid.seen`: what is seen through the overlay.

## Design Notes

The step lemmas say what one line does to the overlay, and that it does nothing to the screen;
the run lemmas follow by induction on the lines.  The last column or row of a grid may lie on
the far edge or beyond the screen, where no pixel shows it.
-/

namespace SketchScreen

/-! ## Straight lines along an axis -/

namespace Region

/-- Along a row or a column a line does not move sideways. -/
theorem minorOffset_zero (long k : Nat) : minorOffset long 0 k = 0 := by
  rw [minorOffset, Nat.mul_zero, Nat.zero_mul, Nat.zero_add]
  rcases Nat.eq_zero_or_pos long with rfl | pos
  · rfl
  · exact Nat.div_eq_of_lt (by omega)

theorem holds_column_iff {c top bottom x y : Int} (le : top ≤ bottom) :
    (segment c top c bottom).holds x y = true ↔ x = c ∧ top ≤ y ∧ y ≤ bottom := by
  simp only [segment, holds, Int.sub_self, Int.natAbs_zero, Nat.not_lt_zero, if_false,
    minorOffset_zero, min_self, max_self, min_eq_left le, max_eq_right le, Bool.and_eq_true,
    decide_eq_true_eq, beq_iff_eq, Nat.cast_zero, mul_zero, add_zero]
  omega

theorem holds_row_iff {r left right x y : Int} (le : left ≤ right) :
    (segment left r right r).holds x y = true ↔ y = r ∧ left ≤ x ∧ x ≤ right := by
  rcases Int.lt_or_eq_of_le le with lt | rfl
  · have wide : 0 < (right - left).natAbs := by omega
    simp only [segment, holds, Int.sub_self, Int.natAbs_zero, if_pos wide, minorOffset_zero,
      min_self, max_self, min_eq_left le, max_eq_right le, Bool.and_eq_true,
      decide_eq_true_eq, beq_iff_eq, Nat.cast_zero, mul_zero, add_zero]
    omega
  · -- from a pixel to itself a line counts as a column
    rw [holds_column_iff (Int.le_refl r)]
    omega

end Region

/-! ## Inks -/

/-- An ink, and its strength out of 255. -/
structure Glaze where
  ink : Color
  strength : Nat
deriving DecidableEq

namespace Glaze

/-- No ink at all. -/
def clear : Glaze := ⟨⟨0, 0, 0⟩, 0⟩

/-- A pixel under a glaze. -/
def blend (glaze : Glaze) (old : Color) : Color := Image.blend glaze.strength glaze.ink old

theorem blendChannel_zero (ink : Int) {old : Int} (low : 0 ≤ old) (high : old ≤ 255) :
    Image.blendChannel 0 ink old = old := by
  rw [Image.blendChannel]
  omega

/-- A pixel under no ink is the pixel. -/
theorem clear_blend {old : Color} (shown : old.IsShown) : clear.blend old = old := by
  simp only [Color.IsShown, List.forall_mem_cons] at shown
  obtain ⟨r, g, b, -⟩ := shown
  rw [blend, clear, Image.blend, blendChannel_zero 0 r.1 r.2, blendChannel_zero 0 g.1 g.2,
    blendChannel_zero 0 b.1 b.2]

end Glaze

/-- An image with colours that pixels can have. -/
def Image.IsShown (image : Image) : Prop := ∀ row ∈ image.rows, ∀ color ∈ row, color.IsShown

theorem Image.IsShown.of_pixel? {image : Image} (h : image.IsShown) {x y : Nat}
    {color : Color} (place : image.pixel? x y = some color) : color.IsShown := by
  obtain ⟨row, hrow, hcolor⟩ := Option.bind_eq_some_iff.mp place
  exact h row (Array.mem_of_getElem? hrow) color (Array.mem_of_getElem? hcolor)

/-! ## Screens with an overlay -/

/-- The ends of a straight line. -/
abbrev LineEnds := Int × Int × Int × Int

/-- The pixels of the line between two ends. -/
def Region.between : LineEnds → Region
  | (x0, y0, x1, y1) => segment x0 y0 x1 y1

/-- A screen with an overlay on it. -/
structure Overlaid where
  image : Image
  /-- What the overlay has at a pixel. -/
  overlay : Nat → Nat → Glaze

namespace Overlaid

/-- A screen with a transparent overlay. -/
def lay (image : Image) : Overlaid := ⟨image, fun _ _ => .clear⟩

/-- Draws a line on the overlay, in place of what it had there. -/
def stroke (glaze : Glaze) (sheet : Overlaid) (ends : LineEnds) : Overlaid :=
  { sheet with
    overlay := fun x y => if (Region.between ends).holds x y then glaze
      else sheet.overlay x y }

/-- Draws lines on the overlay. -/
def strokes (glaze : Glaze) (sheet : Overlaid) (lines : List LineEnds) : Overlaid :=
  lines.foldl (stroke glaze) sheet

/-- What is seen through the overlay. -/
def seen (sheet : Overlaid) : Image :=
  sheet.image.mapRows 0 sheet.image.height fun x y old => (sheet.overlay x y).blend old

variable (glaze : Glaze) (sheet : Overlaid)

theorem strokes_image (lines : List LineEnds) :
    (sheet.strokes glaze lines).image = sheet.image := by
  induction lines generalizing sheet with
  | nil => rfl
  | cons ends lines ih => exact ih (sheet.stroke glaze ends)

/-- **However many lines run through a pixel, the overlay has the ink there once.** -/
theorem strokes_overlay (lines : List LineEnds) (x y : Nat) :
    (sheet.strokes glaze lines).overlay x y
      = if ∃ ends ∈ lines, (Region.between ends).holds x y then glaze
        else sheet.overlay x y := by
  induction lines generalizing sheet with
  | nil => simp [strokes]
  | cons ends lines ih =>
      have step : (sheet.stroke glaze ends).overlay x y
          = if (Region.between ends).holds x y then glaze else sheet.overlay x y := rfl
      rw [strokes, List.foldl_cons, ← strokes, ih, step]
      simp only [List.exists_mem_cons_iff]
      split <;> split <;> simp_all

theorem pixel?_seen {raster : Raster} (sized : sheet.image.IsSized raster) (x y : Nat)
    (hy : y < raster.height) :
    sheet.seen.pixel? x y = (sheet.image.pixel? x y).map (sheet.overlay x y).blend := by
  have inside : (0 : Int) ≤ y ∧ (y : Int) ≤ sheet.image.height := by
    rw [sized.height]
    omega
  rw [seen, Image.pixel?_mapRows]
  simp only [if_pos inside]

end Overlaid

/-! ## The lines of a grid -/

namespace Raster

variable {raster : Raster} {grid : Grid} {plan : GridPlan}

theorem mem_gridStops_iff {spacing : Int} (positive : 1 ≤ spacing) {length : Nat} {n : Int} :
    n ∈ gridStops spacing length ↔ spacing ∣ n ∧ 0 ≤ n ∧ n ≤ length := by
  obtain ⟨s, rfl⟩ := Int.eq_ofNat_of_zero_le (by omega : 0 ≤ spacing)
  have pos : 0 < s := by omega
  rw [gridStops, if_neg (by omega), List.mem_map]
  constructor
  · rintro ⟨k, mem, rfl⟩
    have le : k * s ≤ length := (Nat.le_div_iff_mul_le pos).mp
      (Nat.le_of_lt_succ (List.mem_range.mp mem))
    exact ⟨Int.dvd_mul_left _ _, by positivity, by exact_mod_cast le⟩
  · rintro ⟨divides, low, high⟩
    obtain ⟨m, rfl⟩ := Int.eq_ofNat_of_zero_le low
    obtain ⟨k, rfl⟩ := Int.natCast_dvd_natCast.mp divides
    have le : k ≤ length / s :=
      (Nat.le_div_iff_mul_le pos).mpr (by rw [Nat.mul_comm]; exact_mod_cast high)
    exact ⟨k, List.mem_range.mpr (Nat.lt_succ_of_le le), by push_cast; ring⟩

/-- The lines at the multiples of a spacing, from edge to edge: first the
columns, then the rows. -/
def gridLines (raster : Raster) (spacing : Int) : List LineEnds :=
  (gridStops spacing raster.width).map (fun x => (x, 0, x, (raster.height : Int)))
    ++ (gridStops spacing raster.height).map fun y => (0, y, (raster.width : Int), y)

theorem planGrid_of_round {scaled : Number} {strength : Int}
    (product : grid.alpha.mul 255 = .ok scaled) (rounded : scaled.round = .ok strength)
    (nonzero : grid.spacing ≠ 0) :
    raster.planGrid grid = .ok ⟨raster.gridLines grid.spacing, strength⟩ := by
  have product : Fault.liftNumber (grid.alpha.mul 255) = .ok scaled := by rw [product]; rfl
  have rounded : Fault.liftNumber scaled.round = .ok strength := by rw [rounded]; rfl
  rw [planGrid, product]
  simp only [bind, Except.bind, rounded, if_neg nonzero]
  rfl

theorem lines_of_planGrid (nonzero : grid.spacing ≠ 0)
    (planned : raster.planGrid grid = .ok plan) :
    plan.lines = raster.gridLines grid.spacing := by
  cases product : grid.alpha.mul 255 with
  | error cause =>
      rw [planGrid, product] at planned
      cases planned
  | ok scaled =>
      cases rounded : scaled.round with
      | error cause =>
          have fails : raster.planGrid grid = .error (.number cause) := by
            rw [planGrid, product]
            show (Fault.liftNumber scaled.round >>= _) = _
            rw [rounded]
            rfl
          cases fails.symm.trans planned
      | ok strength =>
          cases (planGrid_of_round product rounded nonzero).symm.trans planned
          rfl

/-- **The lines of a grid run through the multiples of the spacing**, in both directions, and
through no other pixel of the screen. -/
theorem exists_line_iff (positive : 1 ≤ grid.spacing)
    (planned : raster.planGrid grid = .ok plan) {x y : Nat} (hx : x < raster.width)
    (hy : y < raster.height) :
    (∃ ends ∈ plan.lines, (Region.between ends).holds x y) ↔
      grid.spacing ∣ x ∨ grid.spacing ∣ y := by
  have column : ∀ c : Int,
      (Region.between (c, 0, c, (raster.height : Int))).holds x y ↔ (x : Int) = c := by
    intro c
    rw [Region.between, Region.holds_column_iff (Int.natCast_nonneg _)]
    omega
  have row : ∀ r : Int, (Region.between (0, r, (raster.width : Int), r)).holds x y ↔
      (y : Int) = r := by
    intro r
    rw [Region.between, Region.holds_row_iff (Int.natCast_nonneg _)]
    omega
  rw [lines_of_planGrid (by omega) planned, gridLines]
  -- a pixel of the screen is short of both far edges, so each line holds it for
  -- its own stop alone
  constructor
  · rintro ⟨ends, mem, holds⟩
    rcases List.mem_append.mp mem with mem | mem
    · obtain ⟨c, stop, rfl⟩ := List.mem_map.mp mem
      rw [(column c).mp holds]
      exact Or.inl ((mem_gridStops_iff positive).mp stop).1
    · obtain ⟨r, stop, rfl⟩ := List.mem_map.mp mem
      rw [(row r).mp holds]
      exact Or.inr ((mem_gridStops_iff positive).mp stop).1
  · rintro (divides | divides)
    · have stop := (mem_gridStops_iff positive).mpr
        ⟨divides, by omega, Int.ofNat_le.mpr hx.le⟩
      exact ⟨_, List.mem_append_left _ (List.mem_map_of_mem stop), (column x).mpr rfl⟩
    · have stop := (mem_gridStops_iff positive).mpr
        ⟨divides, by omega, Int.ofNat_le.mpr hy.le⟩
      exact ⟨_, List.mem_append_right _ (List.mem_map_of_mem stop), (row y).mpr rfl⟩

/-! ## The grid over a screen -/

/-- The ink of a grid, with its strength brought into range. -/
def GridPlan.glaze (plan : GridPlan) (grid : Grid) : Glaze :=
  ⟨grid.color.clip, (max 0 (min 255 plan.strength)).toNat⟩

/-- A screen on whose overlay the lines of a grid have been drawn. -/
def GridPlan.draw (plan : GridPlan) (grid : Grid) (image : Image) : Overlaid :=
  (Overlaid.lay image).strokes (plan.glaze grid) plan.lines

variable {image : Image}

/-- What a grid makes of a pixel. -/
theorem pixel?_over (positive : 1 ≤ grid.spacing) (sized : image.IsSized raster) {x y : Nat}
    (hy : y < raster.height) :
    (plan.over grid image).pixel? x y = (image.pixel? x y).map fun old =>
      if grid.spacing ∣ x ∨ grid.spacing ∣ y then (plan.glaze grid).blend old else old := by
  have inside : (0 : Int) ≤ y ∧ (y : Int) ≤ image.height := by
    rw [sized.height]
    omega
  have onGrid : Image.onGrid grid.spacing.toNat x y = true ↔
      grid.spacing ∣ x ∨ grid.spacing ∣ y := by
    rw [Image.onGrid, Bool.or_eq_true, beq_iff_eq, beq_iff_eq, ← Nat.dvd_iff_mod_eq_zero,
      ← Nat.dvd_iff_mod_eq_zero, ← Int.natCast_dvd_natCast, ← Int.natCast_dvd_natCast,
      Int.toNat_of_nonneg (by omega)]
  rw [GridPlan.over, if_neg (by omega), Image.withGrid, Image.pixel?_mapRows]
  simp only [if_pos inside, onGrid]
  rfl

theorem isSized_over (sized : image.IsSized raster) :
    (plan.over grid image).IsSized raster := by
  rw [GridPlan.over]
  split
  · exact sized
  · exact sized.mapRows ..

/-- **Drawing the lines of a grid on an overlay and looking through it is
blending its pixels.** -/
theorem seen_draw (positive : 1 ≤ grid.spacing) (planned : raster.planGrid grid = .ok plan)
    (sized : image.IsSized raster) (shown : image.IsShown) :
    (plan.draw grid image).seen = plan.over grid image := by
  have untouched : (plan.draw grid image).image = image := Overlaid.strokes_image ..
  have framed : (plan.draw grid image).seen.IsSized raster := by
    rw [Overlaid.seen, untouched]
    exact sized.mapRows ..
  refine framed.ext (isSized_over sized) fun x y hx hy => ?_
  rw [Overlaid.pixel?_seen _ (untouched.symm ▸ sized) x y hy, untouched,
    pixel?_over positive sized hy]
  obtain ⟨old, place⟩ := sized.exists_pixel? hx hy
  rw [place, Option.map_some, Option.map_some, GridPlan.draw, Overlaid.strokes_overlay]
  simp only [exists_line_iff positive planned hx hy]
  split
  · rfl
  · -- off the lines the overlay is as it was laid
    exact congrArg some (Glaze.clear_blend (shown.of_pixel? place))

/-- The grid of the preview can be drawn with any spacing; its ink has the strength 76. -/
theorem planGrid_preview (raster : Raster) {spacing : Int} (nonzero : spacing ≠ 0) :
    raster.planGrid { Grid.preview with spacing } = .ok ⟨raster.gridLines spacing, 76⟩ := by
  have product : Grid.preview.alpha.mul 255 = .ok (.float 76.5) := rfl
  have rounded : (Number.float 76.5).round = .ok 76 := rfl
  exact planGrid_of_round product rounded nonzero

/-- **A grid changes its own pixels, and each once.**  On every screen, whatever its pixels,
and for every positive spacing the grid of the preview can be drawn.  However a grid with a
positive spacing is drawn, drawing its lines on an overlay leaves the pixels of the screen as
they are, and what is seen through the overlay is the screen in which each pixel in a column
or a row at a multiple of the spacing is blended with the ink once, also where two lines
cross, and all other pixels are those of the screen. -/
theorem grid_blends_once (raster : Raster) (image : Image) (sized : image.IsSized raster)
    (shown : image.IsShown) :
    (∀ spacing, 1 ≤ spacing →
      ∃ plan, raster.planGrid { Grid.preview with spacing } = .ok plan ∧ plan.strength = 76) ∧
    ∀ (grid : Grid) (plan : GridPlan), 1 ≤ grid.spacing → raster.planGrid grid = .ok plan →
      (plan.draw grid image).image = image ∧
      (plan.draw grid image).seen = plan.over grid image ∧
      (plan.over grid image).IsSized raster ∧
      ∀ x y, x < raster.width → y < raster.height → ∃ old, image.pixel? x y = some old ∧
        (plan.over grid image).pixel? x y = some
          (if grid.spacing ∣ x ∨ grid.spacing ∣ y then (plan.glaze grid).blend old
            else old) := by
  refine ⟨fun spacing positive => ⟨_, planGrid_preview raster (by omega), rfl⟩, ?_⟩
  intro grid plan positive planned
  refine ⟨Overlaid.strokes_image .., seen_draw positive planned sized shown,
    isSized_over sized, ?_⟩
  intro x y hx hy
  obtain ⟨old, place⟩ := sized.exists_pixel? hx hy
  refine ⟨old, place, ?_⟩
  rw [pixel?_over positive sized hy, place, Option.map_some]

/-- On a screen of three columns and two rows with a spacing of two, the crossing in the
corner is blended once, and the pixel between the lines is left as it is. -/
theorem grid_blends_once_crossing :
    let raster : Raster := ⟨3, 2⟩
    let image : Image := ⟨3, 2, #[#[⟨0, 0, 0⟩, ⟨255, 0, 0⟩, ⟨255, 255, 255⟩],
      #[⟨0, 0, 255⟩, ⟨10, 20, 30⟩, ⟨0, 255, 0⟩]]⟩
    let grid : Grid := { Grid.preview with spacing := 2 }
    let plan : GridPlan := ⟨[(0, 0, 0, 2), (2, 0, 2, 2), (0, 0, 3, 0), (0, 2, 3, 2)], 76⟩
    image.IsSized raster ∧ image.IsShown ∧ 1 ≤ grid.spacing ∧
    raster.planGrid grid = .ok plan ∧
      (plan.draw grid image).seen.pixel? 0 0 = some ⟨30, 30, 30⟩ ∧
      (plan.draw grid image).seen.pixel? 1 1 = some ⟨10, 20, 30⟩ := by
  intro raster image grid plan
  have sized : image.IsSized raster := ⟨rfl, rfl, rfl, by decide⟩
  have shown : image.IsShown := by
    unfold Image.IsShown
    decide
  have lines : raster.gridLines 2 = plan.lines := by decide
  have planned : raster.planGrid grid = .ok plan := by
    rw [planGrid_preview raster (by decide), lines]
  obtain ⟨-, all⟩ := grid_blends_once raster image sized shown
  obtain ⟨-, seen, -, pixels⟩ := all grid plan (by decide) planned
  obtain ⟨corner, here, crossing⟩ := pixels 0 0 (by decide) (by decide)
  obtain ⟨middle, there, between⟩ := pixels 1 1 (by decide) (by decide)
  obtain rfl : ⟨0, 0, 0⟩ = corner := Option.some.inj here
  obtain rfl : ⟨10, 20, 30⟩ = middle := Option.some.inj there
  rw [seen, crossing, between]
  exact ⟨sized, shown, by decide, planned, by decide, by decide⟩

end Raster

end SketchScreen
