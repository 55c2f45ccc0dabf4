import SketchScreen.Proofs.Border
import SketchScreen.Proofs.Outline

/-!
# Ellipses on the Screen

An ellipse whose box lies beside the screen is left out without a look at its pixels, and one
that reaches far beyond the screen is drawn pixel by pixel.  Computed with exact fractions,
both are right: what is left out has no pixel on the screen, and an ellipse that holds the
four pixels at the corners of the screen holds all of them, so that filling it fills the
screen and its outline does not show.

## Main Definitions

- `Geometry.HoldsCentre`: the centre of a pixel lies in an ellipse.
- `Mask.inEllipse`: the pixels whose centres lie in an ellipse, in any
  arithmetic that does not fail.

## Design Notes

The mask that large ellipses are drawn by is `Mask.inEllipse` in the arithmetic of floats
(`Mask.inside_ellipse`).  Here it is looked at in the arithmetic of exact fractions.

The distance of a column from the centre is largest at one end of the screen, and
so is that of a row; an ellipse is told by the sum of the two, so it is enough to
look at the four corners.
-/

namespace SketchScreen

namespace Geometry

/-- The centre of the pixel in column `i` and row `j` lies in an ellipse. -/
def HoldsCentre (center : Point ℚ) (rx ry : ℚ) (i j : ℕ) : Prop :=
  ((i + 1 / 2 - center.x) / rx) ^ 2 + ((j + 1 / 2 - center.y) / ry) ^ 2 ≤ 1

/-! ## Exact fractions -/

theorem ellipseTerm_eq (c r : ℚ) (i : ℕ) :
    Id.run (ellipseTerm c r i) = ((i + 1 / 2 - c) / r) ^ 2 := by
  rw [sq]
  show ((((i : ℤ) : ℚ) + ((1 : ℤ) : ℚ) / ((2 : ℤ) : ℚ) - c) / r)
    * ((((i : ℤ) : ℚ) + ((1 : ℤ) : ℚ) / ((2 : ℤ) : ℚ) - c) / r) = _
  norm_num

theorem insideEllipse_iff (center : Point ℚ) (rx ry : ℚ) (i j : ℕ) :
    Id.run (insideEllipse center rx ry i j) = true ↔ HoldsCentre center rx ry i j := by
  show decide (Id.run (ellipseTerm center.x rx i) + Id.run (ellipseTerm center.y ry j)
    ≤ ((1 : ℤ) : ℚ)) = true ↔ _
  rw [decide_eq_true_eq, ellipseTerm_eq, ellipseTerm_eq, Int.cast_one]
  rfl

theorem offScreen_iff (center : Point ℚ) (rx ry width height : ℚ) :
    Id.run (offScreen center rx ry width height) = true ↔
      (center.x + rx < 0 ∨ width < center.x - rx) ∨ center.y + ry < 0 ∨
      height < center.y - ry := by
  show (decide (center.x + rx < ((0 : ℤ) : ℚ)) || decide (center.y + ry < ((0 : ℤ) : ℚ))
    || decide (width < center.x - rx) || decide (height < center.y - ry)) = true ↔ _
  simp only [Bool.or_eq_true, decide_eq_true_eq, Int.cast_zero]
  tauto

/-! ## One direction -/

section Direction

variable {c r : ℚ} {i size : ℕ}

/-- A pixel is further away than the radius if the interval around the centre
lies beside the screen. -/
theorem one_lt_sq_of_beside (pos : 0 < r) (hi : i < size)
    (beside : c + r < 0 ∨ size < c - r) : 1 < ((i + 1 / 2 - c) / r) ^ 2 := by
  have low : (0 : ℚ) ≤ i := Nat.cast_nonneg i
  have high : (i : ℚ) + 1 ≤ size := by exact_mod_cast hi
  rw [one_lt_sq_iff_one_lt_abs, abs_div, abs_of_pos pos, one_lt_div pos, lt_abs]
  rcases beside with left | right
  · exact .inl (by linarith)
  · exact .inr (by linarith)

/-- No pixel is further away than the further one of those at the two ends of the screen. -/
theorem exists_end_sq_le (c r : ℚ) (hi : i < size) :
    ∃ e ∈ [0, size - 1], ((i + 1 / 2 - c) / r) ^ 2 ≤ (((e : ℕ) + 1 / 2 - c) / r) ^ 2 := by
  have low : (0 : ℚ) ≤ i := Nat.cast_nonneg i
  have high : (i : ℚ) ≤ ((size - 1 : ℕ) : ℚ) := by exact_mod_cast (by omega : i ≤ size - 1)
  simp only [div_pow]
  rcases le_total (i + 1 / 2 : ℚ) c with left | right
  · refine ⟨0, by simp, div_le_div_of_nonneg_right ?_ (sq_nonneg r)⟩
    rw [sq_le_sq, abs_of_nonpos (by linarith), abs_of_nonpos (by push_cast; linarith),
      neg_le_neg_iff]
    push_cast
    linarith
  · refine ⟨size - 1, by simp, div_le_div_of_nonneg_right ?_ (sq_nonneg r)⟩
    rw [sq_le_sq, abs_of_nonneg (by linarith), abs_of_nonneg (by linarith)]
    linarith

end Direction

/-! ## Both directions -/

variable {center : Point ℚ} {rx ry : ℚ} {width height i j : ℕ}

/-- **What is beside the screen has no pixel on it.** -/
theorem not_holdsCentre_of_offScreen (hrx : 0 < rx) (hry : 0 < ry)
    (beside : Id.run (offScreen center rx ry width height) = true) (hi : i < width)
    (hj : j < height) : ¬ HoldsCentre center rx ry i j := by
  have across := sq_nonneg ((i + 1 / 2 - center.x) / rx)
  have down := sq_nonneg ((j + 1 / 2 - center.y) / ry)
  rw [HoldsCentre, not_le]
  rcases (offScreen_iff ..).mp beside with columns | rows
  · have := one_lt_sq_of_beside hrx hi columns
    linarith
  · have := one_lt_sq_of_beside hry hj rows
    linarith

/-- **What holds the corners of the screen holds all of it.** -/
theorem holdsCentre_of_corners
    (corners : ∀ k ∈ [0, width - 1], ∀ l ∈ [0, height - 1], HoldsCentre center rx ry k l)
    (hi : i < width) (hj : j < height) : HoldsCentre center rx ry i j := by
  obtain ⟨k, hk, across⟩ := exists_end_sq_le center.x rx hi
  obtain ⟨l, hl, down⟩ := exists_end_sq_le center.y ry hj
  have corner := corners k hk l hl
  rw [HoldsCentre] at corner ⊢
  linarith

end Geometry

open SketchScreen.Geometry (HoldsCentre offScreen)

namespace Mask

/-- The pixels of a screen whose centres lie in an ellipse, in any arithmetic
that does not fail. -/
def inEllipse {α : Type} [Arithmetic Id α] (raster : Raster) (center : Point α) (rx ry : α) :
    Mask :=
  ⟨raster.width, raster.height, fun i j => Id.run (Geometry.insideEllipse center rx ry i j)⟩

variable {raster : Raster} {i j : Nat}

/-- The mask that large ellipses are drawn by holds the pixels whose centres lie in the
ellipse, as floats tell. -/
theorem inside_ellipse (center : Point Float) (rx ry : Float) (hi : i < raster.width)
    (hj : j < raster.height) :
    (ellipse raster.width raster.height center rx ry).inside i j
      = (inEllipse raster center rx ry).inside i j := by
  have unit : Number.Binary.nearest (decide ((1 : Int) < 0)) (1 : Int).natAbs 1 = 1.0 := by
    decide +kernel
  simp only [ellipse, Array.getElem?_ofFn, hi, hj, dite_true]
  show _ = decide (Id.run (Geometry.ellipseTerm center.x rx i)
    + Id.run (Geometry.ellipseTerm center.y ry j)
      ≤ Number.Binary.nearest (decide ((1 : Int) < 0)) (1 : Int).natAbs 1)
  rw [unit]

theorem inside_inEllipse_iff {center : Point ℚ} {rx ry : ℚ} :
    (inEllipse raster center rx ry).inside i j = true ↔ HoldsCentre center rx ry i j :=
  Geometry.insideEllipse_iff center rx ry i j

/-- Painting a mask that is full fills the screen. -/
theorem pixel?_paint_of_full {mask : Mask} {image : Image} (sized : image.IsSized raster)
    (hwidth : mask.width = raster.width) (hheight : mask.height = raster.height)
    (full : ∀ i j, i < raster.width → j < raster.height → mask.inside i j = true)
    (hi : i < raster.width) (hj : j < raster.height) (ink : Color) :
    (image.paint mask.region ink).pixel? i j = some ink.clip := by
  obtain ⟨old, shown⟩ := sized.exists_pixel? hi hj
  have holds := @holds_region mask i j (hwidth ▸ hi) (hheight ▸ hj)
  rw [Image.pixel?_paint, shown, Option.map_some, holds, full i j hi hj, if_pos rfl]

/-- Painting the border of a mask that is full changes nothing. -/
theorem paint_border_of_full {mask : Mask} {image : Image} (sized : image.IsSized raster)
    (hwidth : mask.width = raster.width) (hheight : mask.height = raster.height)
    (full : ∀ i j, i < raster.width → j < raster.height → mask.inside i j = true)
    (ink : Color) : image.paint mask.border.region ink = image := by
  have noEdge : ∀ i j, i < mask.width → j < mask.height → ¬ mask.IsEdge i j := by
    rw [no_edge_iff, hwidth, hheight]
    exact .inl full
  refine (sized.paint _ ink).ext sized fun i j hi hj => ?_
  exact (pixel?_paint_border sized hwidth hheight hi hj ink).2
    (noEdge i j (hwidth ▸ hi) (hheight ▸ hj))

end Mask

/-- With integers, what a plan leaves out lies beside the screen by exact fractions too. -/
theorem Raster.offScreen_of_nothing {raster : Raster} (modest : raster.IsModest)
    {cx cy rx ry : Int} (within : ∀ n ∈ [cx, cy, rx, ry], (Number.int n).IsWithin 1000)
    (hrx : 0 < rx) (hry : 0 < ry)
    (nothing : raster.planEllipse ⟨.int cx, .int cy⟩ (.int rx) (.int ry) = .ok .nothing) :
    Id.run (offScreen (⟨cx, cy⟩ : Point ℚ) rx ry raster.width raster.height) = true := by
  obtain ⟨plan, planned, -, drawn⟩ := exists_planEllipse modest within (by decide)
  cases nothing.symm.trans planned
  have misses : raster.Misses (.around cx cy rx ry) := by
    by_contra shows
    exact drawn hrx hry shows rfl
  rw [Geometry.offScreen_iff]
  show ((cx : ℚ) + rx < 0 ∨ (raster.width : ℚ) < cx - rx) ∨
    (cy : ℚ) + ry < 0 ∨ (raster.height : ℚ) < cy - ry
  rcases misses with right | bottom | left | top
  · exact .inl (.inl (by exact_mod_cast right))
  · exact .inr (.inl (by exact_mod_cast bottom))
  · exact .inl (.inr (by exact_mod_cast left))
  · exact .inr (.inr (by exact_mod_cast top))

/-- **Leaving out an ellipse beside the screen loses no pixel, and one that covers the screen
has no outline.**  Take any screen and any ellipse with an area, and compute with exact
fractions.  If the test whether the ellipse lies beside the screen says so, then no pixel of
the screen has its centre in the ellipse, and the mask of the ellipse is empty.  If the
centres of the four pixels at the corners of the screen lie in the ellipse, then so do all,
the mask is full, and on any image filling the ellipse by its mask gives every pixel the ink,
while drawing its outline by its mask changes nothing.

The same mask, computed with floats, is the one that large ellipses are drawn by.  With
integers, an ellipse that is left out lies beside the screen by exact fractions too. -/
theorem ellipse_beside_or_covering (raster : Raster) (center : Point ℚ) (rx ry : ℚ)
    (hrx : 0 < rx) (hry : 0 < ry) :
    (Id.run (offScreen center rx ry raster.width raster.height) = true →
      ∀ i j, i < raster.width → j < raster.height →
        ¬ HoldsCentre center rx ry i j ∧
        (Mask.inEllipse raster center rx ry).inside i j = false) ∧
    ((∀ i ∈ [0, raster.width - 1], ∀ j ∈ [0, raster.height - 1],
      HoldsCentre center rx ry i j) →
      (∀ i j, i < raster.width → j < raster.height →
        (Mask.inEllipse raster center rx ry).inside i j = true) ∧
      ∀ (image : Image) (ink : Color), image.IsSized raster →
        (∃ filled, Request.apply? image (.paint (Mask.inEllipse raster center rx ry) ink)
            = some filled ∧
          ∀ i j, i < raster.width → j < raster.height → filled.pixel? i j = some ink.clip) ∧
        Request.apply? image (.paint (Mask.inEllipse raster center rx ry).border ink)
          = some image) ∧
    (∀ (middle : Point Number) (a b : Number) (mask : Mask),
      raster.planEllipse middle a b = .ok (.masked mask) →
      ∃ x y s t, middle.x.toFloat = .ok x ∧ middle.y.toFloat = .ok y ∧ a.toFloat = .ok s ∧
        b.toFloat = .ok t ∧ ∀ i j, i < raster.width → j < raster.height →
          mask.inside i j = (Mask.inEllipse raster ⟨x, y⟩ s t).inside i j) ∧
    (∀ x y a b : Int, raster.IsModest → (∀ n ∈ [x, y, a, b], (Number.int n).IsWithin 1000) →
      0 < a → 0 < b → raster.planEllipse ⟨.int x, .int y⟩ (.int a) (.int b) = .ok .nothing →
      Id.run (offScreen (⟨x, y⟩ : Point ℚ) a b raster.width raster.height) = true) := by
  refine ⟨fun beside i j hi hj => ?_, fun corners => ?_, fun middle a b mask planned => ?_,
    fun x y a b modest within ha hb => Raster.offScreen_of_nothing modest within ha hb⟩
  · have outside := Geometry.not_holdsCentre_of_offScreen hrx hry beside hi hj
    exact ⟨outside, Bool.eq_false_iff.mpr fun inside =>
      outside (Mask.inside_inEllipse_iff.mp inside)⟩
  · have full : ∀ i j, i < raster.width → j < raster.height →
        (Mask.inEllipse raster center rx ry).inside i j = true := fun i j hi hj =>
      Mask.inside_inEllipse_iff.mpr (Geometry.holdsCentre_of_corners corners hi hj)
    refine ⟨full, fun image ink sized => ⟨⟨_, rfl, fun i j hi hj => ?_⟩, ?_⟩⟩
    · exact Mask.pixel?_paint_of_full sized rfl rfl full hi hj ink
    · exact congrArg some (Mask.paint_border_of_full sized rfl rfl full ink)
  · obtain ⟨x, y, s, t, hx, hy, hs, ht, rfl⟩ := Raster.exists_ellipse_of_masked planned
    exact ⟨x, y, s, t, hx, hy, hs, ht, fun i j hi hj => Mask.inside_ellipse _ s t hi hj⟩

/-- A circle that covers a screen of twelve pixels. -/
theorem ellipse_beside_or_covering_circle :
    let raster : Raster := ⟨4, 3⟩
    let image := Image.blank 4 3 .black
    (0 : ℚ) < 5 / 2 ∧
      (∀ i ∈ [0, raster.width - 1], ∀ j ∈ [0, raster.height - 1],
        HoldsCentre ⟨2, 1⟩ (5 / 2) (5 / 2) i j) ∧
      ∃ filled, Request.apply? image
        (.paint (Mask.inEllipse raster ⟨(2 : ℚ), 1⟩ (5 / 2) (5 / 2)) .white)
          = some filled ∧ filled.pixel? 3 2 = some .white ∧
        Request.apply? image
          (.paint (Mask.inEllipse raster ⟨(2 : ℚ), 1⟩ (5 / 2) (5 / 2)).border .white)
          = some image := by
  intro raster image
  have radius : (0 : ℚ) < 5 / 2 := by norm_num
  have corners : ∀ i ∈ [0, raster.width - 1], ∀ j ∈ [0, raster.height - 1],
      HoldsCentre ⟨2, 1⟩ (5 / 2) (5 / 2) i j := by
    simp only [raster, HoldsCentre, List.forall_mem_cons, List.not_mem_nil, false_imp_iff,
      implies_true, and_true]
    norm_num
  obtain ⟨-, covering, -⟩ :=
    ellipse_beside_or_covering raster ⟨2, 1⟩ (5 / 2) (5 / 2) radius radius
  obtain ⟨⟨filled, painted, pixels⟩, unchanged⟩ :=
    (covering corners).2 image .white (Image.isSized_blank raster .black)
  exact ⟨radius, corners, filled, painted, pixels 3 2 (by decide) (by decide), unchanged⟩

end SketchScreen
