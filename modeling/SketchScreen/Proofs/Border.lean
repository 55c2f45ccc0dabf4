import SketchScreen.Proofs.Boxes

/-!
# Borders of Masks

An ellipse that reaches far beyond the screen is outlined by the border of the mask of its
pixels.  The border is computed from four shifted copies of the mask, in which the pixels at
the edge of the screen stand in for those beyond it.  What comes out is the border in the
plain sense: the pixels of the mask that have a neighbour on the screen outside of it.  A mask
that is neither full nor empty has such a pixel, so an outline is never lost.

## Main Definitions

- `Mask.AreNeighbours`: pixels above, below or beside each other.
- `Mask.Shows`: the pixels of the screen of a mask.
- `Mask.IsEdge`: a pixel of a mask with a neighbour on the screen outside of it.

## Design Notes

Without a border the mask does not change from a pixel to its neighbour
(`inside_eq_of_areNeighbours`).  The way from any pixel to the corner of the screen goes
along its row first and along the column of the corner then, so all pixels are as the corner
is (`inside_eq_corner`).
-/

namespace SketchScreen

namespace Mask

/-- Pixels one above the other or one beside the other. -/
def AreNeighbours (p q : Nat × Nat) : Prop :=
  p.1 = q.1 ∧ (p.2 + 1 = q.2 ∨ q.2 + 1 = p.2) ∨ p.2 = q.2 ∧ (p.1 + 1 = q.1 ∨ q.1 + 1 = p.1)

/-- The pixels of the screen of a mask. -/
def Shows (mask : Mask) (p : Nat × Nat) : Prop := p.1 < mask.width ∧ p.2 < mask.height

/-- A pixel of a mask that has a neighbour on the screen outside of it. -/
def IsEdge (mask : Mask) (i j : Nat) : Prop :=
  mask.inside i j = true ∧
    ∃ q, AreNeighbours (i, j) q ∧ mask.Shows q ∧ mask.inside q.1 q.2 = false

variable {mask : Mask} {i j : Nat}

/-! ## One pixel -/

/-- A pixel of a mask is in its interior exactly if all its neighbours on the
screen are in the mask. -/
theorem isInterior_iff (hi : i < mask.width) (hj : j < mask.height)
    (inside : mask.inside i j = true) :
    mask.isInterior i j = true ↔
      ∀ q, AreNeighbours (i, j) q → mask.Shows q → mask.inside q.1 q.2 = true := by
  simp only [isInterior, Bool.and_eq_true, and_assoc]
  constructor
  · rintro ⟨above, below, left, right⟩ ⟨k, l⟩ near ⟨hk, hl⟩
    simp only [AreNeighbours] at near hk hl ⊢
    obtain ⟨rfl, rfl | rfl⟩ | ⟨rfl, rfl | rfl⟩ := near
    · rwa [min_eq_left (by omega)] at below
    · exact above
    · rwa [min_eq_left (by omega)] at right
    · exact left
  · intro full
    -- a neighbour beyond the edge of the screen is the pixel itself
    have near : ∀ k l, k < mask.width → l < mask.height →
        (k, l) = (i, j) ∨ AreNeighbours (i, j) (k, l) → mask.inside k l = true := by
      rintro k l hk hl (same | near)
      · cases same
        exact inside
      · exact full (k, l) near ⟨hk, hl⟩
    simp only [AreNeighbours, Prod.mk.injEq] at near
    exact ⟨near _ _ hi (by omega) (by omega), near _ _ hi (by omega) (by omega),
      near _ _ (by omega) hj (by omega), near _ _ (by omega) hj (by omega)⟩

/-- **The border holds the edges of a mask.** -/
theorem border_inside_iff (hi : i < mask.width) (hj : j < mask.height) :
    mask.border.inside i j = true ↔ mask.IsEdge i j := by
  show (mask.inside i j && !mask.isInterior i j) = true ↔ _
  rw [Bool.and_eq_true, Bool.not_eq_true', ← Bool.not_eq_true]
  refine and_congr_right fun inside => ?_
  rw [isInterior_iff hi hj inside]
  push Not
  simp only [Bool.not_eq_true]

/-! ## The whole screen -/

/-- Without an edge, a mask does not change from a pixel to its neighbour. -/
theorem inside_eq_of_areNeighbours
    (none : ∀ i j, i < mask.width → j < mask.height → ¬ mask.IsEdge i j) {p q : Nat × Nat}
    (hp : mask.Shows p) (hq : mask.Shows q) (near : AreNeighbours p q) :
    mask.inside p.1 p.2 = mask.inside q.1 q.2 := by
  have crosses : ∀ p q, mask.Shows p → mask.Shows q → AreNeighbours p q →
      mask.inside p.1 p.2 = true → mask.inside q.1 q.2 = true := by
    intro p q hp hq near inside
    by_contra outside
    exact none p.1 p.2 hp.1 hp.2 ⟨inside, q, near, hq, Bool.not_eq_true _ ▸ outside⟩
  have back : AreNeighbours q p := by
    simp only [AreNeighbours] at near ⊢
    omega
  exact Bool.eq_iff_iff.mpr ⟨crosses p q hp hq near, crosses q p hq hp back⟩

/-- Without an edge, every pixel is as the corner of the screen is. -/
theorem inside_eq_corner (none : ∀ i j, i < mask.width → j < mask.height → ¬ mask.IsEdge i j)
    (hi : i < mask.width) (hj : j < mask.height) : mask.inside i j = mask.inside 0 0 := by
  have row : ∀ i, i < mask.width → mask.inside i j = mask.inside 0 j := by
    intro i hi
    induction i with
    | zero => rfl
    | succ i ih =>
        rw [← ih (by omega)]
        exact inside_eq_of_areNeighbours none (p := (i + 1, j)) (q := (i, j)) ⟨hi, hj⟩
          ⟨by omega, hj⟩ (.inr ⟨rfl, .inr rfl⟩)
  have column : ∀ j, j < mask.height → mask.inside 0 j = mask.inside 0 0 := by
    intro j hj
    induction j with
    | zero => rfl
    | succ j ih =>
        rw [← ih (by omega)]
        exact inside_eq_of_areNeighbours none (p := (0, j + 1)) (q := (0, j)) ⟨by omega, hj⟩
          ⟨by omega, by omega⟩ (.inl ⟨rfl, .inr rfl⟩)
  exact (row i hi).trans (column j hj)

/-- **Only a full and an empty mask have no edge.** -/
theorem no_edge_iff : (∀ i j, i < mask.width → j < mask.height → ¬ mask.IsEdge i j) ↔
    (∀ i j, i < mask.width → j < mask.height → mask.inside i j = true) ∨
      ∀ i j, i < mask.width → j < mask.height → mask.inside i j = false := by
  constructor
  · intro none
    cases corner : mask.inside 0 0 with
    | true => exact .inl fun i j hi hj => (inside_eq_corner none hi hj).trans corner
    | false => exact .inr fun i j hi hj => (inside_eq_corner none hi hj).trans corner
  · rintro constant i j hi hj ⟨inside, q, -, ⟨hk, hl⟩, outside⟩
    rcases constant with full | empty
    · exact absurd (full _ _ hk hl) (Bool.eq_false_iff.mp outside)
    · exact absurd inside (Bool.eq_false_iff.mp (empty _ _ hi hj))

/-! ## Painting -/

/-- The region of a mask holds its pixels. -/
theorem holds_region (hi : i < mask.width) (hj : j < mask.height) :
    mask.region.holds i j = mask.inside i j := by
  have column : (i : Int) ≤ mask.width := by omega
  have row : (j : Int) ≤ mask.height := by omega
  simp [Region.holds, region, column, row]

/-- Painting the border of a mask gives the ink to its edges and to no other pixel. -/
theorem pixel?_paint_border {raster : Raster} {image : Image} (sized : image.IsSized raster)
    (hwidth : mask.width = raster.width) (hheight : mask.height = raster.height)
    (hi : i < raster.width) (hj : j < raster.height) (ink : Color) :
    (mask.IsEdge i j → (image.paint mask.border.region ink).pixel? i j = some ink.clip) ∧
      (¬ mask.IsEdge i j →
        (image.paint mask.border.region ink).pixel? i j = image.pixel? i j) := by
  obtain ⟨old, shown⟩ := sized.exists_pixel? hi hj
  rw [← hwidth] at hi
  rw [← hheight] at hj
  have holds : mask.border.region.holds i j = mask.border.inside i j := holds_region hi hj
  rw [Image.pixel?_paint, shown, Option.map_some, holds, ← border_inside_iff hi hj]
  exact ⟨fun edge => by rw [if_pos edge], fun noEdge => by rw [if_neg noEdge]⟩

end Mask

namespace Raster

variable {raster : Raster} {center : Point Number} {rx ry : Number} {mask : Mask}

/-- The mask that an ellipse is drawn by is that of its float coordinates. -/
theorem exists_ellipse_of_masked
    (planned : raster.planEllipse center rx ry = .ok (.masked mask)) :
    ∃ cx cy a b, center.x.toFloat = .ok cx ∧ center.y.toFloat = .ok cy ∧ rx.toFloat = .ok a ∧
      ry.toFloat = .ok b ∧ mask = .ellipse raster.width raster.height ⟨cx, cy⟩ a b := by
  obtain ⟨finite, -, planned⟩ := exists_of_bind_eq_ok planned
  split at planned
  · split at planned
    · cases planned
    · obtain ⟨beside, -, planned⟩ := exists_of_bind_eq_ok planned
      split at planned
      · cases planned
      · obtain ⟨near, -, planned⟩ := exists_of_bind_eq_ok planned
        split at planned
        · obtain ⟨left, -, planned⟩ := exists_of_bind_eq_ok planned
          obtain ⟨top, -, planned⟩ := exists_of_bind_eq_ok planned
          obtain ⟨right, -, planned⟩ := exists_of_bind_eq_ok planned
          obtain ⟨bottom, -, planned⟩ := exists_of_bind_eq_ok planned
          cases planned
        · obtain ⟨made, masked, planned⟩ := exists_of_bind_eq_ok planned
          cases planned
          obtain ⟨cx, hcx, masked⟩ := exists_of_bind_eq_ok masked
          obtain ⟨cy, hcy, masked⟩ := exists_of_bind_eq_ok masked
          obtain ⟨a, ha, masked⟩ := exists_of_bind_eq_ok masked
          obtain ⟨b, hb, masked⟩ := exists_of_bind_eq_ok masked
          cases masked
          exact ⟨cx, cy, a, b, hcx, hcy, ha, hb, rfl⟩
  · cases planned

/-- The mask of an ellipse is as large as the screen. -/
theorem size_of_masked (planned : raster.planEllipse center rx ry = .ok (.masked mask)) :
    mask.width = raster.width ∧ mask.height = raster.height := by
  obtain ⟨cx, cy, a, b, -, -, -, -, rfl⟩ := exists_ellipse_of_masked planned
  exact ⟨rfl, rfl⟩

/-- The outline of an ellipse that is masked is the border of the mask. -/
theorem draw_drawEllipse_of_masked (hwidth : 1 ≤ raster.width) (hheight : 1 ≤ raster.height)
    (planned : raster.planEllipse center rx ry = .ok (.masked mask)) (ink : Color)
    (screen : Screen) :
    raster.surface.draw (.drawEllipse center rx ry ink) screen
      = (screen.request (.paint mask.border ink), none) := by
  have outlined : raster.plan (.drawEllipse center rx ry ink)
      = .ok (some (.paint mask.border ink)) := by
    rw [plan, planDrawEllipse, planned]
    show (if raster.height = 0 then _ else if raster.width = 0 then _ else _) = _
    rw [if_neg (by omega), if_neg (by omega)]
    rfl
  show raster.draw _ screen = _
  rw [draw, outlined]

end Raster

/-- **The outline of a large ellipse is a true boundary.**  Take any screen that has pixels,
any image on it and any ink.  First, let there be any mask of the size of the screen, and let
its border be painted as outlines of ellipses are.  The pixels that get the ink are the pixels
of the mask with a neighbour above, below, to the left or to the right that is on the screen
and not in the mask, and all others stay as they are.  There is no such pixel exactly if the
mask is full or empty.  Second, an ellipse that is drawn by its mask has a mask of the size of
the screen, and its outline is painted in this way, whatever has been asked of the screen
before; so if some pixels are inside the ellipse and some are not, then some get the ink. -/
theorem drawEllipse_paints_border (raster : Raster) (hwidth : 1 ≤ raster.width)
    (hheight : 1 ≤ raster.height) (image : Image) (sized : image.IsSized raster)
    (ink : Color) :
    (∀ mask : Mask, mask.width = raster.width → mask.height = raster.height →
      ∃ painted, Request.apply? image (.paint mask.border ink) = some painted ∧
        painted.IsSized raster ∧
        (∀ i j, i < raster.width → j < raster.height →
          (mask.IsEdge i j → painted.pixel? i j = some ink.clip) ∧
          (¬ mask.IsEdge i j → painted.pixel? i j = image.pixel? i j)) ∧
        ((∀ i j, i < raster.width → j < raster.height → ¬ mask.IsEdge i j) ↔
          (∀ i j, i < raster.width → j < raster.height → mask.inside i j = true) ∨
            ∀ i j, i < raster.width → j < raster.height → mask.inside i j = false)) ∧
    ∀ (center : Point Number) (rx ry : Number) (mask : Mask),
      raster.planEllipse center rx ry = .ok (.masked mask) →
        mask.width = raster.width ∧ mask.height = raster.height ∧
        (∀ screen, raster.surface.draw (.drawEllipse center rx ry ink) screen
          = (screen.request (.paint mask.border ink), none)) ∧
        ∃ painted, raster.Paints (.drawEllipse center rx ry ink) image painted ∧
          Request.apply? image (.paint mask.border ink) = some painted ∧
          ((∃ i j, i < raster.width ∧ j < raster.height ∧ mask.inside i j = true) →
            (∃ i j, i < raster.width ∧ j < raster.height ∧ mask.inside i j = false) →
            ∃ i j, i < raster.width ∧ j < raster.height ∧ mask.IsEdge i j ∧
              painted.pixel? i j = some ink.clip) := by
  constructor
  · intro mask sameWidth sameHeight
    refine ⟨image.paint mask.border.region ink, rfl, sized.paint _ ink,
      fun i j hi hj => ?_, ?_⟩
    · exact Mask.pixel?_paint_border sized sameWidth sameHeight hi hj ink
    · rw [← sameWidth, ← sameHeight]
      exact Mask.no_edge_iff
  · intro center rx ry mask planned
    obtain ⟨sameWidth, sameHeight⟩ := Raster.size_of_masked planned
    have drawn := Raster.draw_drawEllipse_of_masked hwidth hheight planned ink
    refine ⟨sameWidth, sameHeight, drawn, image.paint mask.border.region ink, ?_, rfl, ?_⟩
    · intro requests
      exact ⟨_, drawn _⟩
    · rintro ⟨i, j, hi, hj, inside⟩ ⟨k, l, hk, hl, outside⟩
      rw [← sameWidth] at hi hk
      rw [← sameHeight] at hj hl
      have edges : ¬ ∀ i j, i < mask.width → j < mask.height → ¬ mask.IsEdge i j := by
        rw [Mask.no_edge_iff]
        rintro (full | empty)
        · exact absurd (full k l hk hl) (Bool.eq_false_iff.mp outside)
        · exact absurd inside (Bool.eq_false_iff.mp (empty i j hi hj))
      push Not at edges
      obtain ⟨i, j, hi, hj, edge⟩ := edges
      rw [sameWidth] at hi
      rw [sameHeight] at hj
      exact ⟨i, j, hi, hj, edge,
        (Mask.pixel?_paint_border sized sameWidth sameHeight hi hj ink).1 edge⟩

/-- A circle far below a screen of nine pixels reaches into its lower two rows; the upper one
of these is the outline. -/
theorem drawEllipse_paints_border_circle :
    let raster : Raster := ⟨3, 3⟩
    let image := Image.blank 3 3 .black
    let circle : Primitive := .drawEllipse ⟨.int 0, .int 30⟩ (.int 29) (.int 29) .white
    1 ≤ raster.width ∧ 1 ≤ raster.height ∧ image.IsSized raster ∧
      ∃ mask painted, raster.planEllipse ⟨.int 0, .int 30⟩ (.int 29) (.int 29)
        = .ok (.masked mask) ∧
        mask.inside 1 0 = false ∧ mask.inside 1 1 = true ∧
        raster.Paints circle image painted ∧
        painted.pixel? 1 1 = some .white ∧ painted.pixel? 1 2 = some .black := by
  intro raster image circle
  have sized : image.IsSized raster := Image.isSized_blank raster .black
  have planned : raster.planEllipse ⟨.int 0, .int 30⟩ (.int 29) (.int 29)
      = .ok (.masked (.ellipse 3 3 ⟨0, 30⟩ 29 29)) := by rfl
  have rows : ∀ i < 3, ∀ j < 3, (Mask.ellipse 3 3 ⟨0, 30⟩ 29 29).inside i j
      = decide (j ≠ 0) := by
    decide +kernel
  obtain ⟨masks, ellipses⟩ :=
    drawEllipse_paints_border raster (by decide) (by decide) image sized .white
  obtain ⟨-, -, -, painted, paints, applied, -⟩ := ellipses _ _ _ _ planned
  obtain ⟨painted', applied', -, pixels, -⟩ := masks (.ellipse 3 3 ⟨0, 30⟩ 29 29) rfl rfl
  cases applied.symm.trans applied'
  refine ⟨by decide, by decide, sized, _, painted, planned, rows 1 (by decide) 0 (by decide),
    rows 1 (by decide) 1 (by decide), paints, ?_, ?_⟩
  · refine (pixels 1 1 (by decide) (by decide)).1
      ⟨rows 1 (by decide) 1 (by decide), (1, 0), ?_⟩
    exact ⟨.inl ⟨rfl, .inr rfl⟩, ⟨by decide, by decide⟩, rows 1 (by decide) 0 (by decide)⟩
  · refine ((pixels 1 2 (by decide) (by decide)).2 ?_).trans (by decide)
    rintro ⟨-, ⟨k, l⟩, near, ⟨hk, hl⟩, outside⟩
    change (Mask.ellipse 3 3 ⟨0, 30⟩ 29 29).inside k l = false at outside
    rw [rows k hk l hl, decide_eq_false_iff_not, not_not] at outside
    simp only [Mask.AreNeighbours] at near
    omega

end SketchScreen
