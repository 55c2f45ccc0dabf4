import SketchScreen.Proofs.Painter
import SketchScreen.Proofs.Rectangles

/-!
# Filled Rectangles

A filled rectangle with corners at integers paints the pixels between its sides: those at the
left and at the top belong to it, those at the right and at the bottom do not.  So a rectangle
may be turned around or be cut into two, and the screen shows no difference.

## Main Definitions

- `Rect.Splits`: a rectangle of which every cell is in one of two others, and in one only.

## Design Notes

An image is known by its pixels, so what a primitive paints is known once it is known
what it does to each pixel (`Raster.paints_fillRect`).  The rest is about cells of
rectangles, and not about screens.
-/

namespace SketchScreen

/-! ## Cells of rectangles -/

namespace Rect

/-- Every cell of a rectangle is a cell of one of two others, and of one only. -/
def Splits (whole first second : Rect Int) : Prop :=
  ∀ i j, (whole.HoldsCell i j ↔ first.HoldsCell i j ∨ second.HoldsCell i j) ∧
    ¬ (first.HoldsCell i j ∧ second.HoldsCell i j)

variable {x y w h : Int}

/-- A rectangle may be given from either of two opposite corners. -/
theorem ofSides_turned (x y w h : Int) :
    ofSides (x + w) (y + h) (-w) (-h) = ofSides x y w h := by
  rw [ofSides, ofSides, add_neg_cancel_right, add_neg_cancel_right, min_comm (x + w),
    min_comm (y + h), max_comm (x + w), max_comm (y + h)]

theorem holdsCell_ofSides_iff {i j : Int} : (ofSides x y w h).HoldsCell i j ↔
    (min x (x + w) ≤ i ∧ i < max x (x + w)) ∧ min y (y + h) ≤ j ∧ j < max y (y + h) :=
  Iff.rfl

theorem not_holdsCell_of_empty (empty : w = 0 ∨ h = 0) (i j : Int) :
    ¬ (ofSides x y w h).HoldsCell i j := by
  rw [holdsCell_ofSides_iff]
  omega

theorem splits_at_column {c : Int} (low : min x (x + w) ≤ c) (high : c ≤ max x (x + w)) :
    (ofSides x y w h).Splits (ofSides x y (c - x) h) (ofSides c y (x + w - c) h) := by
  intro i j
  simp only [holdsCell_ofSides_iff]
  omega

theorem splits_at_row {c : Int} (low : min y (y + h) ≤ c) (high : c ≤ max y (y + h)) :
    (ofSides x y w h).Splits (ofSides x y w (c - y)) (ofSides x c w (y + h - c)) := by
  intro i j
  simp only [holdsCell_ofSides_iff]
  omega

end Rect

/-- The far end of a range, the range turned around, and a place in it with its distances from
both ends take hardly more bits than the range does. -/
theorem Number.isWithin_range {k : Nat} {x w : Int} (hx : (int x).IsWithin k)
    (hw : (int w).IsWithin k) :
    (int (x + w)).IsWithin (k + 2) ∧ (int (-w)).IsWithin (k + 2) ∧
      ∀ c : Int, Min.min x (x + w) ≤ c → c ≤ Max.max x (x + w) → (int c).IsWithin (k + 2) ∧
        (int (c - x)).IsWithin (k + 2) ∧ (int (x + w - c)).IsWithin (k + 2) := by
  simp only [IsWithin, pow_add] at *
  refine ⟨by omega, by omega, fun c low high => ?_⟩
  omega

/-! ## Pixels of rectangles -/

section Pixels

variable {raster : Raster} {rect : Rect Int} {ink : Color}
  {image between painted other : Image}

theorem Image.Inked.unique (h : image.Inked raster rect ink painted)
    (h' : image.Inked raster rect ink other) : painted = other :=
  h.sized.ext h'.sized fun i j hi hj => (h.pixels i j hi hj).trans (h'.pixels i j hi hj).symm

/-- No pixel of an empty rectangle gets an ink. -/
theorem Image.Inked.eq_of_empty (sized : image.IsSized raster)
    (h : image.Inked raster rect ink painted) (empty : ∀ i j, ¬ rect.HoldsCell i j) :
    painted = image :=
  h.unique ⟨sized, fun i j _ _ => (if_neg (empty i j)).symm⟩

/-- Behind the first part of a rectangle, the second is all that is left. -/
theorem Image.Inked.second {first second : Rect Int} (splits : rect.Splits first second)
    (h : image.Inked raster rect ink painted) (part : image.Inked raster first ink between) :
    between.Inked raster second ink painted := by
  refine ⟨h.sized, fun i j hi hj => ?_⟩
  rw [h.pixels i j hi hj, part.pixels i j hi hj]
  have split := (splits i j).1
  by_cases inFirst : first.HoldsCell i j
  · rw [if_pos (split.mpr (.inl inFirst)), if_pos inFirst, ite_self]
  · have inSecond : rect.HoldsCell i j ↔ second.HoldsCell i j := by simp [split, inFirst]
    simp only [inSecond, if_neg inFirst]

/-- What is painted where the pixels are known is painted by every painter. -/
theorem Raster.Paints.pixels {p : Primitive} (paints : raster.Paints p image painted)
    (painter : Painter raster) {origin : Image} {screen : Screen}
    (shows : painter.pixels origin screen = image) :
    ∃ next, raster.surface.draw p screen = (next, none) ∧
      painter.pixels origin next = painted := by
  -- the request does not depend on what the screen shows
  obtain ⟨asked, known⟩ := paints #[]
  change raster.draw p ⟨some image, #[]⟩ = _ at known
  change ∃ next, raster.draw p screen = (next, none) ∧ painter.pixels origin next = painted
  rw [draw] at known ⊢
  cases planned : raster.plan p with
  | error fault =>
      rw [planned] at known
      cases known
  | ok request =>
      rw [planned] at known
      cases request with
      | none =>
          cases known
          exact ⟨screen, rfl, shows⟩
      | some r =>
          have applied : Request.apply? image r = some painted :=
            congrArg (fun outcome => outcome.1.image) known
          refine ⟨screen.request r, rfl, ?_⟩
          rw [Painter.pixels_request, shows, painter.paint_eq applied]

variable {x y w h : Int} {k : Nat}

/-- **A filled rectangle is known by its pixels.** -/
theorem Raster.paints_fillRect (modest : raster.IsModest)
    (within : ∀ n ∈ [x, y, w, h], (Number.int n).IsWithin k) (range : k ≤ 1022)
    (sized : image.IsSized raster)
    (inked : image.Inked raster (Rect.ofSides x y w h) ink painted) :
    raster.Paints (.fillRect (.int x) (.int y) (.int w) (.int h) ink) image painted := by
  obtain ⟨other, paints, inked'⟩ := exists_paints_fillRect modest within range ink sized
  rwa [inked'.unique inked] at paints

/-- **A rectangle may be painted in two parts**, one after the other. -/
theorem Raster.exists_paints_split (modest : raster.IsModest) {a b c d a' b' c' d' : Int}
    (within : ∀ n ∈ [a, b, c, d], (Number.int n).IsWithin k)
    (within' : ∀ n ∈ [a', b', c', d'], (Number.int n).IsWithin k) (range : k ≤ 1022)
    (splits : rect.Splits (Rect.ofSides a b c d) (Rect.ofSides a' b' c' d'))
    (sized : image.IsSized raster) (inked : image.Inked raster rect ink painted) :
    ∃ between,
      raster.Paints (.fillRect (.int a) (.int b) (.int c) (.int d) ink) image between ∧
      raster.Paints (.fillRect (.int a') (.int b') (.int c') (.int d') ink)
        between painted := by
  obtain ⟨between, paints, part⟩ := exists_paints_fillRect modest within range ink sized
  exact ⟨between, paints,
    paints_fillRect modest within' range part.sized (inked.second splits part)⟩

end Pixels

/-- **A filled rectangle paints its pixels and no others.**  Take any size with sides from 1
to 1920, any image of that size on the screen, any ink, and any integers of magnitude below
`2 ^ 1000` for the place and the sides of the rectangle, which may be zero or negative.  The
screen does not refuse the rectangle, and gives the ink to the pixels between its sides, the
lower ones included and the upper ones not; all others stay as they are.  So does every
painter on a screen whose pixels only the painter knows.  From the opposite corner the
rectangle paints the same, without width or height it paints nothing, and filling the screen
paints all pixels.  Cut at any column or row into two that are painted one after the other, it
paints the same again, and no cell is in both parts or in none. -/
theorem fillRect_paints_exactly (raster : Raster)
    (hwidth : 1 ≤ raster.width ∧ raster.width ≤ 1920)
    (hheight : 1 ≤ raster.height ∧ raster.height ≤ 1920) (x y w h : Int)
    (hx : x.natAbs < 2 ^ 1000) (hy : y.natAbs < 2 ^ 1000) (hw : w.natAbs < 2 ^ 1000)
    (hh : h.natAbs < 2 ^ 1000) (ink : Color) (image : Image) (sized : image.IsSized raster) :
    let fill (x y w h : Int) : Primitive := .fillRect (.int x) (.int y) (.int w) (.int h) ink
    ∃ painted filled, raster.Paints (fill x y w h) image painted ∧
      (∀ (painter : Painter raster) (origin : Image) (screen : Screen),
        painter.pixels origin screen = image →
        ∃ next, raster.surface.draw (fill x y w h) screen = (next, none) ∧
          painter.pixels origin next = painted) ∧
      (∀ i j : Nat, i < raster.width → j < raster.height → painted.pixel? i j =
        if (min x (x + w) ≤ i ∧ i < max x (x + w)) ∧ min y (y + h) ≤ j ∧ j < max y (y + h)
        then some ink.clip else image.pixel? i j) ∧
      (ink.IsShown → ink.clip = ink) ∧
      raster.Paints (fill (x + w) (y + h) (-w) (-h)) image painted ∧
      (w = 0 ∨ h = 0 → painted = image) ∧
      (∀ requests, ∃ asked, raster.surface.drawShape (.screen ink) ⟨some image, requests⟩
        = (⟨some filled, asked⟩, none)) ∧
      (∀ i j : Nat, i < raster.width → j < raster.height →
        filled.pixel? i j = some ink.clip) ∧
      (∀ c, min x (x + w) ≤ c → c ≤ max x (x + w) →
        (Rect.ofSides x y w h).Splits (Rect.ofSides x y (c - x) h)
          (Rect.ofSides c y (x + w - c) h) ∧
        ∃ between, raster.Paints (fill x y (c - x) h) image between ∧
          raster.Paints (fill c y (x + w - c) h) between painted) ∧
      (∀ c, min y (y + h) ≤ c → c ≤ max y (y + h) →
        (Rect.ofSides x y w h).Splits (Rect.ofSides x y w (c - y))
          (Rect.ofSides x c w (y + h - c)) ∧
        ∃ between, raster.Paints (fill x y w (c - y)) image between ∧
          raster.Paints (fill x c w (y + h - c)) between painted) := by
  intro fill
  have modest : raster.IsModest := ⟨hwidth, hheight⟩
  have within : ∀ n ∈ [x, y, w, h], (Number.int n).IsWithin 1000 := by
    simp only [List.forall_mem_cons]
    exact ⟨hx, hy, hw, hh, List.forall_mem_nil _⟩
  obtain ⟨right, left, columns⟩ := @Number.isWithin_range 1000 x w hx hw
  obtain ⟨bottom, top, rows⟩ := @Number.isWithin_range 1000 y h hy hh
  have wider : ∀ n ∈ [x, y, w, h], (Number.int n).IsWithin 1002 := fun n mem =>
    (within n mem).mono (by decide)
  simp only [List.forall_mem_cons] at wider
  obtain ⟨hx', hy', hw', hh', -⟩ := wider
  obtain ⟨painted, paints, inked⟩ :=
    Raster.exists_paints_fillRect modest within (by decide) ink sized
  obtain ⟨filled, fills, allInked⟩ :=
    Raster.exists_paints_fillRect modest modest.screen_isWithin (by decide) ink sized
  refine ⟨painted, filled, paints, fun painter _ _ => paints.pixels painter, inked.pixels,
    Color.IsShown.clip_eq, ?_, ?_, fills, ?_, ?_, ?_⟩
  · refine Raster.paints_fillRect (k := 1002) modest (by simp [right, bottom, left, top])
      (by decide) sized ?_
    rwa [Rect.ofSides_turned]
  · exact fun empty => inked.eq_of_empty sized (Rect.not_holdsCell_of_empty empty)
  · intro i j hi hj
    rw [allInked.pixels i j hi hj, if_pos]
    rw [Rect.holdsCell_ofSides_iff]
    omega
  · intro c low high
    have splits := Rect.splits_at_column (y := y) (h := h) low high
    obtain ⟨place, before, behind⟩ := columns c low high
    exact ⟨splits, Raster.exists_paints_split (k := 1002) modest
      (by simp [hx', hy', before, hh']) (by simp [place, hy', behind, hh']) (by decide)
      splits sized inked⟩
  · intro c low high
    have splits := Rect.splits_at_row (x := x) (w := w) low high
    obtain ⟨place, above, below⟩ := rows c low high
    exact ⟨splits, Raster.exists_paints_split (k := 1002) modest
      (by simp [hx', hy', hw', above]) (by simp [hx', place, hw', below]) (by decide)
      splits sized inked⟩

/-- A rectangle that goes to the left from its place and begins above the screen,
whole and in two parts. -/
theorem fillRect_paints_exactly_turned :
    let raster : Raster := ⟨5, 4⟩
    let image := Image.blank 5 4 .white
    let fill (x y w h : Int) : Primitive :=
      .fillRect (.int x) (.int y) (.int w) (.int h) .black
    (1 ≤ raster.width ∧ raster.width ≤ 1920) ∧ (1 ≤ raster.height ∧ raster.height ≤ 1920) ∧
      image.IsSized raster ∧ ∃ painted between,
      raster.Paints (fill 4 (-1) (-3) 3) image painted ∧
        painted.pixel? 1 1 = some .black ∧ painted.pixel? 4 1 = some .white ∧
        raster.Paints (fill 4 (-1) (-2) 3) image between ∧
        raster.Paints (fill 2 (-1) (-1) 3) between painted := by
  intro raster image fill
  have sized : image.IsSized raster := Image.isSized_blank raster .white
  have small : ∀ n ∈ [4, -1, -3, 3], Int.natAbs n < 2 ^ 1000 := by decide +kernel
  obtain ⟨painted, -, paints, -, pixels, -, -, -, -, -, columns, -⟩ :=
    fillRect_paints_exactly raster
    (by decide) (by decide) 4 (-1) (-3) 3 (small _ (by decide)) (small _ (by decide))
    (small _ (by decide)) (small _ (by decide)) .black image sized
  obtain ⟨-, between, first, second⟩ := columns 2 (by decide) (by decide)
  refine ⟨by decide, by decide, sized, painted, between, paints, ?_, ?_, first, second⟩
  · rw [pixels 1 1 (by decide) (by decide)]
    decide
  · rw [pixels 4 1 (by decide) (by decide)]
    decide

end SketchScreen
