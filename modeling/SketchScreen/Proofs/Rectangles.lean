import SketchScreen.Proofs.Pixels
import SketchScreen.Proofs.Surfaces

/-!
# Rectangles on Screens and in Drawings

A filled rectangle with corners at integers means the same on both surfaces: a screen paints a
pixel exactly if the drawing gets a filled area that contains the cell of that pixel, also for
rectangles that are empty, turned around or beyond the screen.

## Main Definitions

- `Polygon.area`: the area of a polygon, by the even-odd rule, its sides included.
- `Entity.Covers`: a filled area that contains a set of places.
- `cell`: the cell of a pixel in a drawing.
- `Rect.HoldsCell`: the cells in a rectangle with corners at integers.
- `Raster.Paints`: what a primitive makes of an image.
- `Image.Inked`: an image with a rectangle on it.

## Design Notes

Both surfaces are compared with `Rect.HoldsCell`.  On the screen there are inclusive bounds
and a range to which coordinates are clamped.  In the drawing there are corners, flipped and
rounded to floats, of which the area is to be found; the rounding begins beyond `2 ^ 53` and
stays there (`Follows`), far from any cell of the screen.
-/

namespace SketchScreen

/-! ## Areas of polygons -/

namespace Polygon

/-- The sides of a closed polygon by its corners. -/
def sides : List (ℚ × ℚ) → List ((ℚ × ℚ) × (ℚ × ℚ))
  | [] => []
  | first :: rest => (first :: rest).zip (rest ++ [first])

/-- Whether a side crosses the ray that goes from a place to the right: its ends are above and
below the ray, and it passes the place on the right. -/
def crosses (p : ℚ × ℚ) (side : (ℚ × ℚ) × (ℚ × ℚ)) : Bool :=
  (decide (side.1.2 ≤ p.2) != decide (side.2.2 ≤ p.2)) &&
    decide (p.1 < side.1.1 + (p.2 - side.1.2) * (side.2.1 - side.1.1) / (side.2.2 - side.1.2))

/-- The area of a polygon: its sides, and the places with an odd number of sides
to their right. -/
def area (corners : List (ℚ × ℚ)) : Set (ℚ × ℚ) :=
  {p | (∃ side ∈ sides corners, p ∈ segment ℚ side.1 side.2) ∨
    Odd ((sides corners).countP (crosses p))}

theorem mem_segment_horizontal_iff {l r c x y : ℚ} (le : l ≤ r) :
    (x, y) ∈ segment ℚ (l, c) (r, c) ↔ x ∈ Set.Icc l r ∧ y = c := by
  rw [← Prod.image_mk_segment_left, segment_eq_Icc le]
  simp [eq_comm]

theorem mem_segment_vertical_iff {b t c x y : ℚ} (le : b ≤ t) :
    (x, y) ∈ segment ℚ (c, b) (c, t) ↔ x = c ∧ y ∈ Set.Icc b t := by
  rw [← Prod.image_mk_segment_right, segment_eq_Icc le]
  simp [and_comm, eq_comm]

theorem crosses_horizontal (p : ℚ × ℚ) (l r c : ℚ) : crosses p ((l, c), (r, c)) = false := by
  simp [crosses]

theorem crosses_vertical (x y b t c : ℚ) :
    crosses (x, y) ((c, b), (c, t))
      = ((decide (b ≤ y) != decide (t ≤ y)) && decide (x < c)) := by
  simp [crosses]

section Rectangle

variable {l r b t x y : ℚ}

theorem sides_rectangle (l r b t : ℚ) : sides [(l, t), (r, t), (r, b), (l, b)]
    = [((l, t), (r, t)), ((r, t), (r, b)), ((r, b), (l, b)), ((l, b), (l, t))] := rfl

theorem exists_mem_side_iff (hx : l ≤ r) (hy : b ≤ t) :
    (∃ side ∈ sides [(l, t), (r, t), (r, b), (l, b)], (x, y) ∈ segment ℚ side.1 side.2) ↔
      x ∈ Set.Icc l r ∧ (y = t ∨ y = b) ∨ (x = r ∨ x = l) ∧ y ∈ Set.Icc b t := by
  simp only [sides_rectangle, List.exists_mem_cons_iff, List.not_mem_nil, false_and,
    exists_false, or_false]
  rw [segment_symm ℚ (r, t) (r, b), segment_symm ℚ (r, b) (l, b),
    mem_segment_horizontal_iff hx, mem_segment_horizontal_iff hx, mem_segment_vertical_iff hy,
    mem_segment_vertical_iff hy]
  tauto

/-- The upper and the right side do not count as crossed. -/
theorem odd_crossings_iff (hx : l ≤ r) (hy : b ≤ t) :
    Odd ((sides [(l, t), (r, t), (r, b), (l, b)]).countP (crosses (x, y))) ↔
      x ∈ Set.Ico l r ∧ y ∈ Set.Ico b t := by
  simp only [sides_rectangle, List.countP_cons, List.countP_nil, crosses_horizontal,
    crosses_vertical]
  by_cases low : b ≤ y
  · by_cases high : t ≤ y
    · simp [low, high]
    · by_cases left : x < l
      · simp [low, high, left, left.trans_le hx, not_le.mpr left]
      · by_cases right : x < r
        · simp [low, high, left, right, not_lt.mp left, not_le.mp high]
        · simp [low, high, left, right]
  · have above : ¬ t ≤ y := fun le => low (hy.trans le)
    simp [low, above]

/-- **The area of an upright rectangle.** -/
theorem area_rectangle (hx : l ≤ r) (hy : b ≤ t) :
    area [(l, t), (r, t), (r, b), (l, b)] = Set.Icc l r ×ˢ Set.Icc b t := by
  ext ⟨x, y⟩
  change (∃ side ∈ _, _) ∨ Odd _ ↔ _
  rw [exists_mem_side_iff hx hy, odd_crossings_iff hx hy, Set.mem_prod]
  constructor
  · rintro ((⟨inside, rfl | rfl⟩ | ⟨rfl | rfl, inside⟩) | ⟨hx', hy'⟩)
    · exact ⟨inside, hy, le_rfl⟩
    · exact ⟨inside, le_rfl, hy⟩
    · exact ⟨⟨hx, le_rfl⟩, inside⟩
    · exact ⟨⟨le_rfl, hx⟩, inside⟩
    · exact ⟨Set.Ico_subset_Icc_self hx', Set.Ico_subset_Icc_self hy'⟩
  · rintro ⟨hx', hy'⟩
    rcases hx'.2.eq_or_lt with right | right
    · exact Or.inl (Or.inr ⟨Or.inl right, hy'⟩)
    · rcases hy'.2.eq_or_lt with top | top
      · exact Or.inl (Or.inl ⟨hx', Or.inl top⟩)
      · exact Or.inr ⟨⟨hx'.1, right⟩, hy'.1, top⟩

end Rectangle

end Polygon

/-- The place of a point of a drawing, if its coordinates are finite. -/
def Drawing.place? (p : Point Float) : Option (ℚ × ℚ) := do
  let x ← (Number.float p.x).value?
  let y ← (Number.float p.y).value?
  return (x, y)

/-- A filled area that contains a set of places. -/
def Entity.Covers (e : Entity) (places : Set (ℚ × ℚ)) : Prop :=
  ∃ points corners, e.shape = .hatch points ∧ points.mapM Drawing.place? = some corners ∧
    places ⊆ Polygon.area corners

theorem Entity.covers_hatch_iff {points : List (Point Float)} {corners : List (ℚ × ℚ)}
    (h : points.mapM Drawing.place? = some corners) {ink : Color} {places : Set (ℚ × ℚ)} :
    (Entity.mk (.hatch points) ink).Covers places ↔ places ⊆ Polygon.area corners := by
  constructor
  · rintro ⟨points', corners', same, h', covered⟩
    cases same
    cases h.symm.trans h'
    exact covered
  · exact fun covered => ⟨points, corners, rfl, h, covered⟩

/-- The cell of a drawing with its lower left corner at a place. -/
def cell (x y : ℚ) : Set (ℚ × ℚ) := Set.Icc x (x + 1) ×ˢ Set.Icc y (y + 1)

theorem cell_subset_iff {x y l r b t : ℚ} :
    cell x y ⊆ Set.Icc l r ×ˢ Set.Icc b t ↔ (l ≤ x ∧ x + 1 ≤ r) ∧ b ≤ y ∧ y + 1 ≤ t := by
  have nonempty : ∀ z : ℚ, z ≤ z + 1 := fun z => by linarith
  rw [cell, Set.prod_subset_prod_iff, Set.Icc_subset_Icc_iff (nonempty x),
    Set.Icc_subset_Icc_iff (nonempty y)]
  simp [Set.Icc_eq_empty_iff, nonempty]

/-- The cells in a rectangle with corners at integers. -/
def Rect.HoldsCell (rect : Rect Int) (i j : Int) : Prop :=
  (rect.left ≤ i ∧ i + 1 ≤ rect.right) ∧ rect.top ≤ j ∧ j + 1 ≤ rect.bottom

instance (rect : Rect Int) (i j : Int) : Decidable (rect.HoldsCell i j) :=
  inferInstanceAs (Decidable (_ ∧ _))

/-! ## On the screen -/

/-- What a primitive makes of the image on a screen, whatever has been asked of
the screen before. -/
def Raster.Paints (raster : Raster) (p : Primitive) (before after : Image) : Prop :=
  ∀ requests, ∃ asked, raster.surface.draw p ⟨some before, requests⟩
    = (⟨some after, asked⟩, none)

/-- An image in which the pixels of a rectangle have got an ink, and all others
are as they were. -/
structure Image.Inked (raster : Raster) (rect : Rect Int) (ink : Color)
    (before after : Image) :
    Prop where
  sized : after.IsSized raster
  pixels : ∀ i j : Nat, i < raster.width → j < raster.height →
    after.pixel? i j = if rect.HoldsCell i j then some ink.clip else before.pixel? i j

/-- **The box of a filled rectangle on the screen** holds the pixels whose cells are in the
rectangle; nothing is asked for if there are none. -/
theorem Raster.exists_box_fillRect {raster : Raster} (modest : raster.IsModest)
    {x y w h : Int} {k : Nat} (within : ∀ n ∈ [x, y, w, h], (Number.int n).IsWithin k)
    (range : k ≤ 1022) (ink : Color) :
    ∃ left top right bottom : Int,
      raster.plan (.fillRect (.int x) (.int y) (.int w) (.int h) ink)
        = .ok (if right < left ∨ bottom < top then none
            else some (.fillBox left top right bottom ink)) ∧
      (0 ≤ left ∧ right < raster.width) ∧ (0 ≤ top ∧ bottom < raster.height) ∧
      ∀ i j : Nat, i < raster.width → j < raster.height →
        ((Rect.ofSides x y w h).HoldsCell i j ↔
          (left ≤ i ∧ (i : Int) ≤ right) ∧ top ≤ j ∧ (j : Int) ≤ bottom) := by
  refine ⟨_, _, _, _, congrArg Fault.liftNumber (planFillRect_int raster within range ink),
    ?_, ?_, fun i j hi hj => ?_⟩
  · omega
  · omega
  · have columns := nearestPixel_between_iff modest.width.2 hi
    have rows := nearestPixel_between_iff modest.height.2 hj
    exact (and_congr (columns _ _) (rows _ _)).symm

/-- **A screen paints the pixels whose cells are in the rectangle.** -/
theorem Raster.exists_paints_fillRect {raster : Raster} (modest : raster.IsModest)
    {x y w h : Int} {k : Nat} (within : ∀ n ∈ [x, y, w, h], (Number.int n).IsWithin k)
    (range : k ≤ 1022) (ink : Color) {image : Image} (sized : image.IsSized raster) :
    ∃ painted,
      raster.Paints (.fillRect (.int x) (.int y) (.int w) (.int h) ink) image painted ∧
      image.Inked raster (Rect.ofSides x y w h) ink painted := by
  obtain ⟨left, top, right, bottom, planned, -, -, same⟩ :=
    exists_box_fillRect modest within range ink
  by_cases empty : right < left ∨ bottom < top
  · rw [if_pos empty] at planned
    refine ⟨image, fun requests => ⟨requests, ?_⟩, sized, fun i j hi hj => (if_neg ?_).symm⟩
    · show raster.draw _ _ = _
      rw [draw, planned]
    · rw [same i j hi hj]
      omega
  · rw [if_neg empty] at planned
    refine ⟨image.paint (.box left top right bottom) ink,
      fun requests => ⟨requests.push (.fillBox left top right bottom ink), ?_⟩,
      sized.paint _ ink,
      fun i j hi hj => ?_⟩
    · show raster.draw _ _ = _
      rw [draw, planned]
      rfl
    · obtain ⟨old, shown⟩ := sized.exists_pixel? hi hj
      rw [Image.pixel?_paint, shown, Option.map_some]
      simp only [Region.holds_box_iff, same i j hi hj]
      split <;> rfl

/-- The same for integers that floats represent, with the requests that are made. -/
theorem Raster.draw_fillRect_int {raster : Raster} (modest : raster.IsModest) {x y w h : Int}
    (within : ∀ n ∈ [x, y, w, h], (Number.int n).IsWithin 53) (ink : Color) {image : Image}
    (sized : image.IsSized raster) (requests : Array Request) :
    ∃ painted asked, raster.draw (.fillRect (.int x) (.int y) (.int w) (.int h) ink)
        ⟨some image, requests⟩ = (⟨some painted, asked⟩, none) ∧
      ∀ i j : Nat, i < raster.width → j < raster.height →
        painted.pixel? i j
          = if (Rect.ofSides x y w h).HoldsCell i j then some ink.clip
            else image.pixel? i j := by
  obtain ⟨painted, paints, inked⟩ :=
    exists_paints_fillRect modest within (by decide) ink sized
  obtain ⟨asked, result⟩ := paints requests
  exact ⟨painted, asked, result, inked.pixels⟩

/-! ## In the drawing -/

namespace Drawing

variable {height x y w h : Int}

/-- A point with integer coordinates, flipped and rounded. -/
theorem flip_int {a b : Int} {across up : Float} (hacross : Number.intToFloat a = .ok across)
    (hup : Number.intToFloat (height - b) = .ok up) :
    flip (.int height) ⟨.int a, .int b⟩ = .ok ⟨across, up⟩ := by
  show (do
    let x ← Number.intToFloat a
    let y ← Number.intToFloat (height - b)
    return (⟨x, y⟩ : Point Float)) = _
  rw [hacross, hup]
  rfl

/-- **The corners of a rectangle with corners at integers** are the floats nearest to them. -/
theorem planRect_int (small : height.natAbs ≤ 2 ^ 52)
    (within : ∀ n ∈ [x, y, w, h], (Number.int n).IsWithin 53) (hw : w ≠ 0) (hh : h ≠ 0) :
    ∃ left right top bottom, Number.intToFloat (Rect.ofSides x y w h).left = .ok left ∧
      Number.intToFloat (Rect.ofSides x y w h).right = .ok right ∧
      Number.intToFloat (height - (Rect.ofSides x y w h).top) = .ok top ∧
      Number.intToFloat (height - (Rect.ofSides x y w h).bottom) = .ok bottom ∧
      planRect (.int height) (.int x) (.int y) (.int w) (.int h)
        = .ok (some [⟨left, top⟩, ⟨right, top⟩, ⟨right, bottom⟩, ⟨left, bottom⟩]) := by
  have finite : Geometry.allFinite [.int x, .int y, .int w, .int h] = .ok true :=
    Geometry.allFinite_int within (by decide)
  have nonzero : ¬ ((Number.int w).isZero || (Number.int h).isZero) = true := by
    rw [Bool.or_eq_true, Number.isZero_int_iff, Number.isZero_int_iff]
    exact not_or.mpr ⟨hw, hh⟩
  simp only [List.forall_mem_cons, Number.IsWithin] at within
  obtain ⟨hx, hy, hw', hh', -⟩ := within
  have float : ∀ n : Int, n.natAbs < 2 ^ 55 → ∃ f, Number.intToFloat n = .ok f := by
    intro n short
    have within : (Number.int n).IsWithin 55 := short
    obtain ⟨f, nearest, -⟩ := Number.toFloat_gives within (by decide)
    exact ⟨f, nearest⟩
  obtain ⟨left, hleft⟩ :=
    float (Rect.ofSides x y w h).left (by simp only [Rect.ofSides]; omega)
  obtain ⟨right, hright⟩ :=
    float (Rect.ofSides x y w h).right (by simp only [Rect.ofSides]; omega)
  obtain ⟨top, htop⟩ := float (height - (Rect.ofSides x y w h).top)
    (by simp only [Rect.ofSides]; omega)
  obtain ⟨bottom, hbottom⟩ := float (height - (Rect.ofSides x y w h).bottom)
    (by simp only [Rect.ofSides]; omega)
  refine ⟨left, right, top, bottom, hleft, hright, htop, hbottom, ?_⟩
  have flipped : flipAll (.int height) (corners (Rect.ofSides x y w h).toNumbers)
      = .ok [⟨left, top⟩, ⟨right, top⟩, ⟨right, bottom⟩, ⟨left, bottom⟩] := by
    rw [flipAll, corners, Rect.toNumbers, List.mapM_cons, List.mapM_cons, List.mapM_cons,
      List.mapM_cons, List.mapM_nil, flip_int hleft htop, flip_int hright htop,
      flip_int hright hbottom, flip_int hleft hbottom]
    rfl
  rw [planRect, finite]
  show (if ((Number.int w).isZero || (Number.int h).isZero) = true then _ else _) = _
  rw [if_neg nonzero, Geometry.normalizeRect_int]
  show (flipAll (.int height) (corners (Rect.ofSides x y w h).toNumbers) >>= _) = _
  rw [flipped]
  rfl

/-- A rectangle without area has no corners. -/
theorem planRect_int_of_empty (within : ∀ n ∈ [x, y, w, h], (Number.int n).IsWithin 53)
    (empty : w = 0 ∨ h = 0) :
    planRect (.int height) (.int x) (.int y) (.int w) (.int h) = .ok none := by
  have finite : Geometry.allFinite [.int x, .int y, .int w, .int h] = .ok true :=
    Geometry.allFinite_int within (by decide)
  have zero : ((Number.int w).isZero || (Number.int h).isZero) = true := by
    rwa [Bool.or_eq_true, Number.isZero_int_iff, Number.isZero_int_iff]
  rw [planRect, finite]
  show (if ((Number.int w).isZero || (Number.int h).isZero) = true then _ else _) = _
  rw [if_pos zero]
  rfl

/-- **The corners of a rectangle enclose the cells in it.**  Rounding moves no corner across
a cell of the screen. -/
theorem cell_subset_area_iff {height : Nat} (small : height ≤ 1920)
    (short : ∀ n ∈ [x, y, w, h], n.natAbs ≤ 2 ^ 52) {l r b t : ℚ}
    (hl : Number.Follows (Rect.ofSides x y w h).left l)
    (hr : Number.Follows (Rect.ofSides x y w h).right r)
    (ht : Number.Follows (height - (Rect.ofSides x y w h).top) t)
    (hb : Number.Follows (height - (Rect.ofSides x y w h).bottom) b) {i j : Nat}
    (hi : i < 1920) (hj : j < height) :
    cell i (height - j - 1) ⊆ Polygon.area [(l, t), (r, t), (r, b), (l, b)] ↔
      (Rect.ofSides x y w h).HoldsCell i j := by
  simp only [List.forall_mem_cons] at short
  obtain ⟨hx, hy, -⟩ := short
  have leftRight : l ≤ r := by
    have low := (hl.le_iff (m := x) (by omega)).mpr (min_le_left ..)
    have high := (hr.ge_iff (m := x) (by omega)).mpr (le_max_left ..)
    exact low.trans high
  have bottomTop : b ≤ t := by
    have low := (hb.le_iff (m := height - y) (by omega)).mpr
      (sub_le_sub_left (le_max_left ..) _)
    have high := (ht.ge_iff (m := height - y) (by omega)).mpr
      (sub_le_sub_left (min_le_left ..) _)
    exact low.trans high
  have onLeft := hl.le_iff (m := i) (by omega)
  have onRight := hr.ge_iff (m := i + 1) (by omega)
  have onBottom := hb.le_iff (m := height - j - 1) (by omega)
  have onTop := ht.ge_iff (m := height - j) (by omega)
  push_cast at onLeft onRight onBottom onTop
  rw [Polygon.area_rectangle leftRight bottomTop, cell_subset_iff, sub_add_cancel, onLeft,
    onRight, onBottom, onTop, Rect.HoldsCell]
  omega

/-- **A drawing gets an area that covers the cells in the rectangle**, and none
for an empty one. -/
theorem draw_fillRect_int {height : Nat} (small : height ≤ 1920)
    (short : ∀ n ∈ [x, y, w, h], n.natAbs ≤ 2 ^ 52) (ink : Color) (entities : Array Entity) :
    ∃ drawn, draw (.int height) (.fillRect (.int x) (.int y) (.int w) (.int h) ink) entities
        = (entities ++ drawn, none) ∧
      ∀ i j : Nat, i < 1920 → j < height →
        ((∃ e ∈ drawn, Entity.Covers e (cell i (height - j - 1))) ↔
          (Rect.ofSides x y w h).HoldsCell i j) := by
  have within : ∀ n ∈ [x, y, w, h], (Number.int n).IsWithin 53 := fun n mem =>
    (short n mem).trans_lt (by decide)
  by_cases empty : w = 0 ∨ h = 0
  · refine ⟨#[], ?_, fun i j _ _ => iff_of_false (by simp) ?_⟩
    · rw [draw, plan, planRect_int_of_empty within empty, Array.append_empty]
      rfl
    · simp only [Rect.HoldsCell, Rect.ofSides]
      omega
  · obtain ⟨hw, hh⟩ := not_or.mp empty
    obtain ⟨left, right, top, bottom, hleft, hright, htop, hbottom, planned⟩ :=
      @planRect_int height _ _ _ _ (by omega) within hw hh
    obtain ⟨l, hl, leftFollows⟩ := Number.value?_intToFloat hleft
    obtain ⟨r, hr, rightFollows⟩ := Number.value?_intToFloat hright
    obtain ⟨t, ht, topFollows⟩ := Number.value?_intToFloat htop
    obtain ⟨b, hb, bottomFollows⟩ := Number.value?_intToFloat hbottom
    refine ⟨#[⟨.hatch [⟨left, top⟩, ⟨right, top⟩, ⟨right, bottom⟩, ⟨left, bottom⟩], ink⟩], ?_,
      fun i j hi hj => ?_⟩
    · rw [draw, plan, planned, ← Array.push_eq_append]
      rfl
    · have corners : [(⟨left, top⟩ : Point Float), ⟨right, top⟩, ⟨right, bottom⟩,
          ⟨left, bottom⟩].mapM
          place? = some [(l, t), (r, t), (r, b), (l, b)] := by
        simp [place?, Number.value?, hl, hr, ht, hb]
      rw [← cell_subset_area_iff small short leftFollows rightFollows topFollows
        bottomFollows hi hj]
      simp [Entity.covers_hatch_iff corners]

end Drawing

/-! ## On both -/

/-- **A filled rectangle means the same on a screen and in a drawing.**  Take any size with
sides from 1 to 1920, any image of that size on the screen, any integers of magnitude up to
`2 ^ 52` for the place and the sides of the rectangle, which may be zero or negative, and any
ink.  Neither surface refuses the rectangle.  A pixel of the screen gets the ink if the
drawing gets a filled area whose corners enclose the cell of that pixel, and stays as it is if
the drawing gets no such area. -/
theorem fillRect_paints_covered_cells (width height : Nat) (hwidth : 1 ≤ width ∧ width ≤ 1920)
    (hheight : 1 ≤ height ∧ height ≤ 1920) (x y w h : Int) (hx : x.natAbs ≤ 2 ^ 52)
    (hy : y.natAbs ≤ 2 ^ 52) (hw : w.natAbs ≤ 2 ^ 52) (hh : h.natAbs ≤ 2 ^ 52) (ink : Color)
    (image : Image) (sized : image.IsSized ⟨width, height⟩) (requests : Array Request)
    (entities : Array Entity) :
    ∃ painted asked drawn,
      (Raster.mk width height).surface.draw
        (.fillRect (.int x) (.int y) (.int w) (.int h) ink)
          ⟨some image, requests⟩ = (⟨some painted, asked⟩, none) ∧
      (Drawing.surface (.int width) (.int height)).draw
          (.fillRect (.int x) (.int y) (.int w) (.int h) ink) entities
            = (entities ++ drawn, none) ∧
      ∀ i j : Nat, i < width → j < height →
        ((∃ e ∈ drawn, Entity.Covers e (cell i (height - j - 1))) →
          painted.pixel? i j = some ink.clip) ∧
        ((¬ ∃ e ∈ drawn, Entity.Covers e (cell i (height - j - 1))) →
          painted.pixel? i j = image.pixel? i j) := by
  have short : ∀ n ∈ [x, y, w, h], n.natAbs ≤ 2 ^ 52 := by
    simp only [List.forall_mem_cons]
    exact ⟨hx, hy, hw, hh, List.forall_mem_nil _⟩
  have within : ∀ n ∈ [x, y, w, h], (Number.int n).IsWithin 53 := fun n mem =>
    (short n mem).trans_lt (by decide)
  obtain ⟨painted, asked, onScreen, pixels⟩ :=
    @Raster.draw_fillRect_int ⟨width, height⟩ ⟨hwidth, hheight⟩ _ _ _ _ within ink _ sized
      requests
  obtain ⟨drawn, inDrawing, cells⟩ := Drawing.draw_fillRect_int hheight.2 short ink entities
  refine ⟨painted, asked, drawn, onScreen, inDrawing, fun i j hi hj => ?_⟩
  rw [cells i j (by omega) hj, pixels i j hi hj]
  exact ⟨fun inside => if_pos inside, fun outside => if_neg outside⟩

/-- A rectangle that goes to the left from its place and begins above the screen: its lower
right pixel is painted, so the drawing covers the cell of that pixel. -/
theorem fillRect_paints_covered_cells_turned :
    let raster : Raster := ⟨5, 4⟩
    let image := Image.blank 5 4 .white
    let p : Primitive := .fillRect (.int 3) (.int (-1)) (.int (-2)) (.int 3) .black
    (1 ≤ raster.width ∧ raster.width ≤ 1920) ∧ (1 ≤ raster.height ∧ raster.height ≤ 1920) ∧
      image.IsSized raster ∧ ∃ painted asked drawn,
        raster.surface.draw p ⟨some image, #[]⟩ = (⟨some painted, asked⟩, none) ∧
        (Drawing.surface (.int 5) (.int 4)).draw p #[] = (drawn, none) ∧
        painted.pixel? 2 1 = some .black ∧ ∃ e ∈ drawn, Entity.Covers e (cell 2 2) := by
  intro raster image p
  have sized : image.IsSized raster := Image.isSized_blank raster .white
  obtain ⟨painted, asked, drawn, onScreen, inDrawing, same⟩ :=
    fillRect_paints_covered_cells 5 4 (by decide) (by decide) 3 (-1) (-2) 3 (by decide)
      (by decide) (by decide) (by decide) .black image sized #[] #[]
  have pixel : (raster.surface.draw p ⟨some image, #[]⟩).1.image.bind (·.pixel? 2 1)
      = some .black := by decide +kernel
  have before : image.pixel? 2 1 = some .white := by decide
  change raster.surface.draw p ⟨some image, #[]⟩ = _ at onScreen
  rw [onScreen] at pixel
  change painted.pixel? 2 1 = some .black at pixel
  refine ⟨by decide, by decide, sized, painted, asked, drawn, onScreen, ?_, pixel, ?_⟩
  · rwa [Array.empty_append] at inDrawing
  · have place : cell (2 : Nat) ((4 : Nat) - (1 : Nat) - 1) = cell 2 2 := by norm_num
    by_contra uncovered
    rw [← place] at uncovered
    have unchanged := (same 2 1 (by decide) (by decide)).2 uncovered
    rw [pixel, before] at unchanged
    exact absurd unchanged (by decide)

end SketchScreen
