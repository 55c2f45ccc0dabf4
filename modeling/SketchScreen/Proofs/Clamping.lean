import SketchScreen.Proofs.Boxes
import SketchScreen.Proofs.Outline

/-!
# Edges beyond the Range of the Painter

Coordinates are clamped one by one before they reach the painter.  An edge of which an end is
clamped is no longer the edge that was drawn.  What the screen shows of it is still the same
if both ends stay on the line of the edge, or if the edge passes beside the screen; it is
another part of the plane otherwise.

## Main Definitions

- `Edge`, `Request.edges`: edges between integer points, and the straight edges of a request.
- `Raster.visible`: the points of an edge that a screen shows.
- `Polygon.OnLine`: the points on the line of an edge.
- `Raster.Clamps`: how an edge for the painter relates to the edge that was drawn.

## Design Notes

A point lies on a segment if it lies on the line of the segment and between its ends in both
coordinates (`mem_segment_iff`).  For a point of the screen, to lie between two coordinates is
the same before and after they are clamped, since the sides of a screen are far below the
limit (`Raster.mem_uIcc_clamp_iff`).  So all that clamping can change is the line.
-/

namespace SketchScreen

/-- An edge between two points with integer coordinates. -/
abbrev Edge := (Int × Int) × (Int × Int)

namespace Polygon

/-! ## Lines and Segments -/

theorem cross_zero (u : ℝ × ℝ) : cross u 0 = 0 := by
  simp [cross]

theorem zero_cross (u : ℝ × ℝ) : cross 0 u = 0 := by
  simp [cross]

theorem cross_sub (u v w : ℝ × ℝ) : cross u (v - w) = cross u v - cross u w := by
  simp only [cross, Prod.fst_sub, Prod.snd_sub]
  ring

theorem cross_swap (u v : ℝ × ℝ) : cross v u = -cross u v := by
  unfold cross
  ring

/-- Vectors that are parallel to the same vector are parallel. -/
theorem cross_eq_zero_trans {u v w : ℝ × ℝ} (nonzero : v ≠ 0) (first : cross u v = 0)
    (second : cross v w = 0) : cross u w = 0 := by
  have across : v.1 * cross u w = u.1 * cross v w + w.1 * cross u v := by
    unfold cross
    ring
  have down : v.2 * cross u w = u.2 * cross v w + w.2 * cross u v := by
    unfold cross
    ring
  rw [first, second, mul_zero, mul_zero, add_zero] at across down
  by_contra other
  have zero : v.1 = 0 ∧ v.2 = 0 :=
    ⟨(mul_eq_zero.1 across).resolve_right other, (mul_eq_zero.1 down).resolve_right other⟩
  exact nonzero (Prod.ext zero.1 zero.2)

/-- A segment is what lies on its line and between its ends in both coordinates. -/
theorem mem_segment_iff {p q z : ℝ × ℝ} :
    z ∈ segment ℝ p q ↔
      cross (q - p) (z - p) = 0 ∧ z.1 ∈ Set.uIcc p.1 q.1 ∧ z.2 ∈ Set.uIcc p.2 q.2 := by
  constructor
  · intro mem
    have sides := Prod.segment_subset p q mem
    rw [Set.mem_prod, segment_eq_uIcc, segment_eq_uIcc] at sides
    refine ⟨?_, sides⟩
    rw [segment_eq_image'] at mem
    obtain ⟨t, -, rfl⟩ := mem
    simp only [add_sub_cancel_left, cross, Prod.smul_fst, Prod.smul_snd, smul_eq_mul]
    ring
  · rintro ⟨line, across, down⟩
    rw [← segment_eq_uIcc, segment_eq_image'] at across down
    obtain ⟨s, hs, across⟩ := across
    obtain ⟨t, ht, down⟩ := down
    rw [segment_eq_image']
    simp only [smul_eq_mul] at across down
    simp only [cross, Prod.fst_sub, Prod.snd_sub] at line
    -- The place along the segment is read off the coordinate in which its ends differ.
    by_cases upright : q.1 - p.1 = 0
    · refine ⟨t, ht, Prod.ext ?_ down⟩
      simpa [upright] using across
    · refine ⟨s, hs, Prod.ext across ?_⟩
      have same : (q.1 - p.1) * (z.2 - p.2 - s * (q.2 - p.2)) = 0 := by
        rw [← across] at line
        linear_combination line
      have place := (mul_eq_zero.1 same).resolve_left upright
      simp only [Prod.snd_add, Prod.smul_snd, Prod.snd_sub, smul_eq_mul]
      linarith

/-- Two segments that share two points lie on one line. -/
theorem cross_eq_zero_of_mem_segment {p q p' q' a b : ℝ × ℝ} (ne : a ≠ b)
    (ha : a ∈ segment ℝ p q) (hb : b ∈ segment ℝ p q) (ha' : a ∈ segment ℝ p' q')
    (hb' : b ∈ segment ℝ p' q') :
    cross (q - p) (p' - p) = 0 := by
  have through : ∀ {p q : ℝ × ℝ}, a ∈ segment ℝ p q → b ∈ segment ℝ p q →
      cross (q - p) (b - a) = 0 := by
    intro p q ha hb
    have same : b - a = (b - p) - (a - p) := by abel
    rw [same, cross_sub, (mem_segment_iff.1 ha).1, (mem_segment_iff.1 hb).1, sub_zero]
  have apart : b - a ≠ 0 := sub_ne_zero.2 ne.symm
  have long : q' - p' ≠ 0 := by
    intro zero
    rw [sub_eq_zero.1 zero, segment_same, Set.mem_singleton_iff] at ha' hb'
    exact ne (ha'.trans hb'.symm)
  have back : cross (b - a) (q' - p') = 0 := by rw [cross_swap, through ha' hb', neg_zero]
  have onto : cross (b - a) (a - p') = 0 :=
    cross_eq_zero_trans long back (mem_segment_iff.1 ha').1
  have along : cross (q - p) (a - p') = 0 := cross_eq_zero_trans apart (through ha hb) onto
  have sum : p' - p = (a - p) - (a - p') := by abel
  rw [sum, cross_sub, (mem_segment_iff.1 ha).1, along, sub_zero]

/-- Along one line, a segment is what lies between its ends. -/
theorem mem_segment_congr {p q p' q' z : ℝ × ℝ} (first : cross (q - p) (p' - p) = 0)
    (second : cross (q - p) (q' - p) = 0) (point : q = p → q' = p')
    (between : (z.1 ∈ Set.uIcc p'.1 q'.1 ∧ z.2 ∈ Set.uIcc p'.2 q'.2) ↔
      (z.1 ∈ Set.uIcc p.1 q.1 ∧ z.2 ∈ Set.uIcc p.2 q.2)) :
    z ∈ segment ℝ p' q' ↔ z ∈ segment ℝ p q := by
  have parallel : cross (q - p) (q' - p') = 0 := by
    have same : q' - p' = (q' - p) - (p' - p) := by abel
    rw [same, cross_sub, first, second, sub_zero]
  have shifted : cross (q - p) (z - p') = cross (q - p) (z - p) := by
    have same : z - p' = (z - p) - (p' - p) := by abel
    rw [same, cross_sub, first, sub_zero]
  rw [mem_segment_iff, mem_segment_iff, ← between]
  refine and_congr_left fun inside => ?_
  rw [← shifted]
  constructor
  · intro line
    by_cases short : q' = p'
    · -- All that is left of the segment is a point of the line.
      rw [short, Set.uIcc_self, Set.uIcc_self] at inside
      have only : z = p' := Prod.ext inside.1 inside.2
      rw [only, sub_self, cross_zero]
    · exact cross_eq_zero_trans (sub_ne_zero.2 short) parallel line
  · intro line
    by_cases short : q = p
    · rw [point short, sub_self, zero_cross]
    · have back : cross (q' - p') (q - p) = 0 := by rw [cross_swap, parallel, neg_zero]
      exact cross_eq_zero_trans (sub_ne_zero.2 short) back line

/-- An integer point of the plane. -/
def place (p : Int × Int) : ℝ × ℝ := (p.1, p.2)

theorem place_injective : Function.Injective place := by
  intro p q same
  rw [place, place, Prod.mk.injEq, Int.cast_inj, Int.cast_inj] at same
  exact Prod.ext same.1 same.2

/-- The points on the line of an edge; an edge without a direction has all of them. -/
def OnLine (edge : Edge) (p : Int × Int) : Prop :=
  cross (edge.2 - edge.1) (p - edge.1) = 0

instance (edge : Edge) (p : Int × Int) : Decidable (OnLine edge p) :=
  inferInstanceAs (Decidable (_ = _))

theorem onLine_iff {edge : Edge} {p : Int × Int} :
    OnLine edge p ↔ cross (place edge.2 - place edge.1) (place p - place edge.1) = 0 := by
  rw [OnLine, ← Int.cast_eq_zero (α := ℝ)]
  simp [cross, place]

end Polygon

/-! ## The Screen -/

/-- The straight edges of a request; a polygon is closed. -/
def Request.edges : Request → List Edge
  | line x0 y0 x1 y1 _ => [((x0, y0), (x1, y1))]
  | fillPolygon corners _ | outlinePolygon corners _ => Polygon.pairs corners
  | _ => []

/-- A point with integer coordinates as it is drawn. -/
def Point.ofInt (p : Int × Int) : Point Number := ⟨.int p.1, .int p.2⟩

/-- The box around an edge. -/
def Rect.spanned (edge : Edge) : Rect Int :=
  ⟨min edge.1.1 edge.2.1, min edge.1.2 edge.2.2, max edge.1.1 edge.2.1, max edge.1.2 edge.2.2⟩

namespace Raster

open SketchScreen.Polygon

/-- An integer brought into the range of the painter. -/
def clamp (v : Int) : Int := max (-2 ^ 20) (min (2 ^ 20) v)

/-- An edge with the coordinates of its ends brought into the range of the
painter, each by itself. -/
def clampEdge (edge : Edge) : Edge :=
  ((clamp edge.1.1, clamp edge.1.2), (clamp edge.2.1, clamp edge.2.2))

theorem nearestPoint_ofInt (p : Int × Int) :
    nearestPoint (.ofInt p) = (clamp p.1, clamp p.2) := by
  show (nearestPixel (.int p.1), nearestPixel (.int p.2)) = _
  rw [nearestPixel_int, nearestPixel_int]
  rfl

/-- The points of an edge that a screen shows, on its sides or between them. -/
def visible (raster : Raster) (edge : Edge) : Set (ℝ × ℝ) :=
  segment ℝ (place edge.1) (place edge.2) ∩ Set.Icc 0 (raster.width, raster.height)

variable {raster : Raster} {edge : Edge} {z : ℝ × ℝ}

/-- What lies on a screen lies between two integers as well after they are clamped. -/
theorem mem_uIcc_clamp_iff {v : ℝ} (nonneg : 0 ≤ v) (modest : v ≤ 1920) (a b : Int) :
    v ∈ Set.uIcc (clamp a : ℝ) (clamp b) ↔ v ∈ Set.uIcc (a : ℝ) b := by
  have cast_clamp : ∀ c : Int, (clamp c : ℝ) = max (-2 ^ 20) (min (2 ^ 20) (c : ℝ)) := by
    intro c
    rw [clamp]
    push_cast
    norm_num
  have below : ∀ c : Int, (clamp c : ℝ) ≤ v ↔ (c : ℝ) ≤ v := by
    intro c
    rw [cast_clamp, max_le_iff, min_le_iff]
    constructor
    · rintro ⟨-, far | le⟩
      · linarith
      · exact le
    · intro le
      exact ⟨by linarith, .inr le⟩
  have above : ∀ c : Int, v ≤ (clamp c : ℝ) ↔ v ≤ (c : ℝ) := by
    intro c
    rw [cast_clamp, le_max_iff, le_min_iff]
    constructor
    · rintro (far | ⟨-, le⟩)
      · linarith
      · exact le
    · intro le
      exact .inr ⟨by linarith, le⟩
  rw [Set.mem_uIcc, Set.mem_uIcc, below, below, above, above]

/-- A point of the screen lies between the ends of an edge as well after they are clamped. -/
theorem between_clampEdge_iff (modest : raster.IsModest)
    (shown : z ∈ Set.Icc (0 : ℝ × ℝ) (raster.width, raster.height)) :
    (z.1 ∈ Set.uIcc (place (clampEdge edge).1).1 (place (clampEdge edge).2).1 ∧
      z.2 ∈ Set.uIcc (place (clampEdge edge).1).2 (place (clampEdge edge).2).2) ↔
    (z.1 ∈ Set.uIcc (place edge.1).1 (place edge.2).1 ∧
      z.2 ∈ Set.uIcc (place edge.1).2 (place edge.2).2) := by
  have width : (raster.width : ℝ) ≤ 1920 := by exact_mod_cast modest.width.2
  have height : (raster.height : ℝ) ≤ 1920 := by exact_mod_cast modest.height.2
  obtain ⟨⟨left, top⟩, right, bottom⟩ := shown
  exact and_congr (mem_uIcc_clamp_iff left (le_trans right width) _ _)
    (mem_uIcc_clamp_iff top (le_trans bottom height) _ _)

/-- Ends that stay on the line of an edge leave what is seen of it. -/
theorem visible_clampEdge (modest : raster.IsModest) (first : OnLine edge (clampEdge edge).1)
    (second : OnLine edge (clampEdge edge).2) :
    raster.visible (clampEdge edge) = raster.visible edge := by
  ext z
  refine and_congr_left fun shown => ?_
  refine mem_segment_congr (onLine_iff.1 first) (onLine_iff.1 second) ?_
    (between_clampEdge_iff modest shown)
  intro point
  rw [clampEdge, place_injective point]

/-- What lies between the ends of an edge beside the screen is not on the screen. -/
theorem not_misses_of_between (shown : z ∈ Set.Icc (0 : ℝ × ℝ) (raster.width, raster.height))
    (between : z.1 ∈ Set.uIcc (place edge.1).1 (place edge.2).1 ∧
      z.2 ∈ Set.uIcc (place edge.1).2 (place edge.2).2) :
    ¬ raster.Misses (.spanned edge) := by
  obtain ⟨⟨left, top⟩, right, bottom⟩ := shown
  obtain ⟨⟨afterLeft, beforeRight⟩, belowTop, aboveBottom⟩ := between
  have columns : 0 ≤ max edge.1.1 edge.2.1 ∧ min edge.1.1 edge.2.1 ≤ raster.width := by
    have real : (0 : ℝ) ≤ max (edge.1.1 : ℝ) edge.2.1 ∧
        min (edge.1.1 : ℝ) edge.2.1 ≤ raster.width :=
      ⟨left.trans beforeRight, afterLeft.trans right⟩
    exact_mod_cast real
  have rows : 0 ≤ max edge.1.2 edge.2.2 ∧ min edge.1.2 edge.2.2 ≤ raster.height := by
    have real : (0 : ℝ) ≤ max (edge.1.2 : ℝ) edge.2.2 ∧
        min (edge.1.2 : ℝ) edge.2.2 ≤ raster.height :=
      ⟨top.trans aboveBottom, belowTop.trans bottom⟩
    exact_mod_cast real
  simp only [Misses, Rect.spanned]
  omega

/-- An edge beside the screen is not seen, nor is it after its ends are clamped. -/
theorem visible_of_misses (modest : raster.IsModest)
    (misses : raster.Misses (.spanned edge)) :
    raster.visible (clampEdge edge) = raster.visible edge := by
  have hidden : raster.visible edge = ∅ := by
    refine Set.eq_empty_of_forall_notMem fun z seen => ?_
    exact not_misses_of_between seen.2 (mem_segment_iff.1 seen.1).2 misses
  have hidden' : raster.visible (clampEdge edge) = ∅ := by
    refine Set.eq_empty_of_forall_notMem fun z seen => ?_
    have between := (between_clampEdge_iff modest seen.2).1 (mem_segment_iff.1 seen.1).2
    exact not_misses_of_between seen.2 between misses
  rw [hidden, hidden']

/-- If two points of an edge are seen, and seen of another edge, the other edge
lies on the line. -/
theorem onLine_of_visible_subset {other : Edge} (two : (raster.visible edge).Nontrivial)
    (same : raster.visible edge ⊆ raster.visible other) :
    OnLine edge other.1 ∧ OnLine edge other.2 := by
  obtain ⟨a, ha, b, hb, ne⟩ := two
  rw [onLine_iff, onLine_iff]
  constructor
  · exact cross_eq_zero_of_mem_segment ne ha.1 hb.1 (same ha).1 (same hb).1
  · have ha' := (same ha).1
    have hb' := (same hb).1
    rw [segment_symm] at ha' hb'
    exact cross_eq_zero_of_mem_segment ne ha.1 hb.1 ha' hb'

theorem clamp_of_mem_range {v : Int} (least : -2 ^ 20 ≤ v) (most : v ≤ 2 ^ 20) :
    clamp v = v := by
  rw [clamp, min_eq_right most, max_eq_right least]

/-- Ends within the range stay where they are. -/
theorem clampEdge_of_isPaintable (inRange : (Rect.spanned edge).IsPaintable) :
    clampEdge edge = edge := by
  have range := inRange.range
  simp only [Rect.spanned, List.forall_mem_cons] at range
  have columns : clamp edge.1.1 = edge.1.1 ∧ clamp edge.2.1 = edge.2.1 :=
    ⟨clamp_of_mem_range (by omega) (by omega), clamp_of_mem_range (by omega) (by omega)⟩
  have rows : clamp edge.1.2 = edge.1.2 ∧ clamp edge.2.2 = edge.2.2 :=
    ⟨clamp_of_mem_range (by omega) (by omega), clamp_of_mem_range (by omega) (by omega)⟩
  rw [clampEdge, columns.1, columns.2, rows.1, rows.2]

/-- An edge that is level or upright stays on its line or is beside the screen. -/
theorem onLine_or_misses (modest : raster.IsModest)
    (straight : edge.1.1 = edge.2.1 ∨ edge.1.2 = edge.2.2) :
    (OnLine edge (clampEdge edge).1 ∧ OnLine edge (clampEdge edge).2) ∨
      raster.Misses (.spanned edge) := by
  have width := modest.width
  have height := modest.height
  simp only [Misses, Rect.spanned, OnLine, cross, Prod.fst_sub, Prod.snd_sub, clampEdge]
  obtain upright | level := straight
  · by_cases inRange : -2 ^ 20 ≤ edge.1.1 ∧ edge.1.1 ≤ 2 ^ 20
    · left
      rw [← upright, clamp_of_mem_range inRange.1 inRange.2]
      simp
    · right
      omega
  · by_cases inRange : -2 ^ 20 ≤ edge.1.2 ∧ edge.1.2 ≤ 2 ^ 20
    · left
      rw [← level, clamp_of_mem_range inRange.1 inRange.2]
      simp
    · right
      omega

/-- How an edge for the painter relates to the edge that was drawn. -/
structure Clamps (raster : Raster) (edge passed : Edge) : Prop where
  /-- Its ends are the clamped ones. -/
  ends : passed = clampEdge edge
  /-- The screen shows the same if the ends stay on the line. -/
  same_of_onLine : OnLine edge passed.1 → OnLine edge passed.2 →
    raster.visible passed = raster.visible edge
  /-- The screen shows the same, which is nothing, of an edge beside it. -/
  same_of_misses : raster.Misses (.spanned edge) → raster.visible passed = raster.visible edge
  /-- The screen shows the same of edges within the range, and of all that are
  level or upright. -/
  same_of_plain :
    (Rect.spanned edge).IsPaintable ∨ edge.1.1 = edge.2.1 ∨ edge.1.2 = edge.2.2 →
    raster.visible passed = raster.visible edge
  /-- If the screen should show more than a point, nothing else keeps it. -/
  onLine_of_same :
    (raster.visible edge).Nontrivial → raster.visible passed = raster.visible edge →
    OnLine edge passed.1 ∧ OnLine edge passed.2

theorem clamps_clampEdge (modest : raster.IsModest) (edge : Edge) :
    raster.Clamps edge (clampEdge edge) where
  ends := rfl
  same_of_onLine := visible_clampEdge modest
  same_of_misses := visible_of_misses modest
  same_of_plain := by
    rintro (inRange | straight)
    · rw [clampEdge_of_isPaintable inRange]
    · obtain ⟨first, second⟩ | misses := onLine_or_misses modest straight
      · exact visible_clampEdge modest first second
      · exact visible_of_misses modest misses
  onLine_of_same two same := onLine_of_visible_subset two same.ge

/-! ## Requests -/

variable {p q : Int × Int} {corners : List (Int × Int)} {k : Nat}

theorem pointsFinite_ofInt (within : ∀ p ∈ corners, (Point.ofInt p).IsWithin k)
    (range : k ≤ 1022) : Geometry.pointsFinite (corners.map .ofInt) = .ok true := by
  refine Geometry.allFinite_of_forall ?_
  rw [List.forall_mem_flatMap, List.forall_mem_map]
  intro p mem
  simp only [List.forall_mem_cons]
  exact ⟨Number.isFinite_int (within p mem).1 range,
    Number.isFinite_int (within p mem).2 range, List.forall_mem_nil _⟩

/-- A line is asked for between its clamped ends. -/
theorem exists_plan_drawLine (raster : Raster)
    (within : ∀ v ∈ [p, q], (Point.ofInt v).IsWithin k) (range : k ≤ 1022) (ink : Color) :
    ∃ r, raster.plan (.drawLine (.ofInt p) (.ofInt q) ink) = .ok (some r) ∧
      r.edges = [(p, q)].map clampEdge := by
  have finite : Geometry.pointsFinite [.ofInt p, .ofInt q] = .ok true :=
    pointsFinite_ofInt within range
  rw [plan, planLine, finite, nearestPoint_ofInt, nearestPoint_ofInt]
  exact ⟨_, rfl, rfl⟩

/-- A polygon is asked for with its corners clamped. -/
theorem exists_planPolygon (within : ∀ p ∈ corners, (Point.ofInt p).IsWithin k)
    (range : k ≤ 1022) (enough : 2 ≤ corners.length) (filled : Bool) (ink : Color) :
    ∃ r, planPolygon filled (corners.map .ofInt) ink = .ok (some r) ∧
      r.edges = (pairs corners).map clampEdge := by
  have clamped : pairs ((corners.map .ofInt).map nearestPoint)
      = (pairs corners).map clampEdge := by
    rw [List.map_map, pairs_map]
    refine List.map_congr_left fun edge _ => ?_
    show (nearestPoint (.ofInt edge.1), nearestPoint (.ofInt edge.2)) = _
    rw [nearestPoint_ofInt, nearestPoint_ofInt]
    rfl
  rw [planPolygon, pointsFinite_ofInt within range, List.length_map]
  show ∃ r, (if corners.length < 2 then _ else _) = _ ∧ _
  rw [if_neg (by omega)]
  refine ⟨_, rfl, ?_⟩
  cases filled with
  | true => exact clamped
  | false => exact clamped

/-- Edges that are clamped one by one. -/
theorem forall₂_clamps {edges passed : List Edge} (modest : raster.IsModest)
    (same : passed = edges.map clampEdge) : List.Forall₂ raster.Clamps edges passed := by
  rw [same, List.forall₂_map_right_iff, List.forall₂_same]
  exact fun edge _ => clamps_clampEdge modest edge

/-- The edges of a polygon reach the painter one by one. -/
theorem exists_asked_polygon (modest : raster.IsModest)
    (within : ∀ p ∈ corners, (Point.ofInt p).IsWithin k) (range : k ≤ 1022)
    (enough : 2 ≤ corners.length) (filled : Bool) (ink : Color) (screen : Screen) :
    ∃ r, screen.Asked (some r)
        (raster.surface.draw (Shape.polygon filled (corners.map .ofInt) ink) screen).1 ∧
      List.Forall₂ raster.Clamps (pairs corners) r.edges := by
  obtain ⟨r, planned, edges⟩ := exists_planPolygon within range enough filled ink
  refine ⟨r, asked_of_plan ?_ screen, forall₂_clamps modest edges⟩
  cases filled with
  | true => exact planned
  | false => exact planned

end Raster

open SketchScreen.Polygon (pairs)

/-- **Clamping keeps what is seen of an edge as long as it keeps the line of the edge.**  Take
any size with sides from 1 to 1920, and any points with integer coordinates of magnitude below
`2 ^ 1000`.  For the line between two of them, the polygon through all of them and the
triangle between three of them, the painter is asked for edges whose ends are the ones that
were drawn, with each coordinate clamped.  The screen shows the same points of such an edge as
of the one that was drawn if both clamped ends lie on the line of the latter, or if it passes
beside the screen; so it does if no coordinate is out of range, and if the edge is level or
upright.  If the screen should show more than a point, it shows the same of no other edge. -/
theorem visible_edges_clamped (raster : Raster)
    (hwidth : 1 ≤ raster.width ∧ raster.width ≤ 1920)
    (hheight : 1 ≤ raster.height ∧ raster.height ≤ 1920) (corners : List (Int × Int))
    (within : ∀ p ∈ corners, p.1.natAbs < 2 ^ 1000 ∧ p.2.natAbs < 2 ^ 1000) (color : Value)
    (machine : Machine Screen) :
    (∀ p ∈ corners, ∀ q ∈ corners, ∃ r, machine.surface.Asked (some r)
        (raster.surface.draw (.drawLine (.ofInt p) (.ofInt q) color.toColor)
          machine.surface).1 ∧
      List.Forall₂ raster.Clamps [(p, q)] r.edges) ∧
    (2 ≤ corners.length →
      ∀ polygon ∈ [Primitive.fillPolygon (corners.map .ofInt) color.toColor,
        .drawPolygon (corners.map .ofInt) color.toColor],
      ∃ r, machine.surface.Asked (some r) (raster.surface.draw polygon machine.surface).1 ∧
        List.Forall₂ raster.Clamps (pairs corners) r.edges) ∧
    (∀ a ∈ corners, ∀ b ∈ corners, ∀ c ∈ corners, ∀ name ∈ ["fillTriangle", "drawTriangle"],
      ∃ r, machine.surface.Asked (some r) (machine.callCommand raster.surface name
          [.number (.int a.1), .number (.int a.2), .number (.int b.1), .number (.int b.2),
            .number (.int c.1), .number (.int c.2), color]).1.surface ∧
        List.Forall₂ raster.Clamps [(a, b), (b, c), (c, a)] r.edges) := by
  have modest : raster.IsModest := ⟨hwidth, hheight⟩
  refine ⟨fun p hp q hq => ?_, fun enough => ?_, fun a ha b hb c hc => ?_⟩
  · have ends : ∀ v ∈ [p, q], (Point.ofInt v).IsWithin 1000 := by
      simp only [List.forall_mem_cons]
      exact ⟨within p hp, within q hq, List.forall_mem_nil _⟩
    obtain ⟨r, planned, edges⟩ :=
      Raster.exists_plan_drawLine raster ends (by decide) color.toColor
    exact ⟨r, Raster.asked_of_plan planned _, Raster.forall₂_clamps modest edges⟩
  · have asked := Raster.exists_asked_polygon modest within (by decide) enough
    simp only [List.forall_mem_cons]
    exact ⟨asked true _ _, asked false _ _, List.forall_mem_nil _⟩
  · have ends : ∀ v ∈ [a, b, c], (Point.ofInt v).IsWithin 1000 := by
      simp only [List.forall_mem_cons]
      exact ⟨within a ha, within b hb, within c hc, List.forall_mem_nil _⟩
    have asked := fun filled => Raster.exists_asked_polygon modest ends (by decide)
      (by simp) filled color.toColor machine.surface
    obtain ⟨r, filled, edges⟩ := asked true
    obtain ⟨r', outlined, edges'⟩ := asked false
    simp only [List.forall_mem_cons]
    exact ⟨⟨r, Machine.asked_callCommand .fillTriangle rfl rfl filled, edges⟩,
      ⟨r', Machine.asked_callCommand .drawTriangle rfl rfl outlined, edges'⟩,
      List.forall_mem_nil _⟩

/-- The upright side of a triangle that reaches far above the screen. -/
theorem visible_edges_clamped_triangle :
    let raster : Raster := ⟨6, 3⟩
    let machine : Machine Screen :=
      ⟨Context.create (.int 6) (.int 3) "", Screen.blank raster .black⟩
    ∃ r, machine.surface.Asked (some r) (machine.callCommand raster.surface "drawTriangle"
        [.number (.int 0), .number (.int 0), .number (.int 4), .number (.int 2),
          .number (.int 4), .number (.int (-3000000)), .text "TFT_RED"]).1.surface ∧
      r.edges = [((0, 0), (4, 2)), ((4, 2), (4, -1048576)), ((4, -1048576), (0, 0))] ∧
      raster.visible ((4, 2), (4, -1048576)) = raster.visible ((4, 2), (4, -3000000)) := by
  intro raster machine
  obtain ⟨-, -, triangles⟩ := visible_edges_clamped raster (by decide) (by decide)
    [(0, 0), (4, 2), (4, -3000000)] (by decide +kernel) (.text "TFT_RED") machine
  obtain ⟨r, asked, clamped⟩ := triangles (0, 0) (by simp) (4, 2) (by simp) (4, -3000000)
    (by simp) "drawTriangle" (by simp)
  obtain ⟨first, _, clamps, rest, edges⟩ := List.forall₂_cons_left_iff.1 clamped
  obtain ⟨second, _, clamps', rest', rfl⟩ := List.forall₂_cons_left_iff.1 rest
  obtain ⟨third, _, clamps'', rest'', rfl⟩ := List.forall₂_cons_left_iff.1 rest'
  obtain rfl := List.forall₂_nil_left_iff.1 rest''
  have same := clamps'.same_of_plain (.inr (.inl rfl))
  rw [clamps'.ends] at same
  refine ⟨r, asked, ?_, same⟩
  rw [edges, clamps.ends, clamps'.ends, clamps''.ends]
  rfl

/-- The line is seen with a slope of one third, and asked for with a slope of one. -/
theorem not_forall_visible_clamped :
    ¬ ∀ (raster : Raster), 1 ≤ raster.width ∧ raster.width ≤ 1920 →
      1 ≤ raster.height ∧ raster.height ≤ 1920 →
      ∀ p q : Int × Int, p.1.natAbs < 2 ^ 1000 ∧ p.2.natAbs < 2 ^ 1000 →
      q.1.natAbs < 2 ^ 1000 ∧ q.2.natAbs < 2 ^ 1000 →
      ∀ (ink : Color) (screen : Screen) (r : Request), screen.Asked (some r)
          (raster.surface.draw (.drawLine (.ofInt p) (.ofInt q) ink) screen).1 →
        ∀ passed ∈ r.edges, raster.visible passed = raster.visible (p, q) := by
  intro always
  let raster : Raster := ⟨6, 3⟩
  have within : ∀ v ∈ [((0, 0) : Int × Int), (3145728, 1048576)],
      (Point.ofInt v).IsWithin 1000 := by
    simp only [List.forall_mem_cons, Point.IsWithin]
    decide +kernel
  obtain ⟨r, planned, edges⟩ := Raster.exists_plan_drawLine raster within (by decide) .black
  have same := always raster (by decide) (by decide) (0, 0) (3145728, 1048576)
    (within _ (by simp)) (within _ (by simp)) .black (Screen.blank raster .black) r
    (Raster.asked_of_plan planned _) ((0, 0), (1048576, 1048576))
    (edges ▸ List.mem_singleton.2 rfl)
  have seen : ((3, 1) : ℝ × ℝ) ∈ raster.visible ((0, 0), (3145728, 1048576)) := by
    refine ⟨Polygon.mem_segment_iff.2 ?_, ?_⟩
    · norm_num [Polygon.cross, Polygon.place]
    · norm_num [raster, Prod.le_def]
  rw [← same] at seen
  have line := (Polygon.mem_segment_iff.1 seen.1).1
  norm_num [Polygon.cross, Polygon.place] at line

end SketchScreen
