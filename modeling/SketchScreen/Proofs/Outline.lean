import Mathlib
import SketchScreen.Geometry

/-!
# Outlines with Round Corners

The outline of a rectangle with round corners, computed with exact fractions, is what it
should be: it has a fixed number of corners, stays in its rectangle and touches all four
sides, is its own image in both mirrors of the rectangle, and turns the same way all around.

## Main Definitions

- `Polygon.pairs`: each entry of a closed row with the next one.
- `Polygon.cross`, `Polygon.turn`: the cross product of two vectors, and of two sides.
- `Corner`: a corner of a rectangle with the directions of the sides before and behind it.
- `Corner.point`, `Corner.arc`: the points of a round corner.
- `Corner.legs`: the side before a round corner and the pieces of the corner, as vectors.
- `Rect.corners`, `Rect.roundCorners`: the corners of a rectangle, and the
  points of its round corners.
- `Rect.flipX`, `Rect.flipY`: the mirrors of a rectangle.

## Design Notes

All four curves are one curve, seen from different corners: it leaves the side before the
corner by the square of what is left of the way, and enters the side behind it by the square
of the way that is gone (`Corner.point`).  The outline is the row of the four arcs
(`exists_roundRectPoints`), so whatever is to be said about its points is said about
`Corner.point`.  To turn the same way all around is a matter of the pieces as vectors: each is
a sum of the two directions of its corner, the first of which gets less from piece to piece
while the second gets more.
-/

namespace SketchScreen

/-- Exact fractions: the operations neither round nor fail. -/
instance : Arithmetic Id ℚ where
  ofInt n := n
  add x y := x + y
  sub x y := x - y
  mul x y := x * y
  div x y := x / y
  lt x y := x < y
  le x y := x ≤ y

namespace Polygon

/-- Each entry of a closed row with the next one; the first follows the last. -/
def pairs {α : Type} (row : List α) : List (α × α) := row.zip (row.rotate 1)

/-- The cross product of two vectors. -/
def cross {α : Type} [Ring α] (u v : α × α) : α := u.1 * v.2 - u.2 * v.1

/-- The vector from one end of a side to the other. -/
def leg {α : Type} [Ring α] (side : Point α × Point α) : α × α :=
  (side.2.x - side.1.x, side.2.y - side.1.y)

/-- The cross product of two sides: not negative if the second turns to where
`y` grows from `x`. -/
def turn {α : Type} [Ring α] (first second : Point α × Point α) : α :=
  cross (leg first) (leg second)

theorem pairs_cons {α : Type} (a : α) (rest : List α) :
    pairs (a :: rest) = (a :: rest).zip (rest ++ [a]) := by
  rw [pairs, List.rotate_cons_succ, List.rotate_zero]

/-- What holds of all pairs of a closed row holds along the row until it is closed. -/
theorem forall_pairs_iff {α : Type} {R : α → α → Prop} {row : List α} {a : α}
    (first : row.head? = some a) :
    (∀ p ∈ pairs row, R p.1 p.2) ↔ List.IsChain R (row ++ [a]) := by
  obtain ⟨rest, rfl⟩ := List.head?_eq_some_iff.1 first
  have open_end : (a :: rest ++ [a]).dropLast = a :: rest := List.dropLast_concat
  rw [List.isChain_iff_forall₂, open_end, List.cons_append, List.tail_cons,
    List.forall₂_iff_zip, pairs_cons]
  constructor
  · intro all
    exact ⟨by simp, fun mem => all _ mem⟩
  · intro chain p mem
    exact chain.2 mem

theorem pairs_map {α β : Type} (f : α → β) (row : List α) :
    pairs (row.map f) = (pairs row).map (Prod.map f f) := by
  rw [pairs, pairs, ← List.map_rotate, List.zip_map]

/-- The vectors from point to point along a path that begins at a point. -/
def legsFrom (p : Point ℚ) : List (Point ℚ) → List (ℚ × ℚ)
  | [] => []
  | q :: rest => leg (p, q) :: legsFrom q rest

/-- The sides of a closed row of points are the legs of the path around it. -/
theorem map_leg_pairs (p : Point ℚ) (rest : List (Point ℚ)) :
    (pairs (p :: rest)).map leg = legsFrom p (rest ++ [p]) := by
  have path : ∀ (last q : Point ℚ) (rest : List (Point ℚ)),
      ((q :: rest).zip (rest ++ [last])).map leg = legsFrom q (rest ++ [last]) := by
    intro last q rest
    induction rest generalizing q with
    | nil => rfl
    | cons a rest ih =>
        show leg (q, a) :: ((a :: rest).zip (rest ++ [last])).map leg = _
        rw [ih]
        rfl
  rw [pairs_cons]
  exact path p p rest

/-- The legs of a path whose first points are numbered. -/
theorem legsFrom_map_range_append (f : ℕ → Point ℚ) (n : ℕ) (rest : List (Point ℚ)) :
    legsFrom (f 0) ((List.range n).map (fun i => f (i + 1)) ++ rest)
      = (List.range n).map (fun i => leg (f i, f (i + 1))) ++ legsFrom (f n) rest := by
  induction n generalizing f with
  | zero => rfl
  | succ n ih =>
      rw [List.range_succ_eq_map, List.map_cons, List.map_map, List.map_cons, List.map_map]
      show leg (f 0, f 1) :: legsFrom (f 1)
        ((List.range n).map (fun i => f (i + 1 + 1)) ++ rest) = _
      rw [ih fun i => f (i + 1)]
      rfl

end Polygon

/-! ## Corners -/

/-- A corner of a rectangle, with the directions of the sides before and behind it. -/
structure Corner where
  place : Point ℚ
  before : ℚ × ℚ
  behind : ℚ × ℚ
  /-- The outline makes a quarter turn. -/
  turns : Polygon.cross before behind = 1

namespace Corner

open SketchScreen.Polygon

variable (c : Corner) (r side : ℚ) (n : ℕ)

/-- The point of a round corner of radius `r` at `t`. -/
def point (t : ℚ) : Point ℚ :=
  ⟨c.place.x - r * (1 - t) ^ 2 * c.before.1 + r * t ^ 2 * c.behind.1,
    c.place.y - r * (1 - t) ^ 2 * c.before.2 + r * t ^ 2 * c.behind.2⟩

/-- The points of a round corner in `n` pieces, its ends included. -/
def arc : List (Point ℚ) := (List.range (n + 1)).map fun i : ℕ => c.point r (i / n)

theorem mem_arc {p : Point ℚ} : p ∈ c.arc r n ↔ ∃ i ≤ n, p = c.point r (i / n) := by
  simp only [arc, List.mem_map, List.mem_range, Nat.lt_succ_iff, eq_comm]

/-- The points of a round corner after its first end. -/
def curve : List (Point ℚ) := (List.range n).map fun i : ℕ => c.point r ((i + 1 : ℕ) / n)

theorem arc_eq_cons : c.arc r n = c.point r 0 :: c.curve r n := by
  rw [arc, List.range_succ_eq_map, List.map_cons, List.map_map, Nat.cast_zero, zero_div]
  rfl

/-- The last point of a round corner is its other end. -/
theorem dropLast_curve_append (pos : 0 < n) :
    (c.curve r n).dropLast ++ [c.point r 1] = c.curve r n := by
  obtain ⟨m, rfl⟩ := Nat.exists_eq_succ_of_ne_zero pos.ne'
  have nonzero : ((m + 1 : ℕ) : ℚ) ≠ 0 := by positivity
  rw [curve, List.range_succ, List.map_append, List.map_singleton, List.dropLast_concat,
    div_self nonzero]

/-- Exactly computed, the curve of a corner has the points of the round corner. -/
theorem bezierPoint_eq (i : ℕ) :
    Geometry.bezierPoint (c.point r 0) c.place (c.point r 1) n i = c.point r (i / n) := by
  have coordinate : ∀ t place before behind : ℚ,
      Geometry.bezierCoordinate (1 - t) t
        (place - r * (1 - 0) ^ 2 * before + r * 0 ^ 2 * behind) place
          (place - r * (1 - 1) ^ 2 * before + r * 1 ^ 2 * behind)
        = place - r * (1 - t) ^ 2 * before + r * t ^ 2 * behind := by
    intro t place before behind
    show (1 - t) * (1 - t) * _ + ((2 : ℤ) : ℚ) * (1 - t) * t * place + t * t * _ = _
    push_cast
    ring
  show Point.mk (Geometry.bezierCoordinate (((1 : ℤ) : ℚ) - (i : ℤ) / (n : ℤ)) _ _ _ _)
    (Geometry.bezierCoordinate (((1 : ℤ) : ℚ) - (i : ℤ) / (n : ℤ)) _ _ _ _) = _
  simp only [Int.cast_one, Int.cast_natCast]
  exact congrArg₂ Point.mk (coordinate _ _ _ _) (coordinate _ _ _ _)

theorem quadBezier_eq (start stop : Point ℚ) (first : c.point r 0 = start)
    (last : c.point r 1 = stop) : Geometry.quadBezier start c.place stop n = c.curve r n := by
  subst first last
  rw [Geometry.quadBezier]
  simp only [bezierPoint_eq]
  exact List.idRun_mapM

/-! ### Directions -/

/-- So much of the direction before a corner, and so much of the one behind it. -/
def mix (share : ℚ × ℚ) : ℚ × ℚ :=
  (share.1 * c.before.1 + share.2 * c.behind.1, share.1 * c.before.2 + share.2 * c.behind.2)

@[simp]
theorem cross_mix (first second : ℚ × ℚ) :
    cross (c.mix first) (c.mix second) = cross first second := by
  have turns := c.turns
  unfold cross mix at *
  linear_combination (first.1 * second.2 - first.2 * second.1) * turns

/-- The shares of a straight side and of the pieces of the round corner at its end. -/
def shares : List (ℚ × ℚ) :=
  (side, 0) :: (List.range n).map fun i : ℕ =>
    (r * (2 * (n - i) - 1) / n ^ 2, r * (2 * i + 1) / n ^ 2)

theorem leg_point (i : ℕ) (pos : 0 < n) :
    leg (c.point r (i / n), c.point r ((i + 1 : ℕ) / n))
      = c.mix (r * (2 * (n - i) - 1) / n ^ 2, r * (2 * i + 1) / n ^ 2) := by
  have nonzero : (n : ℚ) ≠ 0 := by positivity
  unfold leg point mix
  push_cast
  ext
  · field_simp
    ring
  · field_simp
    ring

theorem shares_nonneg (nonneg : 0 ≤ r) (wide : 0 ≤ side) {share : ℚ × ℚ}
    (mem : share ∈ shares r side n) : 0 ≤ share.1 ∧ 0 ≤ share.2 := by
  rw [shares, List.mem_cons, List.mem_map] at mem
  obtain rfl | ⟨i, mem, rfl⟩ := mem
  · exact ⟨wide, le_refl 0⟩
  · have before : (i : ℚ) + 1 ≤ n := by exact_mod_cast List.mem_range.1 mem
    have first : 0 ≤ 2 * ((n : ℚ) - i) - 1 := by linarith
    constructor
    · show 0 ≤ r * (2 * ((n : ℚ) - i) - 1) / n ^ 2
      positivity
    · show 0 ≤ r * (2 * (i : ℚ) + 1) / n ^ 2
      positivity

/-- From piece to piece, the share of the direction behind grows. -/
theorem isChain_shares (nonneg : 0 ≤ r) (wide : 0 ≤ side) :
    List.IsChain (fun u v => 0 ≤ cross u v) (shares r side n) := by
  rw [shares, List.isChain_cons, List.isChain_map]
  constructor
  · intro share mem
    have entry := shares_nonneg r side n nonneg wide
      (List.mem_cons_of_mem _ (List.mem_of_head? mem))
    show 0 ≤ side * share.2 - 0 * share.1
    rw [zero_mul, sub_zero]
    exact mul_nonneg wide entry.2
  · rw [List.isChain_range]
    intro i _
    show 0 ≤ r * (2 * ((n : ℚ) - i) - 1) / n ^ 2 * (r * (2 * (i + 1 : ℕ) + 1) / n ^ 2)
      - r * (2 * (i : ℚ) + 1) / n ^ 2 * (r * (2 * ((n : ℚ) - (i + 1 : ℕ)) - 1) / n ^ 2)
    -- One share falls by two steps while the other grows by two, so what is
    -- left is their sum.
    calc (0 : ℚ) ≤ r ^ 2 * (4 * n) / n ^ 4 := by positivity
      _ = _ := by
        push_cast
        ring

/-- The side before a round corner and the pieces of the corner, as vectors. -/
def legs : List (ℚ × ℚ) := (shares r side n).map c.mix

/-- A round corner goes over into the side behind it without a turn back. -/
theorem isChain_legs_append {next : Corner} {after : ℚ} {rest : List (ℚ × ℚ)}
    (same : c.behind = next.before) (nonneg : 0 ≤ r) (wide : 0 ≤ side) (follows : 0 ≤ after)
    (chain : List.IsChain (fun u v => 0 ≤ cross u v) (next.mix (after, 0) :: rest)) :
    List.IsChain (fun u v => 0 ≤ cross u v)
      (c.legs r side n ++ next.mix (after, 0) :: rest) := by
  rw [legs, List.isChain_append, List.isChain_map]
  refine ⟨?_, chain, ?_⟩
  · simp only [cross_mix]
    exact isChain_shares r side n nonneg wide
  · intro u last v first
    obtain ⟨share, mem, rfl⟩ := List.mem_map.1 (List.mem_of_getLast? last)
    obtain rfl : next.mix (after, 0) = v := by simpa using first
    have straight : next.mix (after, 0) = c.mix (0, after) := by simp [mix, same]
    rw [straight, cross_mix]
    show 0 ≤ share.1 * after - share.2 * 0
    rw [mul_zero, sub_zero]
    exact mul_nonneg (shares_nonneg r side n nonneg wide mem).1 follows

/-- A path that comes to a round corner along the side before it goes on behind the corner. -/
theorem legsFrom_arc_append {p : Point ℚ} {rest : List (Point ℚ)} (pos : 0 < n)
    (straight : leg (p, c.point r 0) = c.mix (side, 0)) :
    legsFrom p (c.arc r n ++ rest) = c.legs r side n ++ legsFrom (c.point r 1) rest := by
  have nonzero : (n : ℚ) ≠ 0 := by positivity
  have curve := legsFrom_map_range_append (fun i : ℕ => c.point r (i / n)) n rest
  simp only [c.leg_point r n _ pos, Nat.cast_zero, zero_div, div_self nonzero] at curve
  rw [c.arc_eq_cons, legs, shares, List.map_cons, List.map_map, ← straight]
  exact congrArg (leg (p, c.point r 0) :: ·) curve

end Corner

/-! ## The Outline -/

namespace Rect

variable (box : Rect ℚ) (r : ℚ)

def topRight : Corner := ⟨⟨box.right, box.top⟩, (1, 0), (0, 1), by simp [Polygon.cross]⟩

def bottomRight : Corner :=
  ⟨⟨box.right, box.bottom⟩, (0, 1), (-1, 0), by simp [Polygon.cross]⟩

def bottomLeft : Corner := ⟨⟨box.left, box.bottom⟩, (-1, 0), (0, -1), by simp [Polygon.cross]⟩

def topLeft : Corner := ⟨⟨box.left, box.top⟩, (0, -1), (1, 0), by simp [Polygon.cross]⟩

/-- The corners of a rectangle in the order in which an outline comes to them. -/
def corners : List Corner := [box.topRight, box.bottomRight, box.bottomLeft, box.topLeft]

/-- The points of all four round corners. -/
def roundCorners (n : ℕ) : List (Point ℚ) := box.corners.flatMap fun c => c.arc r n

@[simp]
theorem topRight_point (t : ℚ) :
    box.topRight.point r t = ⟨box.right - r * (1 - t) ^ 2, box.top + r * t ^ 2⟩ := by
  simp [Corner.point, topRight]

@[simp]
theorem bottomRight_point (t : ℚ) :
    box.bottomRight.point r t = ⟨box.right - r * t ^ 2, box.bottom - r * (1 - t) ^ 2⟩ := by
  simp [Corner.point, bottomRight, sub_eq_add_neg]

@[simp]
theorem bottomLeft_point (t : ℚ) :
    box.bottomLeft.point r t = ⟨box.left + r * (1 - t) ^ 2, box.bottom - r * t ^ 2⟩ := by
  simp [Corner.point, bottomLeft, sub_eq_add_neg]

@[simp]
theorem topLeft_point (t : ℚ) :
    box.topLeft.point r t = ⟨box.left + r * t ^ 2, box.top + r * (1 - t) ^ 2⟩ := by
  simp [Corner.point, topLeft]

/-- The round corners stay in a rectangle that has room for them. -/
theorem point_mem {c : Corner} (corner : c ∈ box.corners) {t : ℚ} (nonneg : 0 ≤ r)
    (from_zero : 0 ≤ t) (to_one : t ≤ 1) (wide : box.left + r ≤ box.right)
    (high : box.top + r ≤ box.bottom) :
    (box.left ≤ (c.point r t).x ∧ (c.point r t).x ≤ box.right) ∧
      box.top ≤ (c.point r t).y ∧ (c.point r t).y ≤ box.bottom := by
  have gone : 0 ≤ r * t ^ 2 := by positivity
  have left : 0 ≤ r * (1 - t) ^ 2 := by positivity
  have gone_le : r * t ^ 2 ≤ r := mul_le_of_le_one_right nonneg (by nlinarith)
  have left_le : r * (1 - t) ^ 2 ≤ r := mul_le_of_le_one_right nonneg (by nlinarith)
  simp only [corners, List.mem_cons, List.not_mem_nil, or_false] at corner
  obtain rfl | rfl | rfl | rfl := corner
  all_goals simp only [topRight_point, bottomRight_point, bottomLeft_point, topLeft_point]
  all_goals refine ⟨⟨?_, ?_⟩, ?_, ?_⟩ <;> linarith

/-- The image of a point in the upright mirror of a rectangle. -/
def flipX (p : Point ℚ) : Point ℚ := ⟨box.left + box.right - p.x, p.y⟩

/-- The image of a point in the level mirror of a rectangle. -/
def flipY (p : Point ℚ) : Point ℚ := ⟨p.x, box.top + box.bottom - p.y⟩

theorem flipX_flipX (p : Point ℚ) : box.flipX (box.flipX p) = p := by simp [flipX]

theorem flipY_flipY (p : Point ℚ) : box.flipY (box.flipY p) = p := by simp [flipY]

/-- In the upright mirror, each corner is the other one at its height, passed in
the other direction. -/
theorem exists_flipX {c : Corner} (corner : c ∈ box.corners) :
    ∃ d ∈ box.corners, ∀ t, box.flipX (c.point r t) = d.point r (1 - t) := by
  simp only [corners, List.mem_cons, List.not_mem_nil, or_false] at corner
  obtain rfl | rfl | rfl | rfl := corner
  · refine ⟨box.topLeft, by simp [corners], fun t => ?_⟩
    simp only [topRight_point, topLeft_point, flipX]
    congr 1 <;> ring
  · refine ⟨box.bottomLeft, by simp [corners], fun t => ?_⟩
    simp only [bottomRight_point, bottomLeft_point, flipX]
    congr 1
    ring
  · refine ⟨box.bottomRight, by simp [corners], fun t => ?_⟩
    simp only [bottomRight_point, bottomLeft_point, flipX]
    congr 1 <;> ring
  · refine ⟨box.topRight, by simp [corners], fun t => ?_⟩
    simp only [topRight_point, topLeft_point, flipX]
    congr 1
    ring

/-- In the level mirror, each corner is the other one on its side, passed in the
other direction. -/
theorem exists_flipY {c : Corner} (corner : c ∈ box.corners) :
    ∃ d ∈ box.corners, ∀ t, box.flipY (c.point r t) = d.point r (1 - t) := by
  simp only [corners, List.mem_cons, List.not_mem_nil, or_false] at corner
  obtain rfl | rfl | rfl | rfl := corner
  · refine ⟨box.bottomRight, by simp [corners], fun t => ?_⟩
    simp only [topRight_point, bottomRight_point, flipY]
    congr 1
    ring
  · refine ⟨box.topRight, by simp [corners], fun t => ?_⟩
    simp only [topRight_point, bottomRight_point, flipY]
    congr 1 <;> ring
  · refine ⟨box.topLeft, by simp [corners], fun t => ?_⟩
    simp only [bottomLeft_point, topLeft_point, flipY]
    congr 1
    ring
  · refine ⟨box.bottomLeft, by simp [corners], fun t => ?_⟩
    simp only [bottomLeft_point, topLeft_point, flipY]
    congr 1 <;> ring

/-- The sides of a rectangle and its round corners as vectors, from the top side on. -/
def roundLegs (n : ℕ) : List (ℚ × ℚ) :=
  box.topRight.legs r (box.right - box.left - 2 * r) n
    ++ (box.bottomRight.legs r (box.bottom - box.top - 2 * r) n
      ++ (box.bottomLeft.legs r (box.right - box.left - 2 * r) n
        ++ box.topLeft.legs r (box.bottom - box.top - 2 * r) n))

theorem legsFrom_roundCorners {n : ℕ} (pos : 0 < n) :
    Polygon.legsFrom (box.topLeft.point r 1) (box.roundCorners r n) = box.roundLegs r n := by
  have top : Polygon.leg (box.topLeft.point r 1, box.topRight.point r 0)
      = box.topRight.mix (box.right - box.left - 2 * r, 0) := by
    rw [topLeft_point, topRight_point]
    simp [Polygon.leg, Corner.mix, topRight]
    ring
  have right : Polygon.leg (box.topRight.point r 1, box.bottomRight.point r 0)
      = box.bottomRight.mix (box.bottom - box.top - 2 * r, 0) := by
    rw [topRight_point, bottomRight_point]
    simp [Polygon.leg, Corner.mix, bottomRight]
    ring
  have bottom : Polygon.leg (box.bottomRight.point r 1, box.bottomLeft.point r 0)
      = box.bottomLeft.mix (box.right - box.left - 2 * r, 0) := by
    rw [bottomRight_point, bottomLeft_point]
    simp [Polygon.leg, Corner.mix, bottomLeft]
    ring
  have left : Polygon.leg (box.bottomLeft.point r 1, box.topLeft.point r 0)
      = box.topLeft.mix (box.bottom - box.top - 2 * r, 0) := by
    rw [bottomLeft_point, topLeft_point]
    simp [Polygon.leg, Corner.mix, topLeft]
    ring
  show Polygon.legsFrom _ (_ ++ (_ ++ (_ ++ (_ ++ [])))) = _
  rw [box.topRight.legsFrom_arc_append r _ n pos top,
    box.bottomRight.legsFrom_arc_append r _ n pos right,
    box.bottomLeft.legsFrom_arc_append r _ n pos bottom,
    box.topLeft.legsFrom_arc_append r _ n pos left]
  simp only [Polygon.legsFrom, List.append_nil, roundLegs]

/-- The vectors around a rectangle that has room for its round corners never turn back. -/
theorem cross_nonneg_of_mem_pairs {n : ℕ} (nonneg : 0 ≤ r)
    (wide : 0 ≤ box.right - box.left - 2 * r) (high : 0 ≤ box.bottom - box.top - 2 * r) :
    ∀ p ∈ Polygon.pairs (box.roundLegs r n), 0 ≤ Polygon.cross p.1 p.2 := by
  refine (Polygon.forall_pairs_iff (R := fun u v => 0 ≤ Polygon.cross u v) rfl).2 ?_
  rw [roundLegs, List.append_assoc, List.append_assoc, List.append_assoc]
  -- Each corner leads over to the side behind it; behind the last one, the top
  -- side closes the row.
  refine box.topRight.isChain_legs_append r _ n rfl nonneg wide high ?_
  refine box.bottomRight.isChain_legs_append r _ n rfl nonneg high wide ?_
  refine box.bottomLeft.isChain_legs_append r _ n rfl nonneg wide high ?_
  refine box.topLeft.isChain_legs_append r _ n rfl nonneg high wide ?_
  exact List.isChain_singleton _

end Rect

open SketchScreen.Geometry (roundRectPoints)

variable (x y w h r : ℚ) (n : ℕ)

/-- The outline begins at the end of the last round corner, and then has the
points of all four. -/
theorem exists_roundRectPoints (pos : 0 < n) :
    ∃ rest, Id.run (roundRectPoints x y w h r n) = ⟨x + r, y⟩ :: rest ∧
      rest ++ [⟨x + r, y⟩] = Rect.roundCorners ⟨x, y, x + w, y + h⟩ r n := by
  let box : Rect ℚ := ⟨x, y, x + w, y + h⟩
  have topRight := box.topRight.quadBezier_eq r n ⟨x + w - r, y⟩ ⟨x + w, y + r⟩
    (by simp [box]) (by simp [box])
  have bottomRight := box.bottomRight.quadBezier_eq r n ⟨x + w, y + h - r⟩ ⟨x + w - r, y + h⟩
    (by simp [box]) (by simp [box])
  have bottomLeft := box.bottomLeft.quadBezier_eq r n ⟨x + r, y + h⟩ ⟨x, y + h - r⟩
    (by simp [box]) (by simp [box])
  have topLeft := box.topLeft.quadBezier_eq r n ⟨x, y + r⟩ ⟨x + r, y⟩ (by simp [box])
    (by simp [box])
  have closed : (box.topLeft.curve r n).dropLast ++ [⟨x + r, y⟩] = box.topLeft.curve r n := by
    simpa [box] using box.topLeft.dropLast_curve_append r n pos
  -- The first point of each curve stands alone before it, and the last point of
  -- all is the first.
  have computed : Id.run (roundRectPoints x y w h r n) = ⟨x + r, y⟩ ::
      ([⟨x + w - r, y⟩] ++ box.topRight.curve r n ++ [⟨x + w, y + h - r⟩]
        ++ box.bottomRight.curve r n
        ++ [⟨x + r, y + h⟩] ++ box.bottomLeft.curve r n ++ [⟨x, y + r⟩]
        ++ (box.topLeft.curve r n).dropLast) := by
    rw [← topRight, ← bottomRight, ← bottomLeft, ← topLeft]
    rfl
  refine ⟨_, computed, ?_⟩
  show _ = box.corners.flatMap fun c => c.arc r n
  rw [List.append_assoc, closed]
  simp [Rect.corners, Corner.arc_eq_cons, box]

section

variable {x y w h r n} (pos : 0 < n)

include pos

theorem length_roundRectPoints :
    (Id.run (roundRectPoints x y w h r n)).length = 4 * n + 4 := by
  obtain ⟨rest, computed, closed⟩ := exists_roundRectPoints x y w h r n pos
  have length := congrArg List.length closed
  simp [Rect.roundCorners, Rect.corners, Corner.arc] at length
  rw [computed, List.length_cons]
  omega

theorem mem_roundRectPoints {p : Point ℚ} :
    p ∈ Id.run (roundRectPoints x y w h r n) ↔
      ∃ c ∈ Rect.corners ⟨x, y, x + w, y + h⟩, ∃ i ≤ n, p = c.point r (i / n) := by
  obtain ⟨rest, computed, closed⟩ := exists_roundRectPoints x y w h r n pos
  have same : p ∈ Rect.roundCorners ⟨x, y, x + w, y + h⟩ r n ↔
      p ∈ (⟨x + r, y⟩ :: rest : List (Point ℚ)) := by
    rw [← closed, List.mem_append, List.mem_singleton, List.mem_cons, or_comm]
  rw [computed, ← same, Rect.roundCorners, List.mem_flatMap]
  simp only [Corner.mem_arc]

/-- The outline turns the same way at each of its points. -/
theorem turn_nonneg_of_mem (nonneg : 0 ≤ r) (wide : 2 * r ≤ w) (high : 2 * r ≤ h) :
    ∀ sides ∈ Polygon.pairs (Polygon.pairs (Id.run (roundRectPoints x y w h r n))),
      0 ≤ Polygon.turn sides.1 sides.2 := by
  intro sides mem
  obtain ⟨rest, computed, closed⟩ := exists_roundRectPoints x y w h r n pos
  let box : Rect ℚ := ⟨x, y, x + w, y + h⟩
  have start : (⟨x + r, y⟩ : Point ℚ) = box.topLeft.point r 1 := by simp [box]
  have along : (Polygon.pairs (⟨x + r, y⟩ :: rest)).map Polygon.leg = box.roundLegs r n := by
    rw [Polygon.map_leg_pairs, closed, start, box.legsFrom_roundCorners r pos]
  have around := box.cross_nonneg_of_mem_pairs r (n := n) nonneg
    (show 0 ≤ x + w - x - 2 * r by linarith) (show 0 ≤ y + h - y - 2 * r by linarith)
  rw [computed] at mem
  rw [← along, Polygon.pairs_map, List.forall_mem_map] at around
  exact around sides mem

/-- A mirror that makes corners of corners makes the outline its own image. -/
theorem mem_iff_flip_mem {flip : Point ℚ → Point ℚ} (twice : ∀ p, flip (flip p) = p)
    (mirror : ∀ c ∈ Rect.corners ⟨x, y, x + w, y + h⟩,
      ∃ d ∈ Rect.corners ⟨x, y, x + w, y + h⟩, ∀ t, flip (c.point r t)
        = d.point r (1 - t)) (p : Point ℚ) :
    p ∈ Id.run (roundRectPoints x y w h r n) ↔
      flip p ∈ Id.run (roundRectPoints x y w h r n) := by
  have image : ∀ p ∈ Id.run (roundRectPoints x y w h r n),
      flip p ∈ Id.run (roundRectPoints x y w h r n) := by
    intro p mem
    obtain ⟨c, corner, i, le, rfl⟩ := (mem_roundRectPoints pos).1 mem
    obtain ⟨d, other, opposite⟩ := mirror c corner
    refine (mem_roundRectPoints pos).2 ⟨d, other, n - i, Nat.sub_le n i, ?_⟩
    have nonzero : (n : ℚ) ≠ 0 := by positivity
    rw [opposite, Nat.cast_sub le, sub_div, div_self nonzero]
  exact ⟨image p, fun mem => twice p ▸ image (flip p) mem⟩

/-- The ends of the round corners are points of the outline. -/
theorem ends_mem_roundRectPoints {c : Corner}
    (corner : c ∈ Rect.corners ⟨x, y, x + w, y + h⟩) :
    c.point r 0 ∈ Id.run (roundRectPoints x y w h r n) ∧
      c.point r 1 ∈ Id.run (roundRectPoints x y w h r n) := by
  have nonzero : (n : ℚ) ≠ 0 := by positivity
  constructor
  · exact (mem_roundRectPoints pos).2 ⟨c, corner, 0, Nat.zero_le n, by simp⟩
  · exact (mem_roundRectPoints pos).2 ⟨c, corner, n, le_refl n, by rw [div_self nonzero]⟩

end

/-- **The outline of a rectangle with round corners is a symmetric convex loop in the
rectangle.**  Take any rectangle and radius in integers such that the round corners do not
overlap, and any number of pieces for a corner.  Computed with exact fractions, the
outline then has four points more than its corners have pieces.  All of them lie in the
rectangle, and some on each of its sides.  The outline turns the same way at each of its
points, the first and the last included, and its points are their own images in both
mirrors of the rectangle. -/
theorem roundRectPoints_outline (x y w h r : ℤ) (n : ℕ) (pos : 1 ≤ n) (nonneg : 0 ≤ 2 * r)
    (room : 2 * r ≤ min w h) :
    let points := Id.run (roundRectPoints (x : ℚ) y w h r n)
    points.length = 4 * n + 4 ∧
    (∀ p ∈ points, (x ≤ p.x ∧ p.x ≤ x + w) ∧ y ≤ p.y ∧ p.y ≤ y + h) ∧
    (∀ sides ∈ Polygon.pairs (Polygon.pairs points), 0 ≤ Polygon.turn sides.1 sides.2) ∧
    (∀ p, p ∈ points ↔ (⟨x + (x + w) - p.x, p.y⟩ : Point ℚ) ∈ points) ∧
    (∀ p, p ∈ points ↔ (⟨p.x, y + (y + h) - p.y⟩ : Point ℚ) ∈ points) ∧
    (∃ p ∈ points, p.x = x) ∧ (∃ p ∈ points, p.x = x + w) ∧
      (∃ p ∈ points, p.y = y) ∧ (∃ p ∈ points, p.y = y + h) := by
  intro points
  have radius : (0 : ℚ) ≤ r := by exact_mod_cast (by omega : 0 ≤ r)
  have wide : 2 * (r : ℚ) ≤ w := by exact_mod_cast (by omega : 2 * r ≤ w)
  have high : 2 * (r : ℚ) ≤ h := by exact_mod_cast (by omega : 2 * r ≤ h)
  let box : Rect ℚ := ⟨x, y, x + w, y + h⟩
  have topRight := ends_mem_roundRectPoints (r := r) pos
    (by simp [Rect.corners] : box.topRight ∈ box.corners)
  have bottomLeft := ends_mem_roundRectPoints (r := r) pos
    (by simp [Rect.corners] : box.bottomLeft ∈ box.corners)
  refine ⟨length_roundRectPoints pos, ?_, turn_nonneg_of_mem pos radius wide high,
    mem_iff_flip_mem pos box.flipX_flipX fun c => box.exists_flipX r,
    mem_iff_flip_mem pos box.flipY_flipY fun c => box.exists_flipY r, ⟨_, bottomLeft.2, ?_⟩,
    ⟨_, topRight.2, ?_⟩, ⟨_, topRight.1, ?_⟩, ⟨_, bottomLeft.1, ?_⟩⟩
  · intro p mem
    obtain ⟨c, corner, i, le, rfl⟩ := (mem_roundRectPoints pos).1 mem
    have share : (i : ℚ) / n ≤ 1 := div_le_one_of_le₀ (by exact_mod_cast le) (by positivity)
    exact box.point_mem r corner radius (by positivity) share
      (show (x : ℚ) + r ≤ x + w by linarith) (show (y : ℚ) + r ≤ y + h by linarith)
  all_goals simp [box]

/-- The radius is half the side: nothing is left of the sides between the corners. -/
theorem roundRectPoints_outline_circle :
    (Id.run (roundRectPoints ((1 : ℤ) : ℚ) (2 : ℤ) (6 : ℤ) (6 : ℤ) (3 : ℤ) 2)).length = 12 ∧
    ∃ p ∈ Id.run (roundRectPoints ((1 : ℤ) : ℚ) (2 : ℤ) (6 : ℤ) (6 : ℤ) (3 : ℤ) 2),
      p.x = ((1 : ℤ) : ℚ) := by
  have outline := roundRectPoints_outline 1 2 6 6 3 2 (by decide) (by decide) (by decide)
  exact ⟨outline.1, outline.2.2.2.2.2.1⟩

end SketchScreen
