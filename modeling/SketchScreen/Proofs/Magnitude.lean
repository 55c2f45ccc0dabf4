import Mathlib.Algebra.Order.Field.Power
import Mathlib.Algebra.Order.Ring.Rat
import Mathlib.Tactic.GCongr
import Mathlib.Tactic.Positivity
import Mathlib.Tactic.Ring
import SketchScreen.Fault
import SketchScreen.Geometry

/-!
# Numbers within the Range of Floats

Arithmetic fails only where an integer beyond the range of floats meets a float.  A
number that is a float, or an integer of no more than some bits, stays away from there,
and so do sums of such numbers.

## Main Definitions

- `Gives`: a computation that gives a result, and what holds of the result.
- `Number.IsWithin`: a float, or an integer of at most some bits.
- `Number.IsFloat`: a float.

## Design Notes

That a quotient below `2 ^ 1022` has a nearest float is `isSome_nearest?`; it bounds the
exponent and the mantissa of the rounded quotient one by one.  Every operation then has one
lemma that says that it gives a result, and how many bits the result has.  In geometry a
product is only ever taken with a float, and is a float again.
-/

namespace SketchScreen

/-! ## Computations that give a result -/

/-- A computation that gives a result, of which `P` holds. -/
def Gives {ε α : Type} (P : α → Prop) (computation : Except ε α) : Prop :=
  ∃ a, computation = .ok a ∧ P a

namespace Gives

variable {ε α β : Type} {P : α → Prop} {Q : β → Prop}

theorem pure {a : α} (h : P a) : Gives P (Pure.pure a : Except ε α) := ⟨a, rfl, h⟩

theorem bind {computation : Except ε α} {next : α → Except ε β} (h : Gives P computation)
    (following : ∀ a, P a → Gives Q (next a)) : Gives Q (computation >>= next) := by
  obtain ⟨a, rfl, holds⟩ := h
  exact following a holds

theorem mono {P' : α → Prop} {computation : Except ε α} (h : Gives P computation)
    (weaker : ∀ a, P a → P' a) : Gives P' computation := by
  obtain ⟨a, result, holds⟩ := h
  exact ⟨a, result, weaker a holds⟩

theorem ite {c : Prop} [Decidable c] {first second : Except ε α} (yes : c → Gives P first)
    (no : ¬ c → Gives P second) : Gives P (if c then first else second) := by
  split
  · exact yes ‹_›
  · exact no ‹_›

theorem liftNumber {computation : Except NumberFault α} (h : Gives P computation) :
    Gives P (Fault.liftNumber computation) := by
  obtain ⟨a, rfl, holds⟩ := h
  exact ⟨a, rfl, holds⟩

/-- A row of computations that give a result gives the row of the results. -/
theorem mapM {f : α → Except ε β} {items : List α} (h : ∀ a ∈ items, Gives Q (f a)) :
    Gives (fun results => ∀ b ∈ results, Q b) (items.mapM f) := by
  induction items with
  | nil =>
      rw [List.mapM_nil]
      exact .pure (List.forall_mem_nil _)
  | cons a items ih =>
      rw [List.forall_mem_cons] at h
      rw [List.mapM_cons]
      refine .bind h.1 fun b hb => .bind (ih h.2) fun results hresults => .pure ?_
      exact List.forall_mem_cons.mpr ⟨hb, hresults⟩

end Gives

namespace Number

/-! ## Quotients that have a nearest float -/

namespace Binary

/-- A quotient that is scaled by a power of two, in whole numbers and in fractions. -/
theorem scaled_lt_iff (num den limit : Nat) (e : Int) :
    num * twoTo (-e).toNat < limit * (den * twoTo e.toNat)
      ↔ (num : ℚ) < limit * den * 2 ^ e := by
  have power : (2 : ℚ) ^ e * 2 ^ (-e).toNat = 2 ^ e.toNat := by
    obtain ⟨n, rfl | rfl⟩ := e.eq_nat_or_neg
    · simp
    · simp
  have positive : (0 : ℚ) < 2 ^ (-e).toNat := by positivity
  calc num * twoTo (-e).toNat < limit * (den * twoTo e.toNat)
      ↔ (num : ℚ) * 2 ^ (-e).toNat < limit * (den * 2 ^ e.toNat) := by
        rw [← @Nat.cast_lt ℚ]
        simp [twoTo]
    _ ↔ (num : ℚ) * 2 ^ (-e).toNat < limit * den * 2 ^ e * 2 ^ (-e).toNat := by
        rw [← power, mul_assoc (limit * den : ℚ), ← mul_assoc (limit : ℚ)]
    _ ↔ (num : ℚ) < limit * den * 2 ^ e := mul_lt_mul_iff_left₀ positive

/-- A rounded quotient is no greater than a whole number that the quotient is below. -/
theorem roundDiv_le {num den limit : Nat} (h : num < limit * den) :
    roundDiv num den ≤ limit := by
  have whole : num / den < limit := Nat.div_lt_of_lt_mul (by rwa [Nat.mul_comm])
  simp only [roundDiv]
  split
  · exact whole
  · exact Nat.le_of_lt whole

/-- The scale of a quotient by the bits of its parts: the first guess, or one less if that
leaves the mantissa too narrow, but no less than the smallest exponent. -/
theorem scale_cases (num den : Nat) :
    ∃ guess : Int, guess = (num.log2 : Int) - den.log2 - 52 ∧
      (scale num den = Max.max guess (-1074) ∨
        (num : ℚ) < (2 ^ 52 : Nat) * den * 2 ^ guess ∧
        scale num den = Max.max (guess - 1) (-1074)) := by
  refine ⟨_, rfl, ?_⟩
  generalize guess : (num.log2 : Int) - den.log2 - 52 = g
  have told : scale num den = Max.max (if num * twoTo (-g).toNat < den * twoTo (52 + g.toNat)
      then g - 1 else g) (-1074) := by
    rw [← guess]
    rfl
  rw [told]
  split
  · rename_i narrow
    refine Or.inr ⟨(scaled_lt_iff ..).mp ?_, rfl⟩
    calc num * twoTo (-g).toNat < den * twoTo (52 + g.toNat) := narrow
      _ = 2 ^ 52 * (den * twoTo g.toNat) := by
        simp only [twoTo, Nat.pow_eq, Nat.pow_add]
        ring
  · exact Or.inl rfl

/-- The exponent of a quotient is bounded by the size of the quotient. -/
theorem scale_le {num den k : Nat} (positive : num ≠ 0) (h : num < 2 ^ k * den) :
    scale num den ≤ k - 52 := by
  have below : 2 ^ num.log2 < 2 ^ (k + (den.log2 + 1)) := by
    calc 2 ^ num.log2 ≤ num := Nat.log2_self_le positive
      _ < 2 ^ k * den := h
      _ ≤ 2 ^ k * 2 ^ (den.log2 + 1) := Nat.mul_le_mul_left _ Nat.lt_log2_self.le
      _ = 2 ^ (k + (den.log2 + 1)) := (Nat.pow_add 2 _ _).symm
  have bits : num.log2 < k + (den.log2 + 1) := (Nat.pow_lt_pow_iff_right (by decide)).mp below
  obtain ⟨guess, bound, same | ⟨-, same⟩⟩ := scale_cases num den
  · omega
  · omega

/-- **The scale leaves a quotient a mantissa of at most 53 bits.** -/
theorem lt_of_scale {num den : Nat} (positive : den ≠ 0) :
    (num : ℚ) < (2 ^ 53 : Nat) * den * 2 ^ scale num den := by
  have enough : ∀ e : Int, e ≤ scale num den → (num : ℚ) < (2 ^ 53 : Nat) * den * 2 ^ e →
      (num : ℚ) < (2 ^ 53 : Nat) * den * 2 ^ scale num den := by
    intro e le lt
    have power : (2 : ℚ) ^ e ≤ 2 ^ scale num den := zpow_le_zpow_right₀ (by norm_num) le
    exact lt.trans_le (by gcongr)
  obtain ⟨guess, bound, same | ⟨narrow, same⟩⟩ := scale_cases num den
  · refine enough guess (by omega) ?_
    have exponent : ((num.log2 + 1 : Nat) : Int) = 53 + den.log2 + guess := by
      push_cast
      omega
    calc (num : ℚ) < (2 ^ (num.log2 + 1) : Nat) := by exact_mod_cast Nat.lt_log2_self
      _ = 2 ^ (53 + (den.log2 : Int) + guess) := by
        rw [← exponent, zpow_natCast]
        push_cast
        rfl
      _ = (2 ^ 53 : Nat) * (2 ^ den.log2 : Nat) * 2 ^ guess := by
        rw [zpow_add₀ (by norm_num), zpow_add₀ (by norm_num)]
        push_cast
        rfl
      _ ≤ (2 ^ 53 : Nat) * den * 2 ^ guess := by
        have low : ((2 ^ den.log2 : Nat) : ℚ) ≤ den := by
          exact_mod_cast Nat.log2_self_le positive
        gcongr
  · refine enough (guess - 1) (by omega) (narrow.trans_eq ?_)
    rw [zpow_sub_one₀ (by norm_num)]
    push_cast
    ring

/-- **A quotient that is not too large has a nearest float.** -/
theorem isSome_nearest? {num den k : Nat} (positive : den ≠ 0) (h : num < 2 ^ k * den)
    (range : k ≤ 1022) (negative : Bool) : (nearest? negative num den).isSome = true := by
  have bits : nearestBits num den < exponentLimit * twoTo mantissaBits := by
    rw [nearestBits]
    split
    · decide
    · rename_i nonzero
      have mantissa : (nearestParts num den).1 ≤ 2 ^ 53 :=
        roundDiv_le ((scaled_lt_iff ..).mpr (lt_of_scale positive))
      have exponent : ((nearestParts num den).2 - minExponent).toNat ≤ 2044 := by
        have bound : (nearestParts num den).2 ≤ k - 52 := scale_le nonzero h
        rw [minExponent]
        omega
      have width : twoTo mantissaBits = 2 ^ 52 := rfl
      rw [width, exponentLimit]
      have : ((nearestParts num den).2 - minExponent).toNat * 2 ^ 52 ≤ 2044 * 2 ^ 52 :=
        Nat.mul_le_mul_right _ exponent
      show ((nearestParts num den).2 - minExponent).toNat * 2 ^ 52
        + (nearestParts num den).1 < _
      omega
  rw [nearest?, if_pos bits]
  rfl

end Binary

/-! ## Numbers of few bits -/

/-- A float, or an integer of at most some bits. -/
def IsWithin (bits : Nat) : Number → Prop
  | int n => n.natAbs < 2 ^ bits
  | float _ => True

instance (bits : Nat) : (n : Number) → Decidable (IsWithin bits n)
  | int n => inferInstanceAs (Decidable (n.natAbs < 2 ^ bits))
  | float _ => inferInstanceAs (Decidable True)

/-- A float. -/
def IsFloat : Number → Prop
  | int _ => False
  | float _ => True

theorem IsFloat.isWithin {n : Number} (h : n.IsFloat) (k : Nat) : n.IsWithin k := by
  cases n with
  | int n => cases h
  | float x => trivial

theorem IsWithin.mono {n : Number} {k k' : Nat} (h : n.IsWithin k) (le : k ≤ k') :
    n.IsWithin k' := by
  cases n with
  | int n => exact Nat.lt_of_lt_of_le h (Nat.pow_le_pow_right (by decide) le)
  | float x => trivial

theorem IsWithin.min {a b : Number} {k : Nat} (ha : a.IsWithin k) (hb : b.IsWithin k) :
    (a.min b).IsWithin k := by
  unfold Number.min
  split
  · exact hb
  · exact ha

theorem IsWithin.max {a b : Number} {k : Nat} (ha : a.IsWithin k) (hb : b.IsWithin k) :
    (a.max b).IsWithin k := by
  unfold Number.max
  split
  · exact hb
  · exact ha

section Arithmetic

variable {a b : Number} {k : Nat}

/-- **A number within range has a nearest float.** -/
theorem toFloat_gives (h : a.IsWithin k) (range : k ≤ 1022) :
    Gives (fun _ => True) a.toFloat := by
  cases a with
  | int n =>
      have below : n.natAbs < 2 ^ k * 1 := by rw [Nat.mul_one]; exact h
      obtain ⟨x, found⟩ :=
        Option.isSome_iff_exists.mp (Binary.isSome_nearest? (by decide) below range (n < 0))
      refine ⟨x, ?_, trivial⟩
      rw [toFloat, intToFloat, found]
  | float x => exact ⟨x, rfl, trivial⟩

/-- Numbers that are taken as floats give a float. -/
theorem onFloats_gives (onFloats : Float → Float → Float) (ha : a.IsWithin k)
    (hb : b.IsWithin k) (range : k ≤ 1022) :
    Gives IsFloat (do
      let x ← a.toFloat
      let y ← b.toFloat
      return float (onFloats x y)) :=
  .bind (toFloat_gives ha range) fun _ _ => .bind (toFloat_gives hb range) fun _ _ =>
    .pure trivial

/-- What integers are combined to is bounded, and all else is a float. -/
theorem combine_gives {onInts : Int → Int → Int} {onFloats : Float → Float → Float}
    {bits : Nat} (ha : a.IsWithin k) (hb : b.IsWithin k) (range : k ≤ 1022)
    (bound : ∀ m n : Int, m.natAbs < 2 ^ k → n.natAbs < 2 ^ k →
      (onInts m n).natAbs < 2 ^ bits) :
    Gives (IsWithin bits) (combine onInts onFloats a b) := by
  have floats := (onFloats_gives onFloats ha hb range).mono fun c hc => hc.isWithin bits
  cases a with
  | int m =>
      cases b with
      | int n => exact ⟨_, rfl, bound m n ha hb⟩
      | float y => exact floats
  | float x => exact floats

/-- What a float is combined with is a float again. -/
theorem combine_gives_float {onInts : Int → Int → Int} {onFloats : Float → Float → Float}
    (ha : a.IsWithin k) (hb : b.IsWithin k) (range : k ≤ 1022)
    (float : a.IsFloat ∨ b.IsFloat) : Gives IsFloat (combine onInts onFloats a b) := by
  have floats := onFloats_gives onFloats ha hb range
  cases a with
  | int m =>
      cases b with
      | int n => exact absurd float (by simp [IsFloat])
      | float y => exact floats
  | float x => exact floats

theorem add_gives (ha : a.IsWithin k) (hb : b.IsWithin k) (range : k ≤ 1022) :
    Gives (IsWithin (k + 1)) (a.add b) :=
  combine_gives ha hb range fun m n hm hn => by
    have sum := Int.natAbs_add_le m n
    rw [Nat.pow_succ]
    omega

theorem sub_gives (ha : a.IsWithin k) (hb : b.IsWithin k) (range : k ≤ 1022) :
    Gives (IsWithin (k + 1)) (a.sub b) :=
  combine_gives ha hb range fun m n hm hn => by
    have difference := Int.natAbs_sub_le m n
    rw [Nat.pow_succ]
    omega

/-- A product has as many bits as both factors together. -/
theorem mul_gives (ha : a.IsWithin k) (hb : b.IsWithin k) (range : k ≤ 1022) :
    Gives (IsWithin (k + k)) (a.mul b) :=
  combine_gives ha hb range fun m n hm hn => by
    rw [Int.natAbs_mul, Nat.pow_add]
    exact Nat.mul_lt_mul'' hm hn

theorem add_gives_float (ha : a.IsWithin k) (hb : b.IsWithin k) (range : k ≤ 1022)
    (float : a.IsFloat ∨ b.IsFloat) : Gives IsFloat (a.add b) :=
  combine_gives_float ha hb range float

theorem sub_gives_float (ha : a.IsWithin k) (hb : b.IsWithin k) (range : k ≤ 1022)
    (float : a.IsFloat ∨ b.IsFloat) : Gives IsFloat (a.sub b) :=
  combine_gives_float ha hb range float

theorem mul_gives_float (ha : a.IsWithin k) (hb : b.IsWithin k) (range : k ≤ 1022)
    (float : a.IsFloat ∨ b.IsFloat) : Gives IsFloat (a.mul b) :=
  combine_gives_float ha hb range float

theorem isZero_int_iff {n : Int} : (int n).isZero = true ↔ n = 0 := by
  show (some (compare n 0) == some .eq) = true ↔ n = 0
  rw [beq_iff_eq, Option.some.injEq, Int.compare_eq_eq]

/-- A quotient of integers that is not too large is a float. -/
theorem divide_int_gives {m n : Int} (nonzero : n ≠ 0) (below : m.natAbs < 2 ^ k * n.natAbs)
    (range : k ≤ 1022) : Gives IsFloat ((int m).divide (int n)) := by
  obtain ⟨x, found⟩ := Option.isSome_iff_exists.mp
    (Binary.isSome_nearest? (Int.natAbs_ne_zero.mpr nonzero) below range ((m < 0) != (n < 0)))
  refine ⟨float x, ?_, trivial⟩
  rw [divide, if_neg (isZero_int_iff.not.mpr nonzero), divideInts, found]
  rfl

/-- **Numbers within range can be divided**, by zero too. -/
theorem divide_gives (ha : a.IsWithin k) (hb : b.IsWithin k) (range : k ≤ 1022) :
    Gives IsFloat (a.divide b) := by
  have floats := onFloats_gives (· / ·) ha hb range
  by_cases zero : b.isZero = true
  · unfold divide
    rw [if_pos zero]
    refine .ite (fun _ => .pure trivial) fun _ => .bind (toFloat_gives ha range) fun x _ => ?_
    exact .ite (fun _ => .pure trivial) fun _ => .pure trivial
  · cases a with
    | int m =>
        cases b with
        | int n =>
            have nonzero := isZero_int_iff.not.mp zero
            refine divide_int_gives nonzero ?_ range
            calc m.natAbs < 2 ^ k := ha
              _ ≤ 2 ^ k * n.natAbs := Nat.le_mul_of_pos_right _ (Int.natAbs_pos.mpr nonzero)
        | float y =>
            unfold divide
            rw [if_neg zero]
            exact floats
    | float x =>
        unfold divide
        rw [if_neg zero]
        exact floats

/-- A part of a whole is a float. -/
theorem divide_gives_of_le {i n : Nat} (positive : 0 < n) (le : i ≤ n) :
    Gives IsFloat ((int i).divide (int n)) := by
  have below : (i : Int).natAbs < 2 ^ 1 * (n : Int).natAbs := by omega
  exact divide_int_gives (by omega) below (by decide)

/-- A finite number has a nearest integer. -/
theorem round_gives (finite : a.isFinite = .ok true) : Gives (fun _ => True) a.round := by
  cases a with
  | int n => exact ⟨n, rfl, trivial⟩
  | float x =>
      rw [isFinite] at finite
      rw [round]
      cases view : Binary.ofFloat x with
      | nan =>
          rw [view] at finite
          cases finite
      | infinite negative =>
          rw [view] at finite
          cases finite
      | finite negative mantissa exponent => exact ⟨_, rfl, trivial⟩

theorem isFinite_gives (h : a.IsWithin k) (range : k ≤ 1022) :
    Gives (fun finite => a.isFinite = .ok finite) a.isFinite := by
  cases a with
  | int n =>
      obtain ⟨x, found, -⟩ := toFloat_gives h range
      refine ⟨true, ?_, ?_⟩ <;>
      · rw [isFinite, show intToFloat n = .ok x from found]
        rfl
  | float x => exact ⟨_, rfl, rfl⟩

end Arithmetic

end Number

/-! ## Geometry within range -/

/-- A point both of whose coordinates are within range. -/
def Point.IsWithin (bits : Nat) (p : Point Number) : Prop :=
  p.x.IsWithin bits ∧ p.y.IsWithin bits

theorem Point.IsWithin.mono {p : Point Number} {k k' : Nat} (h : p.IsWithin k) (le : k ≤ k') :
    p.IsWithin k' :=
  ⟨h.1.mono le, h.2.mono le⟩

namespace Geometry

variable {k : Nat}

/-- Testing numbers within range gives a verdict, and after a good one each has passed. -/
theorem allFinite_gives {numbers : List Number} (h : ∀ n ∈ numbers, n.IsWithin k)
    (range : k ≤ 1022) :
    Gives (fun verdict => verdict = true → ∀ n ∈ numbers, n.isFinite = .ok true)
      (allFinite numbers) := by
  induction numbers with
  | nil => exact ⟨true, rfl, fun _ => List.forall_mem_nil _⟩
  | cons n numbers ih =>
      rw [List.forall_mem_cons] at h
      refine .bind (Number.isFinite_gives h.1 range) fun finite tested =>
        .ite (fun isTrue => ?_) ?_
      · refine (ih h.2).mono fun verdict rest passed => ?_
        exact List.forall_mem_cons.mpr ⟨isTrue ▸ tested, rest passed⟩
      · exact fun _ => .pure fun passed => by cases passed

/-- Points are within range if their coordinates are. -/
theorem forall_coordinates_iff {points : List (Point Number)} :
    (∀ n ∈ points.flatMap fun p => [p.x, p.y], n.IsWithin k) ↔
      ∀ p ∈ points, p.IsWithin k := by
  rw [List.forall_mem_flatMap]
  simp only [List.forall_mem_cons, Point.IsWithin]
  exact forall₂_congr fun p _ => and_congr_right fun _ => and_iff_left (List.forall_mem_nil _)

theorem pointsFinite_gives {points : List (Point Number)} (h : ∀ p ∈ points, p.IsWithin k)
    (range : k ≤ 1022) : Gives (fun _ => True) (pointsFinite points) :=
  (allFinite_gives (forall_coordinates_iff.mpr h) range).mono fun _ _ => trivial

/-- The corners of a rectangle have one bit more. -/
theorem normalizeRect_gives {x y w h : Number} (hx : x.IsWithin k) (hy : y.IsWithin k)
    (hw : w.IsWithin k) (hh : h.IsWithin k) (range : k ≤ 1022) :
    Gives (fun rect => (rect.left.IsWithin (k + 1) ∧ rect.top.IsWithin (k + 1)) ∧
      rect.right.IsWithin (k + 1) ∧
      rect.bottom.IsWithin (k + 1)) (normalizeRect x y w h) := by
  refine .bind (Number.add_gives hx hw range) fun x1 hx1 => ?_
  refine .bind (Number.add_gives hy hh range) fun y1 hy1 => .pure ?_
  have wider := Nat.le_succ k
  exact ⟨⟨(hx.mono wider).min hx1, (hy.mono wider).min hy1⟩, (hx.mono wider).max hx1,
    (hy.mono wider).max hy1⟩

/-- The coordinates of a curve are floats. -/
theorem bezierCoordinate_gives {u t start control stop : Number} (hu : u.IsFloat)
    (ht : t.IsFloat) (hstart : start.IsWithin k) (hcontrol : control.IsWithin k)
    (hstop : stop.IsWithin k) (positive : 2 ≤ k) (range : k ≤ 1022) :
    Gives Number.IsFloat (bezierCoordinate u t start control stop) := by
  have times : ∀ {a b : Number}, a.IsFloat → b.IsWithin k → Gives Number.IsFloat (a.mul b) :=
    fun ha hb => Number.mul_gives_float (ha.isWithin k) hb range (Or.inl ha)
  have two : (Number.int 2).IsWithin k :=
    Nat.lt_of_lt_of_le (by decide) (Nat.pow_le_pow_right (by decide) positive)
  refine .bind (times hu (hu.isWithin k)) fun uu huu => ?_
  refine .bind (times huu hstart) fun first hfirst => ?_
  refine .bind (Number.mul_gives_float two (hu.isWithin k) range (Or.inr hu))
    fun double hdouble => ?_
  refine .bind (times hdouble (ht.isWithin k)) fun weight hweight => ?_
  refine .bind (times hweight hcontrol) fun middle hmiddle => ?_
  refine .bind (times ht (ht.isWithin k)) fun tt htt => ?_
  refine .bind (times htt hstop) fun last hlast => ?_
  refine .bind
    (Number.add_gives_float (hfirst.isWithin k) (hmiddle.isWithin k) range (Or.inl hfirst))
    fun sum hsum => ?_
  exact Number.add_gives_float (hsum.isWithin k) (hlast.isWithin k) range (Or.inl hsum)

theorem quadBezier_gives {start control stop : Point Number} (hstart : start.IsWithin k)
    (hcontrol : control.IsWithin k) (hstop : stop.IsWithin k) (positive : 2 ≤ k)
    (range : k ≤ 1022) {segments : Nat} (nonempty : 0 < segments) :
    Gives (fun points => ∀ p ∈ points, Point.IsWithin k p)
      (quadBezier start control stop segments) := by
  refine .mapM fun i mem => ?_
  have le : i + 1 ≤ segments := List.mem_range.mp mem
  have one : (Number.int 1).IsWithin k := Nat.one_lt_two_pow (by omega)
  refine .bind (Number.divide_gives_of_le nonempty le) fun t ht => ?_
  refine .bind (Number.sub_gives_float one (ht.isWithin k) range (Or.inr ht)) fun u hu => ?_
  refine .bind (bezierCoordinate_gives hu ht hstart.1 hcontrol.1 hstop.1 positive range)
    fun x hx => ?_
  refine .bind (bezierCoordinate_gives hu ht hstart.2 hcontrol.2 hstop.2 positive range)
    fun y hy => ?_
  exact .pure ⟨hx.isWithin k, hy.isWithin k⟩

/-- The outline of a rectangle with round corners has two bits more, and no less
than two corners. -/
theorem roundRectPoints_gives {x y w h r : Number} (hx : x.IsWithin k) (hy : y.IsWithin k)
    (hw : w.IsWithin k) (hh : h.IsWithin k) (hr : r.IsWithin k) (range : k + 2 ≤ 1022)
    {segments : Nat} (nonempty : 0 < segments) :
    Gives (fun points => 2 ≤ points.length ∧ ∀ p ∈ points, Point.IsWithin (k + 2) p)
      (roundRectPoints x y w h r segments) := by
  have wide : ∀ {n : Number}, n.IsWithin k → n.IsWithin (k + 2) :=
    fun hn => hn.mono (by omega)
  have wider : ∀ {n : Number}, n.IsWithin (k + 1) → n.IsWithin (k + 2) :=
    fun hn => hn.mono (by omega)
  have curve := fun {start control stop : Point Number} (hstart : start.IsWithin (k + 2))
    (hcontrol : control.IsWithin (k + 2)) (hstop : stop.IsWithin (k + 2)) =>
    quadBezier_gives hstart hcontrol hstop (by omega) range nonempty
  refine .bind (Number.add_gives hx hw (by omega)) fun right hright => ?_
  refine .bind (Number.add_gives hy hh (by omega)) fun bottom hbottom => ?_
  refine .bind (Number.add_gives hx hr (by omega)) fun insideLeft hinsideLeft => ?_
  refine .bind (Number.sub_gives hright (hr.mono (Nat.le_succ k)) (by omega))
    fun insideRight hinsideRight => ?_
  refine .bind (Number.add_gives hy hr (by omega)) fun insideTop hinsideTop => ?_
  refine .bind (Number.sub_gives hbottom (hr.mono (Nat.le_succ k)) (by omega))
    fun insideBottom hinsideBottom => ?_
  refine .bind (curve ⟨hinsideRight, wide hy⟩ ⟨wider hright, wide hy⟩
    ⟨wider hright, wider hinsideTop⟩) fun topRight htopRight => ?_
  refine .bind (curve ⟨wider hright, hinsideBottom⟩ ⟨wider hright, wider hbottom⟩
    ⟨hinsideRight, wider hbottom⟩) fun bottomRight hbottomRight => ?_
  refine .bind (curve ⟨wider hinsideLeft, wider hbottom⟩ ⟨wide hx, wider hbottom⟩
    ⟨wide hx, hinsideBottom⟩) fun bottomLeft hbottomLeft => ?_
  refine .bind (curve ⟨wide hx, wider hinsideTop⟩ ⟨wide hx, wide hy⟩
    ⟨wider hinsideLeft, wide hy⟩) fun topLeft htopLeft => ?_
  refine .pure ⟨by simp, ?_⟩
  have start : Point.IsWithin (k + 2) ⟨insideLeft, y⟩ := ⟨wider hinsideLeft, wide hy⟩
  have top : Point.IsWithin (k + 2) ⟨insideRight, y⟩ := ⟨hinsideRight, wide hy⟩
  have rightEdge : Point.IsWithin (k + 2) ⟨right, insideBottom⟩ :=
    ⟨wider hright, hinsideBottom⟩
  have bottomEdge : Point.IsWithin (k + 2) ⟨insideLeft, bottom⟩ :=
    ⟨wider hinsideLeft, wider hbottom⟩
  have leftEdge : Point.IsWithin (k + 2) ⟨x, insideTop⟩ := ⟨wide hx, wider hinsideTop⟩
  have closing : ∀ p ∈ topLeft.dropLast, Point.IsWithin (k + 2) p :=
    fun p mem => htopLeft p (List.mem_of_mem_dropLast mem)
  have none : ∀ p ∈ ([] : List (Point Number)), p.IsWithin (k + 2) := List.forall_mem_nil _
  simp only [List.forall_mem_append, List.forall_mem_cons]
  exact ⟨⟨⟨⟨⟨⟨⟨⟨start, top, none⟩, htopRight⟩, rightEdge, none⟩, hbottomRight⟩,
    bottomEdge, none⟩, hbottomLeft⟩, leftEdge, none⟩, closing⟩

end Geometry

end SketchScreen
