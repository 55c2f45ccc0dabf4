import Mathlib
import SketchScreen.Proofs.Magnitude

/-!
# Exact Values of Numbers

A finite float denotes a rational number, and so does an integer.  Told by these values,
comparisons with integers are exact, integers of up to 53 bits become floats without loss, and
what is not finite stays so under sums and products.

## Main Definitions

- `Binary.value?`, `Number.value?`: the exact value of a float and of a number,
  if it is finite.
- `Binary.ofBits`, `Binary.ofUnpacked`: the view of a float, from its bits and from its parts.

## Design Notes

Floats are computed with by their parts: sums and products of unpacked floats are packed into
bits again.  That reading the bits and reading the parts come to the same view is
`ofUnpacked_unpack`; all that is said about operations goes through the parts, and all that is
said about conversions goes through the bits.
-/

namespace SketchScreen.Number

namespace Binary

open Float.Model (Format UnpackedFloat)
open Float.Model.UnpackedFloat

/-! ## Bits and parts -/

/-- What the bits of a float denote. -/
def ofBits (bits : Nat) : Binary :=
  let negative := bits / twoTo 63 == 1
  let field := bits / twoTo mantissaBits % twoTo 11
  let fraction := bits % twoTo mantissaBits
  if field = exponentLimit then
    if fraction = 0 then infinite negative else nan
  else if field = 0 then finite negative fraction minExponent
  else finite negative (fraction + twoTo mantissaBits) (field - 1 + minExponent)

/-- What the parts of a float denote. -/
def ofUnpacked : UnpackedFloat → Binary
  | .notANumber => nan
  | .infinity sign => infinite (sign == .negative)
  | .zero sign => finite (sign == .negative) 0 minExponent
  | .finite sign mantissa exponent _ => finite (sign == .negative) mantissa exponent

theorem ofFloat_eq_ofBits (x : Float) : ofFloat x = ofBits x.toBits.toNat := rfl

theorem toNat_unpackExponent (bits : BitVec Format.binary64.numBits) :
    (unpackExponent bits).toNat = bits.toNat / twoTo mantissaBits % twoTo 11 := by
  rw [unpackExponent_def, BitVec.extractLsb'_toNat, Nat.shiftRight_eq_div_pow]
  rfl

theorem toNat_unpackMantissa (bits : BitVec Format.binary64.numBits) :
    (unpackMantissa bits).toNat = bits.toNat % twoTo mantissaBits := by
  rw [unpackMantissa_def, BitVec.extractLsb'_toNat, Nat.shiftRight_zero]
  rfl

theorem unpackSign_beq_negative (bits : BitVec Format.binary64.numBits) :
    (Sign.ofBitVec (unpackSign bits) == .negative) = (bits.toNat / twoTo 63 == 1) := by
  have bound : bits.toNat < 2 ^ 64 := bits.isLt
  have bit : (unpackSign bits).toNat = bits.toNat / twoTo 63 := by
    rw [unpackSign_def, BitVec.extractLsb'_toNat, Nat.shiftRight_eq_div_pow]
    apply Nat.mod_eq_of_lt
    show bits.toNat / 2 ^ 63 < 2 ^ 1
    omega
  have told : ∀ sign : BitVec 1, (Sign.ofBitVec sign == .negative) = (sign.toNat == 1) := by
    decide
  rw [← bit]
  exact told _

/-- **The parts of a float denote what its bits do.** -/
theorem ofUnpacked_unpack (bits : BitVec Format.binary64.numBits) :
    ofUnpacked (UnpackedFloat.unpack Format.binary64 bits) = ofBits bits.toNat := by
  have exponent := toNat_unpackExponent bits
  have mantissa := toNat_unpackMantissa bits
  have sign := unpackSign_beq_negative bits
  have allOnes : unpackExponent bits = -1#_ ↔
      bits.toNat / twoTo mantissaBits % twoTo 11 = exponentLimit := by
    rw [← exponent, ← BitVec.toNat_inj]
    rfl
  have zeroExponent : unpackExponent bits = 0#_ ↔
      bits.toNat / twoTo mantissaBits % twoTo 11 = 0 := by
    rw [← exponent, ← BitVec.toNat_inj]
    rfl
  have zeroMantissa : unpackMantissa bits = 0#_ ↔ bits.toNat % twoTo mantissaBits = 0 := by
    rw [← mantissa, ← BitVec.toNat_inj]
    rfl
  rw [ofBits, UnpackedFloat.unpack]
  simp only [allOnes, zeroExponent, zeroMantissa]
  split
  · split
    · simp only [ofUnpacked, sign]
    · rfl
  · split
    · rename_i field
      split
      · rename_i zero
        simp only [ofUnpacked, sign, zero]
      · simp only [ofUnpacked, sign, mantissa, exponent, field]
        rfl
    · simp only [ofUnpacked, sign, exponent, BitVec.toNat_append, mantissa]
      have bound : bits.toNat % twoTo mantissaBits < 2 ^ 52 := Nat.mod_lt _ (by decide)
      congr 1
      · rw [← Nat.shiftLeft_add_eq_or_of_lt bound]
        exact Nat.add_comm _ _
      · show _ - ((1023 : ℤ) + 52) = _ - 1 + -1074
        omega

theorem ofFloat_eq_ofUnpacked (x : Float) : ofFloat x = ofUnpacked x.toModel.unpack :=
  (ofUnpacked_unpack x.toBits.toBitVec).symm

/-- Bits that are no number at all may be exchanged for others of that kind, but
denote the same. -/
theorem unpack_ofBits (bits : UInt64) :
    (Float.ofBits bits).toModel.unpack
      = UnpackedFloat.unpack Format.binary64 bits.toBitVec := by
  show UnpackedFloat.unpack Format.binary64
    (UnpackedFloat.pack Format.binary64 (UnpackedFloat.unpack Format.binary64 bits.toBitVec))
      = _
  rw [pack_unpack]
  split
  · rename_i noNumber
    rw [isNaNBits, decide_eq_true_iff] at noNumber
    rw [unpack_packedNaN, UnpackedFloat.unpack]
    simp only [noNumber.1, noNumber.2, if_true, if_false]
  · rfl

theorem ofFloat_ofBits (bits : UInt64) : ofFloat (Float.ofBits bits) = ofBits bits.toNat := by
  rw [ofFloat_eq_ofUnpacked, unpack_ofBits, ofUnpacked_unpack]
  rfl

/-- The mantissa of a float has 53 bits, unless the exponent is the smallest. -/
theorem bounds_of_ofBits_eq_finite {bits mantissa : Nat} {negative : Bool} {exponent : Int}
    (h : ofBits bits = finite negative mantissa exponent) :
    mantissa < 2 ^ 53 ∧ -1074 ≤ exponent ∧ (2 ^ 52 ≤ mantissa ∨ exponent = -1074) := by
  have bound : bits % twoTo mantissaBits < 2 ^ 52 := Nat.mod_lt _ (by decide)
  have unit : twoTo mantissaBits = 2 ^ 52 := rfl
  have least : minExponent = -1074 := rfl
  rw [ofBits] at h
  split at h
  · split at h <;> cases h
  · split at h
    · cases h
      omega
    · cases h
      omega

/-! ## Values -/

/-- The number `± mantissa * 2 ^ exponent`. -/
def dyadic (negative : Bool) (mantissa : Nat) (exponent : Int) : ℚ :=
  (if negative then -1 else 1) * (mantissa * 2 ^ exponent)

/-- The exact value of a float, if it is finite. -/
def value? : Binary → Option ℚ
  | finite negative mantissa exponent => some (dyadic negative mantissa exponent)
  | _ => none

theorem isFinite_eq_isSome_value? (b : Binary) : b.isFinite = b.value?.isSome := by
  cases b <;> rfl

/-! ## What is not finite -/

theorem value?_ofUnpacked_eq_none_iff {f : UnpackedFloat} :
    (ofUnpacked f).value? = none ↔ f.isFinite = false := by
  cases f with
  | notANumber => exact iff_of_true rfl rfl
  | infinity sign => exact iff_of_true rfl rfl
  | zero sign =>
      exact iff_of_false (by simp [ofUnpacked, value?]) (by simp [UnpackedFloat.isFinite])
  | finite sign mantissa exponent positive =>
      exact iff_of_false (by simp [ofUnpacked, value?]) (by simp [UnpackedFloat.isFinite])

theorem unpack_pack_of_isFinite_eq_false {f : UnpackedFloat} (h : f.isFinite = false) :
    UnpackedFloat.unpack Format.binary64 (UnpackedFloat.pack Format.binary64 f) = f := by
  cases f with
  | notANumber => exact unpack_packedNaN
  | infinity sign =>
      rw [UnpackedFloat.pack, packedInfinity, UnpackedFloat.unpack]
      simp only [unpackExponent_packComponents, unpackMantissa_packComponents,
        unpackSign_packComponents, Sign.ofBitVec_toBitVec, if_true]
      rfl
  | zero sign => cases h
  | finite sign mantissa exponent positive => cases h

theorem isFinite_add_eq_false {a b : UnpackedFloat}
    (h : a.isFinite = false ∨ b.isFinite = false) :
    (UnpackedFloat.add Format.binary64 a b).isFinite = false := by
  -- infinities of opposite signs add up to no number at all
  have infinities : ∀ s t : Sign,
      (UnpackedFloat.add Format.binary64 (.infinity s) (.infinity t)).isFinite = false := by
    intro s t
    cases s <;> cases t <;> rfl
  cases a with
  | notANumber => rfl
  | infinity s =>
      cases b with
      | infinity t => exact infinities s t
      | _ => rfl
  | zero s =>
      cases b with
      | notANumber => rfl
      | infinity t => rfl
      | _ => exact absurd h (by simp [UnpackedFloat.isFinite])
  | finite s m e positive =>
      cases b with
      | notANumber => rfl
      | infinity t => rfl
      | _ => exact absurd h (by simp [UnpackedFloat.isFinite])

theorem isFinite_mul_eq_false {a b : UnpackedFloat}
    (h : a.isFinite = false ∨ b.isFinite = false) :
    (UnpackedFloat.mul Format.binary64 a b).isFinite = false := by
  cases a <;> cases b <;> simp [UnpackedFloat.isFinite, UnpackedFloat.mul] at h ⊢

theorem value?_pack_eq_none {f : UnpackedFloat} (h : f.isFinite = false) {x : Float}
    (packed : x.toModel = Float.Model.pack f) : (ofFloat x).value? = none := by
  rw [ofFloat_eq_ofUnpacked, packed, value?_ofUnpacked_eq_none_iff]
  show (UnpackedFloat.unpack Format.binary64 (UnpackedFloat.pack Format.binary64 f)).isFinite
    = false
  rw [unpack_pack_of_isFinite_eq_false h]
  exact h

/-- **A sum is not finite if one of its parts is not.** -/
theorem value?_add_eq_none {x y : Float}
    (h : (ofFloat x).value? = none ∨ (ofFloat y).value? = none) :
    (ofFloat (x + y)).value? = none := by
  simp only [ofFloat_eq_ofUnpacked, value?_ofUnpacked_eq_none_iff] at h
  exact value?_pack_eq_none (isFinite_add_eq_false h) rfl

/-- **A product is not finite if one of its parts is not.** -/
theorem value?_mul_eq_none {x y : Float}
    (h : (ofFloat x).value? = none ∨ (ofFloat y).value? = none) :
    (ofFloat (x * y)).value? = none := by
  simp only [ofFloat_eq_ofUnpacked, value?_ofUnpacked_eq_none_iff] at h
  exact value?_pack_eq_none (isFinite_mul_eq_false h) rfl

/-! ## The order of floats and integers -/

theorem fraction_eq (negative : Bool) (mantissa : Nat) (exponent : Int) :
    ((fraction negative mantissa exponent).1 : ℚ)
      = dyadic negative mantissa exponent * (fraction negative mantissa exponent).2 := by
  have power : (2 : ℚ) ^ exponent * 2 ^ (-exponent).toNat = 2 ^ exponent.toNat := by
    obtain ⟨n, rfl | rfl⟩ := exponent.eq_nat_or_neg
    · simp
    · simp
  have den : ((fraction negative mantissa exponent).2 : ℚ) = 2 ^ (-exponent).toNat := by
    simp [fraction, twoTo]
  rw [den, dyadic, mul_assoc, mul_assoc, power]
  cases negative <;> simp [fraction, twoTo]

/-- **A finite float is compared with an integer by its value.** -/
theorem compareInt_eq {b : Binary} {q : ℚ} (h : b.value? = some q) (n : Int) :
    b.compareInt n = some (compare q n) := by
  cases b with
  | nan => cases h
  | infinite negative => cases h
  | finite negative mantissa exponent =>
      cases h
      have value := fraction_eq negative mantissa exponent
      have positive : 0 < (fraction negative mantissa exponent).2 := Nat.two_pow_pos _
      rw [compareInt]
      generalize fraction negative mantissa exponent = parts at *
      generalize dyadic negative mantissa exponent = q at *
      obtain ⟨num, den⟩ := parts
      simp only at value positive ⊢
      have scale : (0 : ℚ) < den := by exact_mod_cast positive
      congr 1
      rcases lt_trichotomy q n with lt | rfl | gt
      · rw [compare_lt_iff_lt.mpr lt, Int.compare_eq_lt]
        have : (num : ℚ) < n * den := by rw [value]; gcongr
        exact_mod_cast this
      · rw [compare_eq_iff_eq.mpr rfl, Int.compare_eq_eq]
        exact_mod_cast value
      · rw [compare_gt_iff_gt.mpr gt, Int.compare_eq_gt]
        have : n * den < (num : ℚ) := by rw [value]; gcongr
        exact_mod_cast this

/-! ## The float nearest to an integer -/

/-- Bits with a sign, read without it. -/
theorem ofBits_signed {bits : Nat} (small : bits < twoTo 63) (negative : Bool) :
    ofFloat (signed negative bits) =
      if bits / twoTo mantissaBits = exponentLimit then
        if bits % twoTo mantissaBits = 0 then infinite negative else nan
      else if bits / twoTo mantissaBits = 0 then
        finite negative (bits % twoTo mantissaBits) minExponent
      else finite negative (bits % twoTo mantissaBits + twoTo mantissaBits)
        ((bits / twoTo mantissaBits : Nat) - 1 + minExponent) := by
  have top : twoTo 63 = 2 ^ 63 := rfl
  have unit : twoTo mantissaBits = 2 ^ 52 := rfl
  have eleven : twoTo 11 = 2048 := rfl
  rw [top] at small
  rw [signed, ofFloat_ofBits, UInt64.toNat_ofNat', ofBits, top, unit, eleven]
  cases negative with
  | false =>
      have total : bits % 2 ^ 64 = bits := Nat.mod_eq_of_lt (by omega)
      have sign : (bits / 2 ^ 63 == 1) = false := beq_eq_false_iff_ne.mpr (by omega)
      have field : bits / 2 ^ 52 % 2048 = bits / 2 ^ 52 := Nat.mod_eq_of_lt (by omega)
      simp only [Bool.false_eq_true, if_false, total, sign, field]
  | true =>
      have total : (2 ^ 63 + bits) % 2 ^ 64 = 2 ^ 63 + bits := Nat.mod_eq_of_lt (by omega)
      have sign : ((2 ^ 63 + bits) / 2 ^ 63 == 1) = true := beq_iff_eq.mpr (by omega)
      have field : (2 ^ 63 + bits) / 2 ^ 52 % 2048 = bits / 2 ^ 52 := by omega
      have fraction : (2 ^ 63 + bits) % 2 ^ 52 = bits % 2 ^ 52 := by omega
      simp only [if_true, total, sign, field, fraction]

/-- A mantissa of full width over an exponent; one bit more carries into the exponent. -/
theorem value?_signed {field mantissa : Nat} (full : 2 ^ 52 ≤ mantissa)
    (narrow : mantissa ≤ 2 ^ 53)
    (range : field * twoTo mantissaBits + mantissa < exponentLimit * twoTo mantissaBits)
    (negative : Bool) :
    (ofFloat (signed negative (field * twoTo mantissaBits + mantissa))).value?
      = some (dyadic negative mantissa (field + minExponent)) := by
  have unit : twoTo mantissaBits = 2 ^ 52 := rfl
  have top : twoTo 63 = 2 ^ 63 := rfl
  rw [unit, exponentLimit] at range
  rw [unit, ofBits_signed (by omega), unit, exponentLimit]
  rcases Nat.lt_or_eq_of_le narrow with lt | rfl
  · have whole : (field * 2 ^ 52 + mantissa) / 2 ^ 52 = field + 1 := by omega
    have rest : (field * 2 ^ 52 + mantissa) % 2 ^ 52 = mantissa - 2 ^ 52 := by omega
    rw [whole, rest, if_neg (by omega), if_neg (by omega), value?, Nat.sub_add_cancel full]
    push_cast
    rw [add_sub_cancel_right]
  · have whole : (field * 2 ^ 52 + 2 ^ 53) / 2 ^ 52 = field + 2 := by omega
    have rest : (field * 2 ^ 52 + 2 ^ 53) % 2 ^ 52 = 0 := by omega
    have exponent : ((field + 2 : Nat) : Int) - 1 + minExponent
        = (field + minExponent) + 1 := by
      push_cast
      ring
    rw [whole, rest, if_neg (by omega), if_neg (by omega), value?, exponent, dyadic, dyadic,
      zpow_add_one₀ (by norm_num)]
    refine congrArg some ?_
    push_cast
    ring

theorem le_roundDiv {num den limit : Nat} (positive : 0 < den) (h : limit * den ≤ num) :
    limit ≤ roundDiv num den := by
  have whole : limit ≤ num / den := (Nat.le_div_iff_mul_le positive).mpr h
  simp only [roundDiv]
  split
  · exact Nat.le_succ_of_le whole
  · exact whole

theorem roundDiv_one (num : Nat) : roundDiv num 1 = num := by
  simp [roundDiv, Nat.mod_one]

section Whole

variable {n : Nat}

theorem two_pow_log2_le (positive : n ≠ 0) : (2 : ℚ) ^ n.log2 ≤ n := by
  exact_mod_cast Nat.log2_self_le positive

theorem scale_one (positive : n ≠ 0) : scale n 1 = (n.log2 : Int) - 52 := by
  have unit : Nat.log2 1 = 0 := by decide
  obtain ⟨guess, bound, same | ⟨narrow, -⟩⟩ := scale_cases n 1
  · omega
  · -- a mantissa of as many bits as the number has is not too narrow
    have power : ((2 ^ 52 : Nat) : ℚ) * (1 : Nat) * 2 ^ guess = 2 ^ n.log2 := by
      have exponent : (n.log2 : Int) = (52 : Nat) + guess := by omega
      rw [← zpow_natCast (2 : ℚ) n.log2, exponent, zpow_add₀ (by norm_num), zpow_natCast]
      push_cast
      ring
    rw [power] at narrow
    exact absurd narrow (not_lt.mpr (two_pow_log2_le positive))

theorem le_nearestParts_one (positive : n ≠ 0) : 2 ^ 52 ≤ (nearestParts n 1).1 := by
  refine le_roundDiv (Nat.mul_pos (by decide) (Nat.two_pow_pos _)) ?_
  rw [scale_one positive, ← not_lt, scaled_lt_iff, not_lt]
  refine le_trans (le_of_eq ?_) (two_pow_log2_le positive)
  rw [zpow_sub₀ (by norm_num), zpow_natCast]
  push_cast
  field_simp

/-- A positive integer has a mantissa of full width. -/
theorem value?_nearest?_one (positive : n ≠ 0) {negative : Bool} {x : Float}
    (h : nearest? negative n 1 = some x) :
    (ofFloat x).value? = some (dyadic negative (nearestParts n 1).1 (n.log2 - 52)) := by
  have exponent : (nearestParts n 1).2 = (n.log2 : Int) - 52 := scale_one positive
  have bits : nearestBits n 1 = ((n.log2 : Int) - 52 - minExponent).toNat * twoTo mantissaBits
      + (nearestParts n 1).1 := by
    rw [nearestBits, if_neg positive, ← exponent]
  rw [nearest?] at h
  simp only [bits] at h
  split at h
  · rename_i range
    cases h
    have narrow : (nearestParts n 1).1 ≤ 2 ^ 53 :=
      roundDiv_le ((scaled_lt_iff ..).mpr (lt_of_scale (by decide)))
    rw [value?_signed (le_nearestParts_one positive) narrow range]
    congr 2
    rw [minExponent]
    omega
  · cases h

/-- An integer of at most 53 bits is not rounded. -/
theorem nearestParts_one_eq (positive : n ≠ 0) (small : n < 2 ^ 53) :
    ((nearestParts n 1).1 : ℚ) * 2 ^ ((n.log2 : Int) - 52) = n := by
  have bits : n.log2 < 53 := (Nat.log2_lt positive).mpr small
  have parts : (nearestParts n 1).1 = n * 2 ^ (52 - n.log2) := by
    have whole : ((n.log2 : Int) - 52).toNat = 0 := by omega
    have shift : (-((n.log2 : Int) - 52)).toNat = 52 - n.log2 := by omega
    rw [nearestParts, scale_one positive]
    simp only [whole, shift]
    exact roundDiv_one _
  have power : (2 : ℚ) ^ (52 - n.log2) * 2 ^ ((n.log2 : Int) - 52) = 1 := by
    have exponents : ((52 - n.log2 : Nat) : Int) + ((n.log2 : Int) - 52) = 0 := by omega
    rw [← zpow_natCast, ← zpow_add₀ (by norm_num), exponents, zpow_zero]
  rw [parts]
  push_cast
  rw [mul_assoc, power, mul_one]

/-- A longer integer is not rounded to fewer bits. -/
theorem le_nearestParts_one_mul (large : 2 ^ 53 ≤ n) :
    (2 : ℚ) ^ 53 ≤ (nearestParts n 1).1 * 2 ^ ((n.log2 : Int) - 52) := by
  have positive : n ≠ 0 := by omega
  have bits : 53 ≤ n.log2 := (Nat.le_log2 positive).mpr large
  have mantissa : (2 : ℚ) ^ 52 ≤ (nearestParts n 1).1 := by
    exact_mod_cast le_nearestParts_one positive
  have power : (2 : ℚ) ^ (1 : Int) ≤ 2 ^ ((n.log2 : Int) - 52) :=
    zpow_le_zpow_right₀ (by norm_num) (by omega)
  calc (2 : ℚ) ^ 53 = 2 ^ 52 * 2 ^ (1 : Int) := by norm_num
    _ ≤ ((nearestParts n 1).1 : ℚ) * 2 ^ ((n.log2 : Int) - 52) := by gcongr

end Whole

/-! ## Eight times a float -/

theorem shiftRight_exact (m k : Nat) :
    (⟨m * 2 ^ k, false, false⟩ : ExtendedMantissa) >>> k = ⟨m, false, false⟩ := by
  induction k generalizing m with
  | zero => simp [HShiftRight.hShiftRight, Nat.repeat]
  | succ k ih =>
      have step : (⟨m * 2 ^ (k + 1), false, false⟩ : ExtendedMantissa) >>> (k + 1)
          = ((⟨m * 2 * 2 ^ k, false, false⟩ : ExtendedMantissa) >>> k).shiftRightOne := by
        rw [Nat.pow_succ', ← Nat.mul_assoc]
        rfl
      rw [step, ih, ExtendedMantissa.shiftRightOne]
      simp

theorem log2_mul_two_pow {m : Nat} (positive : m ≠ 0) (k : Nat) :
    (m * 2 ^ k).log2 = m.log2 + k := by
  rw [Nat.log2_eq_iff (Nat.mul_ne_zero positive (Nat.two_pow_pos k).ne')]
  constructor
  · rw [Nat.pow_add]
    exact Nat.mul_le_mul_right _ (Nat.log2_self_le positive)
  · rw [Nat.add_right_comm, Nat.pow_add]
    exact Nat.mul_lt_mul_of_pos_right Nat.lt_log2_self (Nat.two_pow_pos k)

section Normal

variable {m k : Nat} {e : Int}

/-- Zeros behind a mantissa of full width are shifted out. -/
theorem shiftToTargetExponent_exact (full : m.log2 = 52) (range : -1074 ≤ e + k) :
    shiftToTargetExponent Format.binary64 (m * 2 ^ k) e .exact
      = (⟨m, false, false⟩, e + k) := by
  have positive : m ≠ 0 := by
    rintro rfl
    simp at full
  have target : Format.binary64.targetExponent (Float.Model.totalExponent (m * 2 ^ k) e)
      = Max.max ((m * 2 ^ k).log2 + 1 + e - 53) (-1074) := rfl
  have amount : (Format.binary64.targetExponent
      (Float.Model.totalExponent (m * 2 ^ k) e) - e).toNat = k := by
    rw [target, log2_mul_two_pow positive, full]
    omega
  rw [shiftToTargetExponent, shiftToExponent]
  simp only [amount]
  rw [ExtendedMantissa.ofMantissaAndAccuracy, shiftRight_exact]

theorem roundWithAccuracy_exact (sign : Sign) (full : m.log2 = 52) (positive : 0 < m)
    (range : -1074 ≤ e + k) :
    roundWithAccuracy Format.binary64 sign (m * 2 ^ k) e .exact
      = .finite sign m (e + k) positive := by
  have rounded : (⟨m, false, false⟩ : ExtendedMantissa).roundedMantissa = m := rfl
  have again := @shiftToTargetExponent_exact m 0 (e + k) full (by omega)
  simp only [Nat.pow_zero, Nat.mul_one, Nat.cast_zero, Int.add_zero] at again
  rw [roundWithAccuracy, shiftToTargetExponent_exact full range]
  simp only [rounded, again, positive.ne', dite_false]

/-- A mantissa of full width is packed and unpacked without loss. -/
theorem unpack_pack_finite {sign : Sign} (full : m.log2 = 52) (positive : 0 < m)
    (low : -1074 ≤ e) (high : e ≤ 971) :
    UnpackedFloat.unpack Format.binary64
        (UnpackedFloat.pack Format.binary64 (.finite sign m e positive))
      = .finite sign m e positive := by
  have lower : 2 ^ 52 ≤ m := full ▸ Nat.log2_self_le positive.ne'
  have upper : m < 2 ^ 53 := (Nat.log2_lt positive.ne').mp (by omega)
  obtain ⟨field, biased⟩ : ∃ field, (e + 1023 + 52).toNat = field := ⟨_, rfl⟩
  have exponent : (BitVec.ofNat 11 field).toNat = field := by
    rw [BitVec.toNat_ofNat, Nat.mod_eq_of_lt (by omega)]
  have packed : UnpackedFloat.pack Format.binary64 (.finite sign m e positive)
      = packComponents Format.binary64 sign (BitVec.ofNat 11 field) (BitVec.ofNat 52 m) := by
    have told : (e + Format.binary64.exponentBias
        + Format.binary64.mantissaBitsWithoutImplicit).toNat = field := biased
    have finite : ¬ 2 ^ Format.binary64.exponentBits ≤ field + 1 := by
      show ¬ 2 ^ 11 ≤ field + 1
      omega
    have normal : m.log2 + 1 = Format.binary64.mantissaBits := by
      rw [full]
      rfl
    rw [UnpackedFloat.pack]
    simp only [told, finite, normal, if_false, if_true]
  have notOnes : BitVec.ofNat 11 field ≠ -1#11 := by
    intro same
    have : field = 2047 := exponent ▸ congrArg BitVec.toNat same
    omega
  have notZero : BitVec.ofNat 11 field ≠ 0#11 := by
    intro same
    have : field = 0 := exponent ▸ congrArg BitVec.toNat same
    omega
  rw [packed, UnpackedFloat.unpack]
  simp only [unpackExponent_packComponents, unpackMantissa_packComponents,
    unpackSign_packComponents, Sign.ofBitVec_toBitVec]
  rw [if_neg notOnes, if_neg notZero]
  congr 1
  · rw [BitVec.toNat_append, ← Nat.shiftLeft_add_eq_or_of_lt (BitVec.isLt _),
      BitVec.toNat_ofNat]
    show 1 * 2 ^ 52 + m % 2 ^ 52 = m
    omega
  · rw [exponent]
    show (field : Int) - (1023 + 52) = e
    omega

theorem unpack_eight_mul {x : Float} {sign : Sign} {positive : 0 < m}
    (h : x.toModel.unpack = .finite sign m e positive) (full : m.log2 = 52) (low : -1074 ≤ e)
    (high : e ≤ 968) : (8.0 * x).toModel.unpack = .finite sign m (e + 3) positive := by
  have eight : (8.0 : Float).toModel.unpack = .finite .positive (2 ^ 52) (-49) (by decide) :=
    rfl
  have same : Sign.positive * sign = sign := by cases sign <;> rfl
  show UnpackedFloat.unpack Format.binary64 (UnpackedFloat.pack Format.binary64
    (UnpackedFloat.mul Format.binary64 (8.0 : Float).toModel.unpack x.toModel.unpack)) = _
  rw [h, eight, UnpackedFloat.mul, same, Nat.mul_comm (2 ^ 52) m,
    roundWithAccuracy_exact sign full positive (by omega),
    unpack_pack_finite full positive (by omega) (by omega)]
  congr 1
  omega

end Normal

section Moderate

variable {m : Nat} {e : Int}

/-- A number that is not below one has a mantissa of full width. -/
theorem mantissa_of_one_le (narrow : m < 2 ^ 53) (normal : 2 ^ 52 ≤ m ∨ e = -1074)
    (low : (1 : ℚ) ≤ m * 2 ^ e) : 2 ^ 52 ≤ m := by
  refine normal.resolve_right fun tiny => ?_
  have power : (2 : ℚ) ^ e ≤ 2 ^ (-53 : Int) := zpow_le_zpow_right₀ (by norm_num) (by omega)
  have width : (m : ℚ) < 2 ^ 53 := by exact_mod_cast narrow
  have product : (m : ℚ) * 2 ^ e < 2 ^ 53 * 2 ^ (-53 : Int) :=
    mul_lt_mul width power (by positivity) (by positivity)
  exact absurd (low.trans_lt product) (by norm_num)

/-- A number with such a mantissa that is not large has no positive exponent. -/
theorem exponent_of_le (mantissa : 2 ^ 52 ≤ m) (high : (m : ℚ) * 2 ^ e ≤ 2 ^ 52) : e ≤ 0 := by
  by_contra large
  have power : (2 : ℚ) ^ (1 : Int) ≤ 2 ^ e := zpow_le_zpow_right₀ (by norm_num) (by omega)
  have product : (2 : ℚ) ^ 52 * 2 ^ (1 : Int) ≤ m * 2 ^ e := by
    gcongr
    exact_mod_cast mantissa
  exact absurd (product.trans high) (by norm_num)

theorem dyadic_true_nonpos (m : Nat) (e : Int) : dyadic true m e ≤ 0 := by
  rw [dyadic, if_pos rfl, neg_one_mul, neg_nonpos]
  positivity

end Moderate

/-- A float whose value is neither below one nor large, by its parts. -/
theorem exists_parts {x : Float} {q : ℚ} (value : (ofFloat x).value? = some q) (low : 1 ≤ q)
    (high : q ≤ 2 ^ 52) :
    ∃ m e, ∃ positive : 0 < m, x.toModel.unpack = .finite .positive m e positive ∧
      m.log2 = 52 ∧
      (-1074 ≤ e ∧ e ≤ 0) ∧ q = m * 2 ^ e := by
  have view := ofFloat_eq_ofUnpacked x
  cases parts : x.toModel.unpack with
  | notANumber =>
      rw [view, parts] at value
      cases value
  | infinity sign =>
      rw [view, parts] at value
      cases value
  | zero sign =>
      rw [view, parts] at value
      cases value
      rw [dyadic, Nat.cast_zero, zero_mul, mul_zero] at low
      exact absurd low (by norm_num)
  | finite sign m e positive =>
      rw [view, parts] at value
      cases value
      rw [parts, ofFloat_eq_ofBits] at view
      obtain ⟨narrow, least, normal⟩ := bounds_of_ofBits_eq_finite view
      cases sign with
      | negative => exact absurd (low.trans (dyadic_true_nonpos m e)) (by norm_num)
      | positive =>
          have same : dyadic (Sign.positive == .negative) m e = m * 2 ^ e := by
            rw [dyadic, if_neg (by decide), one_mul]
          rw [same] at low high ⊢
          have mantissa := mantissa_of_one_le narrow normal low
          exact ⟨m, e, positive, rfl, (Nat.log2_eq_iff positive.ne').mpr ⟨mantissa, narrow⟩,
            ⟨least, exponent_of_le mantissa high⟩, rfl⟩

/-- **Eight times a float is exact**, as long as it is neither tiny nor huge. -/
theorem value?_eight_mul {x : Float} {q : ℚ} (value : (ofFloat x).value? = some q)
    (low : 1 ≤ q) (high : q ≤ 2 ^ 52) : (ofFloat (8.0 * x)).value? = some (8 * q) := by
  obtain ⟨m, e, positive, parts, full, ⟨least, greatest⟩, rfl⟩ := exists_parts value low high
  rw [ofFloat_eq_ofUnpacked, unpack_eight_mul parts full least (by omega), ofUnpacked,
    value?, dyadic, if_neg (by decide), one_mul, zpow_add₀ (by norm_num)]
  congr 1
  norm_num
  ring

end Binary

/-! ## Numbers -/

/-- The exact value of a number, if it is finite. -/
def value? : Number → Option ℚ
  | int n => some n
  | float x => (Binary.ofFloat x).value?

section Order

variable {a : Number} {q : ℚ}

theorem compare?_int (h : a.value? = some q) (n : Int) :
    compare? a (int n) = some (compare q n) := by
  cases a with
  | int m =>
      cases h
      rw [compare?]
      congr 1
      rcases lt_trichotomy m n with lt | rfl | gt
      · rw [Int.compare_eq_lt.mpr lt, compare_lt_iff_lt.mpr (by exact_mod_cast lt)]
      · rw [Int.compare_eq_eq.mpr rfl, compare_eq_iff_eq.mpr rfl]
      · rw [Int.compare_eq_gt.mpr gt, compare_gt_iff_gt.mpr (by exact_mod_cast gt)]
  | float x => exact Binary.compareInt_eq h n

/-- The order with an integer on the left is the one with it on the right, turned around. -/
theorem int_compare? (n : Int) (a : Number) :
    compare? (int n) a = (compare? a (int n)).map .swap := by
  cases a with
  | int m =>
      rw [compare?, compare?, Option.map_some]
      exact congrArg some (Int.compare_swap m n).symm
  | float x => rfl

/-- **Numbers are less than integers by their values.** -/
theorem lt_int_iff (h : a.value? = some q) (n : Int) : a.lt (int n) = true ↔ q < n := by
  rw [lt, compare?_int h, beq_iff_eq, Option.some.injEq, compare_lt_iff_lt]

theorem int_lt_iff (h : a.value? = some q) (n : Int) : (int n).lt a = true ↔ n < q := by
  rw [lt, int_compare?, compare?_int h, Option.map_some, beq_iff_eq, Option.some.injEq,
    Ordering.swap_eq_lt, compare_gt_iff_gt]

end Order

/-- The test of finiteness tells whether a number has a value. -/
theorem isSome_value?_of_isFinite {a : Number} {finite : Bool} (h : a.isFinite = .ok finite) :
    a.value?.isSome = finite := by
  cases a with
  | int n =>
      rw [isFinite] at h
      cases nearest : intToFloat n with
      | error fault =>
          rw [nearest] at h
          cases h
      | ok x =>
          rw [nearest] at h
          cases h
          rfl
  | float x =>
      cases h
      exact (Binary.isFinite_eq_isSome_value? _).symm

/-- A number that is equal to an integer if that has at most 53 bits, and is as far out on the
same side if it is longer. -/
structure Follows (n : Int) (q : ℚ) : Prop where
  eq : n.natAbs < 2 ^ 53 → q = n
  above : 2 ^ 53 ≤ n → 2 ^ 53 ≤ q
  below : n ≤ -2 ^ 53 → q ≤ -2 ^ 53

namespace Follows

variable {n m : Int} {q : ℚ}

/-- What follows an integer is equal to it, or on the same side of a short integer. -/
theorem eq_or_lt (h : Follows n q) (small : m.natAbs < 2 ^ 53) :
    q = n ∨ (m < n ∧ (m : ℚ) < q) ∨ n < m ∧ q < m := by
  have low : (-2 ^ 53 : ℚ) < m := by exact_mod_cast (by omega : (-2 ^ 53 : Int) < m)
  have high : (m : ℚ) < 2 ^ 53 := by exact_mod_cast (by omega : m < (2 ^ 53 : Int))
  rcases lt_or_ge n.natAbs (2 ^ 53) with short | long
  · exact Or.inl (h.eq short)
  · rcases le_total 0 n with positive | negative
    · exact Or.inr (Or.inl ⟨by omega, high.trans_le (h.above (by omega))⟩)
    · exact Or.inr (Or.inr ⟨by omega, (h.below (by omega)).trans_lt low⟩)

/-- **What follows an integer is compared with short integers as the integer is.** -/
theorem le_iff (h : Follows n q) (small : m.natAbs < 2 ^ 53) : q ≤ m ↔ n ≤ m := by
  obtain rfl | ⟨lt, lt'⟩ | ⟨lt, lt'⟩ := h.eq_or_lt small
  · exact Int.cast_le
  · exact iff_of_false (not_le.mpr lt') (not_le.mpr lt)
  · exact iff_of_true lt'.le lt.le

theorem ge_iff (h : Follows n q) (small : m.natAbs < 2 ^ 53) : (m : ℚ) ≤ q ↔ m ≤ n := by
  obtain rfl | ⟨lt, lt'⟩ | ⟨lt, lt'⟩ := h.eq_or_lt small
  · exact Int.cast_le
  · exact iff_of_true lt'.le lt.le
  · exact iff_of_false (not_le.mpr lt') (not_le.mpr lt)

end Follows

/-- **The float nearest to an integer follows it.** -/
theorem value?_intToFloat {n : Int} {x : Float} (h : intToFloat n = .ok x) :
    ∃ q, (Binary.ofFloat x).value? = some q ∧ Follows n q := by
  have nearest : Binary.nearest? (n < 0) n.natAbs 1 = some x := by
    rw [intToFloat] at h
    split at h
    · cases h
      assumption
    · cases h
  by_cases zero : n = 0
  · subst zero
    have start : Binary.ofFloat x = .finite false 0 (-1074) := by
      rw [← Option.some.inj nearest]
      decide +kernel
    refine ⟨0, ?_, fun _ => rfl, fun large => ?_, fun large => ?_⟩
    · rw [start, Binary.value?, Binary.dyadic, Nat.cast_zero, zero_mul, mul_zero]
    · exact absurd large (by norm_num)
    · exact absurd large (by norm_num)
  · have positive : n.natAbs ≠ 0 := Int.natAbs_ne_zero.mpr zero
    have value := Binary.value?_nearest?_one positive nearest
    rw [Binary.dyadic] at value
    refine ⟨_, value, fun small => ?_, fun large => ?_, fun large => ?_⟩
    · rw [Binary.nearestParts_one_eq positive small]
      rcases Int.lt_or_le n 0 with negative | positive
      · rw [decide_eq_true negative, if_pos rfl, neg_one_mul, ← Int.cast_natCast,
          Int.ofNat_natAbs_of_nonpos negative.le, Int.cast_neg, neg_neg]
      · rw [decide_eq_false (not_lt.mpr positive), if_neg (by decide), one_mul,
          ← Int.cast_natCast, Int.natAbs_of_nonneg positive]
    · rw [decide_eq_false (by omega), if_neg (by decide), one_mul]
      exact Binary.le_nearestParts_one_mul (by omega)
    · rw [decide_eq_true (by omega), if_pos rfl, neg_one_mul, neg_le_neg_iff]
      exact Binary.le_nearestParts_one_mul (by omega)

/-- A number that has no value is a float. -/
theorem eq_float_of_value?_eq_none {a : Number} (h : a.value? = none) :
    ∃ x, a = float x ∧ (Binary.ofFloat x).value? = none := by
  cases a with
  | int n => cases h
  | float x => exact ⟨x, rfl, h⟩

theorem value?_toFloat_eq_none {a : Number} {x : Float} (h : a.value? = none)
    (nearest : a.toFloat = .ok x) : (Binary.ofFloat x).value? = none := by
  obtain ⟨y, rfl, noValue⟩ := eq_float_of_value?_eq_none h
  cases nearest
  exact noValue

/-- **A sum has no value if one of its parts has none.** -/
theorem value?_add_eq_none {a b c : Number} (h : a.value? = none ∨ b.value? = none)
    (sum : a.add b = .ok c) : c.value? = none := by
  have floats : (do
      let x ← a.toFloat
      let y ← b.toFloat
      return float (x + y)) = .ok c := by
    rcases h with h | h
    · obtain ⟨x, rfl, -⟩ := eq_float_of_value?_eq_none h
      exact sum
    · obtain ⟨y, rfl, -⟩ := eq_float_of_value?_eq_none h
      cases a with
      | int m => exact sum
      | float x => exact sum
  cases left : a.toFloat with
  | error fault =>
      rw [left] at floats
      cases floats
  | ok x =>
      cases right : b.toFloat with
      | error fault =>
          rw [left, right] at floats
          cases floats
      | ok y =>
          rw [left, right] at floats
          cases floats
          exact Binary.value?_add_eq_none
            (h.imp (value?_toFloat_eq_none · left) (value?_toFloat_eq_none · right))

end SketchScreen.Number
