import SketchScreen.Proofs.Decimal
import SketchScreen.Proofs.ExactValue
import SketchScreen.Value

/-!
# Values that can be Written

Only an integer of too many digits cannot be written.  A float never has so many, so a number
is written if it is a float or an integer of few bits; and a value of any kind is shown if all
the numbers in it are of that kind, however deep they are.

## Main Definitions

- `Value.numbers`: the numbers in a value, those inside of collections included.
- `Value.IsWithin`: a value in which every number is a float, or an integer of
  at most some bits.
-/

namespace SketchScreen

/-! ## Numbers -/

namespace Number

variable {a : Number} {k : Nat}

/-- The exponent of a float is bounded by the width of its field. -/
theorem Binary.exponent_le_of_ofFloat {x : Float} {negative : Bool} {mantissa : Nat}
    {exponent : Int} (view : ofFloat x = finite negative mantissa exponent) :
    exponent ≤ 971 := by
  have width : x.toBits.toNat / twoTo mantissaBits % twoTo 11 < 2048 :=
    Nat.mod_lt _ (by decide)
  have least : minExponent = -1074 := rfl
  have limit : exponentLimit = 2047 := rfl
  rw [ofFloat_eq_ofBits, ofBits] at view
  split at view
  · split at view <;> cases view
  · split at view
    · cases view
      omega
    · cases view
      omega

/-- The bits of the mantissa of a float, and the zeros that the largest exponent puts behind
them. -/
def Binary.wholeBits : Nat := 53 + 971

/-- An integer that a float is equal to is no longer than that. -/
theorem natAbs_lt_of_toInt? {x : Float} {n : Int} (h : (float x).toInt? = some n) :
    n.natAbs < 2 ^ Binary.wholeBits := by
  rw [toInt?] at h
  cases view : Binary.ofFloat x with
  | nan =>
      rw [view] at h
      cases h
  | infinite negative =>
      rw [view] at h
      cases h
  | finite negative mantissa exponent =>
      have narrow : mantissa < 2 ^ 53 := (Binary.bounds_of_ofBits_eq_finite view).1
      have high : exponent.toNat ≤ 971 := by
        have := Binary.exponent_le_of_ofFloat view
        omega
      obtain ⟨num, den, fraction, size⟩ : ∃ num den,
          Binary.fraction negative mantissa exponent = (num, den) ∧
            num.natAbs = mantissa * 2 ^ exponent.toNat := by
        refine ⟨_, _, rfl, ?_⟩
        cases negative with
        | false => exact Int.natAbs_natCast _
        | true => exact (Int.natAbs_neg _).trans (Int.natAbs_natCast _)
      simp only [view, fraction] at h
      split at h
      · cases h
        calc (num / den).natAbs ≤ num.natAbs := Int.natAbs_ediv_le_natAbs num den
          _ = mantissa * 2 ^ exponent.toNat := size
          _ < 2 ^ 53 * 2 ^ exponent.toNat :=
            Nat.mul_lt_mul_of_pos_right narrow (by positivity)
          _ = 2 ^ (53 + exponent.toNat) := (pow_add 2 53 _).symm
          _ ≤ 2 ^ Binary.wholeBits :=
            Nat.pow_le_pow_right (by decide) (Nat.add_le_add_left high 53)
      · cases h

theorem lt_tenTo {n limit : Nat} (small : n < 2 ^ k) (range : k ≤ limit) : n < tenTo limit :=
  calc
    n < 2 ^ k := small
    _ ≤ 10 ^ k := Nat.pow_le_pow_left (by decide) k
    _ ≤ 10 ^ limit := Nat.pow_le_pow_right (by decide) range

theorem exists_writeInt {n : Int} (small : n.natAbs < 2 ^ k) (range : k ≤ digitLimit) :
    ∃ text, writeInt n = .ok text :=
  ⟨_, writeInt_of_isShort ((isShort_iff n).mpr (lt_tenTo small range))⟩

/-- An integer that has no more bits than digits are allowed is not too long to be written. -/
theorem exists_write (within : a.IsWithin k) (range : k ≤ digitLimit) :
    ∃ shown, a.write = .ok shown := by
  cases a with
  | float x => exact ⟨_, rfl⟩
  | int n => exact exists_writeInt within range

/-- A float is never too long, not even where it is written as an integer. -/
theorem exists_writeCompact (within : a.IsWithin k) (range : k ≤ digitLimit) :
    ∃ text, a.writeCompact = .ok text := by
  cases a with
  | int n => exact exists_writeInt within range
  | float x =>
      rw [writeCompact]
      cases whole : (float x).toInt? with
      | none => exact ⟨_, rfl⟩
      | some n => exact exists_writeInt (natAbs_lt_of_toInt? whole) (by decide)

end Number

/-! ## Values -/

namespace Value

mutual

/-- The numbers in a value, those inside of collections included. -/
def numbers : Value → List Number
  | null | bool _ | text _ | moment _ | octets _ | enclosing _ => []
  | number n => [n]
  | list items | set items => numbersOfItems items
  | pair first second => first.numbers ++ second.numbers
  | map pairs => numbersOfPairs pairs

/-- The numbers in the items of a list. -/
def numbersOfItems : List Value → List Number
  | [] => []
  | item :: rest => item.numbers ++ numbersOfItems rest

/-- The numbers in the keys and values of a map. -/
def numbersOfPairs : List (Value × Value) → List Number
  | [] => []
  | (key, value) :: rest => key.numbers ++ value.numbers ++ numbersOfPairs rest

end

/-- A value in which every number is a float, or an integer of at most some bits. -/
def IsWithin (bits : Nat) (value : Value) : Prop := ∀ n ∈ value.numbers, n.IsWithin bits

instance (bits : Nat) (value : Value) : Decidable (value.IsWithin bits) :=
  inferInstanceAs (Decidable (∀ n ∈ value.numbers, n.IsWithin bits))

/-! ## Values in messages -/

mutual

/-- A value is shown if all numbers in it can be written. -/
theorem exists_shown : ∀ {value : Value}, (∀ n ∈ value.numbers, ∃ text, n.write = .ok text) →
    ∃ text, value.shown = .ok text
  | null, _ => ⟨_, rfl⟩
  | bool _, _ => ⟨_, rfl⟩
  | text _, _ => ⟨_, rfl⟩
  | moment _, _ => ⟨_, rfl⟩
  | octets _, _ => ⟨_, rfl⟩
  | enclosing _, _ => ⟨_, rfl⟩
  | number n, written => written n (List.mem_singleton.mpr rfl)
  | list items, written => by
      obtain ⟨parts, inside⟩ := exists_shownItems written
      rw [shown, inside]
      exact ⟨_, rfl⟩
  | set items, written => by
      obtain ⟨parts, inside⟩ := exists_shownItems written
      rw [shown, inside]
      exact ⟨_, rfl⟩
  | pair first second, written => by
      obtain ⟨hfirst, hsecond⟩ := List.forall_mem_append.mp written
      obtain ⟨a, shownFirst⟩ := exists_shown hfirst
      obtain ⟨b, shownSecond⟩ := exists_shown hsecond
      rw [shown, shownFirst, shownSecond]
      exact ⟨_, rfl⟩
  | map pairs, written => by
      obtain ⟨parts, inside⟩ := exists_shownPairs written
      rw [shown, inside]
      exact ⟨_, rfl⟩

theorem exists_shownItems : ∀ {items : List Value},
    (∀ n ∈ numbersOfItems items, ∃ text, n.write = .ok text) →
      ∃ parts, shownItems items = .ok parts
  | [], _ => ⟨_, rfl⟩
  | item :: rest, written => by
      obtain ⟨hitem, hrest⟩ := List.forall_mem_append.mp written
      obtain ⟨part, shownItem⟩ := exists_shown hitem
      obtain ⟨parts, inside⟩ := exists_shownItems hrest
      rw [shownItems, shownItem, inside]
      exact ⟨_, rfl⟩

theorem exists_shownPairs : ∀ {pairs : List (Value × Value)},
    (∀ n ∈ numbersOfPairs pairs, ∃ text, n.write = .ok text) →
      ∃ parts, shownPairs pairs = .ok parts
  | [], _ => ⟨_, rfl⟩
  | (key, value) :: rest, written => by
      obtain ⟨hpair, hrest⟩ := List.forall_mem_append.mp written
      obtain ⟨hkey, hvalue⟩ := List.forall_mem_append.mp hpair
      obtain ⟨a, shownKey⟩ := exists_shown hkey
      obtain ⟨b, shownValue⟩ := exists_shown hvalue
      obtain ⟨parts, inside⟩ := exists_shownPairs hrest
      rw [shownPairs, shownKey, shownValue, inside]
      exact ⟨_, rfl⟩

end

section Bits

variable {k : Nat} {value : Value} (within : value.IsWithin k) (range : k ≤ digitLimit)

include within range

/-- **A value without long integers can be shown.** -/
theorem IsWithin.exists_shown : ∃ text, value.shown = .ok text :=
  Value.exists_shown fun n mem => Number.exists_write (within n mem) range

/-- **A value without long integers has a text.** -/
theorem IsWithin.exists_asText : ∃ text, value.asText = .ok text := by
  cases value with
  | text s => exact ⟨s, rfl⟩
  | number n => exact Number.exists_writeCompact (List.forall_mem_singleton.mp within) range
  | moment m => exact ⟨_, rfl⟩
  | _ => exact within.exists_shown range

end Bits

end Value

end SketchScreen
