import Mathlib.Tactic.IntervalCases
import SketchScreen.Number.Decimal
import SketchScreen.Number.Format
import SketchScreen.Proofs.Characters

/-!
# Decimal Digits that Read Back

An integer that is not too long is written with its decimal digits, and reading these
digits gives the integer again.  No number is written with more than digits, signs,
points and a few letters.

## Main Definitions

- `Number.IsShort`: an integer that is not too long to be written and read.
- `Number.numeralCharacters`: the characters that the texts of numbers are made of.
-/

namespace SketchScreen.Number

open SketchScreen.Text

/-- An integer of no more digits than are read and written. -/
def IsShort (n : Int) : Prop := (decimalDigits n.natAbs).length ≤ digitLimit

instance (n : Int) : Decidable (IsShort n) :=
  inferInstanceAs (Decidable (_ ≤ _))

theorem isShort_iff (n : Int) : IsShort n ↔ n.natAbs < tenTo digitLimit := by
  have count : ∀ limit, 0 < limit → ((decimalDigits n.natAbs).length ≤ limit ↔
      n.natAbs < tenTo limit) := fun _ => Nat.length_toDigits_le_iff (by decide)
  exact count digitLimit (by decide)

theorem IsShort.natAbs {n : Int} (h : IsShort n) : IsShort (n.natAbs : Int) := by
  rw [IsShort, Int.natAbs_natCast]
  exact h

/-- An integer of five digits is short. -/
theorem isShort_of_natAbs_lt {n : Int} (h : n.natAbs < 100000) : IsShort n := by
  have short : (decimalDigits n.natAbs).length ≤ 5 :=
    (Nat.length_toDigits_le_iff (by decide) (by decide)).mpr h
  exact Nat.le_trans short (by decide)

/-! ## Writing -/

theorem writeInt_of_isShort {n : Int} (h : IsShort n) :
    writeInt n = .ok (String.ofList (intDigits n)) := by
  rw [writeInt, if_pos ((isShort_iff n).mp h)]

theorem decimalDigits_ne_nil (n : Nat) : decimalDigits n ≠ [] := Nat.toDigits_ne_nil

theorem isDigit_of_mem_decimalDigits {n : Nat} {c : Char} (h : c ∈ decimalDigits n) :
    c.isDigit = true :=
  Nat.isDigit_of_mem_toDigits (by decide) (by decide) h

theorem isWord_of_mem_decimalDigits {n : Nat} {c : Char} (h : c ∈ decimalDigits n) :
    isWord c = true :=
  isWord_of_isDigit (isDigit_of_isDigit (isDigit_of_mem_decimalDigits h))

theorem intDigits_ne_nil (n : Int) : intDigits n ≠ [] := by
  unfold intDigits
  split
  · exact List.cons_ne_nil _ _
  · exact decimalDigits_ne_nil _

/-- An integer is written as its digits, behind a minus sign if it is below zero. -/
theorem exists_intDigits_eq (n : Int) :
    ∃ k, intDigits n = List.replicate k '-' ++ decimalDigits n.natAbs ∧
      (-1) ^ k * (n.natAbs : Int) = n := by
  unfold intDigits
  split
  · refine ⟨1, rfl, ?_⟩
    omega
  · refine ⟨0, rfl, ?_⟩
    omega

/-! ## The characters of numbers -/

/-- The characters that the texts of numbers are made of. -/
def numeralCharacters : List Char := "0123456789+-.einfa".toList

theorem mem_numeralCharacters_of_isDigit {c : Char} (h : c.isDigit = true) :
    c ∈ numeralCharacters := by
  obtain ⟨low, high⟩ := Char.isDigit_iff_toNat.mp h
  have digits : ∀ n, 48 ≤ n → n ≤ 57 → Char.ofNat n ∈ numeralCharacters := by
    intro n low high
    interval_cases n <;> decide
  rw [← Char.ofNat_toNat c]
  exact digits _ low high

theorem decimalDigits_subset (n : Nat) : decimalDigits n ⊆ numeralCharacters :=
  fun _ mem => mem_numeralCharacters_of_isDigit (isDigit_of_mem_decimalDigits mem)

theorem intDigits_subset (n : Int) : intDigits n ⊆ numeralCharacters := by
  unfold intDigits
  split
  · exact List.cons_subset.mpr ⟨by decide, decimalDigits_subset _⟩
  · exact decimalDigits_subset _

theorem replicate_zero_subset (n : Nat) : List.replicate n '0' ⊆ numeralCharacters := by
  intro c mem
  rw [List.eq_of_mem_replicate mem]
  decide

theorem writeExponent_subset (width : Nat) (exponent : Int) :
    writeExponent width exponent ⊆ numeralCharacters := by
  refine List.cons_subset.mpr ⟨by decide, List.cons_subset.mpr ⟨?_, ?_⟩⟩
  · split <;> decide
  · exact List.append_subset.mpr ⟨replicate_zero_subset _, decimalDigits_subset _⟩

theorem writeDigits_subset (layout : FloatLayout) (d : Digits) :
    layout.writeDigits d ⊆ numeralCharacters := by
  have digits := decimalDigits_subset d.significand
  have front : ∀ n, (decimalDigits d.significand).take n ⊆ numeralCharacters :=
    fun n _ mem => digits (List.mem_of_mem_take mem)
  have back : ∀ n, (decimalDigits d.significand).drop n ⊆ numeralCharacters :=
    fun n _ mem => digits (List.mem_of_mem_drop mem)
  have point : '.' ∈ numeralCharacters := by decide
  have zero : '0' ∈ numeralCharacters := by decide
  simp only [FloatLayout.writeDigits]
  split
  · refine List.append_subset.mpr ⟨List.append_subset.mpr ⟨front 1, ?_⟩,
      writeExponent_subset _ _⟩
    split
    · exact List.nil_subset _
    · exact List.cons_subset.mpr ⟨point, back 1⟩
  · split
    · refine List.append_subset.mpr
        ⟨List.append_subset.mpr ⟨digits, replicate_zero_subset _⟩, ?_⟩
      exact List.cons_subset.mpr ⟨point, List.cons_subset.mpr ⟨zero, List.nil_subset _⟩⟩
    · split
      · refine List.cons_subset.mpr ⟨zero, List.cons_subset.mpr ⟨point, ?_⟩⟩
        exact List.append_subset.mpr ⟨replicate_zero_subset _, digits⟩
      · exact List.append_subset.mpr ⟨front _, List.cons_subset.mpr ⟨point, back _⟩⟩

theorem writeDigits_ne_nil (layout : FloatLayout) (d : Digits) :
    layout.writeDigits d ≠ [] := by
  simp only [FloatLayout.writeDigits]
  split
  · exact List.append_ne_nil_of_right_ne_nil _ (List.cons_ne_nil _ _)
  · split
    · exact List.append_ne_nil_of_right_ne_nil _ (List.cons_ne_nil _ _)
    · split
      · exact List.cons_ne_nil _ _
      · exact List.append_ne_nil_of_right_ne_nil _ (List.cons_ne_nil _ _)

theorem writeFloat_characters (x : Float) :
    (writeFloat x).toList ≠ [] ∧ (writeFloat x).toList ⊆ numeralCharacters := by
  unfold writeFloat FloatLayout.write
  split
  · decide
  · rename_i negative _
    cases negative <;> decide
  · rename_i negative mantissa exponent _
    have body : ∀ cs, (cs = ['0', '.', '0'] ∨ ∃ d, cs = FloatLayout.plain.writeDigits d) →
        cs ≠ [] ∧ cs ⊆ numeralCharacters := by
      rintro cs (rfl | ⟨d, rfl⟩)
      · decide
      · exact ⟨writeDigits_ne_nil _ d, writeDigits_subset _ d⟩
    have finite : (if mantissa = 0 then ['0', '.', '0']
        else FloatLayout.plain.writeDigits (shortest mantissa exponent)) ≠ [] ∧
        (if mantissa = 0 then ['0', '.', '0']
          else FloatLayout.plain.writeDigits (shortest mantissa exponent))
            ⊆ numeralCharacters := by
      apply body
      split
      · exact Or.inl rfl
      · exact Or.inr ⟨_, rfl⟩
    rw [String.toList_ofList]
    split
    · exact ⟨List.cons_ne_nil _ _, List.cons_subset.mpr ⟨by decide, finite.2⟩⟩
    · exact finite

theorem writeInt_characters {m : Int} {text : String} (written : writeInt m = .ok text) :
    text.toList ≠ [] ∧ text.toList ⊆ numeralCharacters := by
  unfold writeInt at written
  split at written
  · cases written
    rw [String.toList_ofList]
    exact ⟨intDigits_ne_nil m, intDigits_subset m⟩
  · cases written

/-- **The text of a number** is not empty, and is made of few characters. -/
theorem writeCompact_characters {n : Number} {text : String} (h : n.writeCompact = .ok text) :
    text.toList ≠ [] ∧ text.toList ⊆ numeralCharacters := by
  unfold writeCompact at h
  split at h
  · exact writeInt_characters h
  · split at h
    · exact writeInt_characters h
    · cases h
      exact writeFloat_characters _

/-! ## Reading back -/

/-- The value of a row of ASCII digits, one digit after another. -/
theorem foldl_digitValue {cs : List Char} (h : ∀ c ∈ cs, c.isDigit = true) (total : Nat) :
    (cs.map digitValue).foldl (fun total digit => total * 10 + digit) total
      = Nat.ofDigitChars 10 cs total := by
  induction cs generalizing total with
  | nil => rfl
  | cons c cs ih =>
      rw [List.forall_mem_cons] at h
      rw [List.map_cons, List.foldl_cons, ih h.2, Nat.ofDigitChars_cons, digitValue,
        digitValue?_of_isDigit h.1, Nat.mul_comm total]
      rfl

/-- **Digits read back.** -/
theorem digitsValue_decimalDigits (n : Nat) : digitsValue (decimalDigits n) = n := by
  rw [digitsValue, ofDigits, foldl_digitValue fun c => isDigit_of_mem_decimalDigits]
  exact Nat.ofDigitChars_ten_toDigits

/-- Digits behind a sign, or behind none, are read as the integer that they write out. -/
theorem readUnsigned_of_isShort {n : Nat} (h : IsShort n) (negative : Bool) :
    readUnsigned negative (decimalDigits n) = .ok (.int (if negative then -n else n)) := by
  have digits : (decimalDigits n).all isDigit = true := by
    rw [List.all_eq_true]
    exact fun c mem => isDigit_of_isDigit (isDigit_of_mem_decimalDigits mem)
  have short : ¬ digitLimit < (decimalDigits n).length := Nat.not_lt.mpr h
  rw [readUnsigned, if_pos digits, readDigits, if_neg short, digitsValue_decimalDigits]
  rfl

theorem readUnsigned_decimalDigits {n : Nat} (h : IsShort n) :
    readUnsigned false (decimalDigits n) = .ok (.int n) :=
  readUnsigned_of_isShort h false

end SketchScreen.Number
