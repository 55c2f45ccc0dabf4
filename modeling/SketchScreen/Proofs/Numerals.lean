import SketchScreen.Proofs.Operand

/-!
# Integers that Read Back

An integer that is written into a sketch is read as that integer again, wherever it is read:
as a number on its own, in an expression and as an argument.  Minus signs may be put in front
of it, and each of them turns its sign.

## Design Notes

Digits alone are read by three readers, each by rules of its own.  With a sign in front there
are two: the reader of numbers takes one sign along, and everybody else leaves signs to the
evaluator, for whom the sign of a negative integer is one more in the chain.  So the text of
an integer behind signs is looked at as its digits behind signs
(`Number.exists_intDigits_eq`).
-/

namespace SketchScreen

/-- **Integers read back.**  The text of an integer that is not too long is read as that
integer.  Behind any number of minus signs, none included, it is evaluated and resolved to the
integer with its sign turned as often, whatever values names have. -/
theorem written_integer_reads_back {n : Int}
    (short : (Number.decimalDigits n.natAbs).length ≤ 4300) :
    ∃ text, (Number.int n).writeCompact = .ok text ∧
      Number.readNumber? text.toList = .ok (some (.int n)) ∧
      ∀ (lookup : Lookup) (k : Nat),
        evaluate lookup (String.ofList (List.replicate k '-' ++ text.toList))
            = .ok (.int ((-1) ^ k * n)) ∧
          Argument.resolve lookup (List.replicate k '-' ++ text.toList)
            = .ok (.number (.int ((-1) ^ k * n))) := by
  have isShort : Number.IsShort n := short
  refine ⟨String.ofList (Number.intDigits n), Number.writeInt_of_isShort isShort, ?_,
    fun lookup k => ?_⟩
  · rw [String.toList_ofList]
    exact Number.readNumber?_intDigits isShort
  · obtain ⟨sign, digits, value⟩ := Number.exists_intDigits_eq n
    have chain : List.replicate k '-' ++ Number.intDigits n
        = List.replicate (k + sign) '-' ++ Number.decimalDigits n.natAbs := by
      rw [digits, List.replicate_add, List.append_assoc]
    have turned : (-1) ^ (k + sign) * (n.natAbs : Int) = (-1) ^ k * n := by
      rw [Int.pow_add, Int.mul_assoc, value]
    rw [String.toList_ofList, chain, ← turned]
    exact ⟨Formula.evaluate_negated isShort.natAbs _ lookup,
      Argument.resolve_negated isShort.natAbs _ lookup⟩

/-- The least of all integers that read back. -/
theorem written_integer_reads_back_least :
    let n : Int := -(10 ^ 4300 - 1)
    (Number.decimalDigits n.natAbs).length ≤ 4300 ∧
      ∃ text, (Number.int n).writeCompact = .ok text ∧
        Number.readNumber? text.toList = .ok (some (.int n)) ∧
        ∀ (lookup : Lookup) (k : Nat),
          evaluate lookup (String.ofList (List.replicate k '-' ++ text.toList))
              = .ok (.int ((-1) ^ k * n)) ∧
            Argument.resolve lookup (List.replicate k '-' ++ text.toList)
              = .ok (.number (.int ((-1) ^ k * n))) := by
  intro n
  have short : (Number.decimalDigits n.natAbs).length ≤ 4300 :=
    (Number.isShort_iff n).mpr (by decide +kernel)
  exact ⟨short, written_integer_reads_back short⟩

end SketchScreen
