import SketchScreen.Argument
import SketchScreen.Proofs.Formula
import SketchScreen.Proofs.Pieces

/-!
# Operands of Calls

An operand is an argument of a call apart from any text: an integer, a text, the name of a
colour or that of a variable.  Operands that are written with commas between them are cut
apart again, and each is resolved to what it stands for.

## Main Definitions

- `Operand`: the operands.
- `Operand.value`: what an operand stands for.
- `Operand.write`, `Operand.writeAll`: the text of an operand, and that of a list of operands.
-/

namespace SketchScreen

open SketchScreen.Text

/-! ## Operands -/

/-- An operand of a call. -/
inductive Operand where
  /-- An integer that is not too long to be read. -/
  | integer (n : Int) (short : Number.IsShort n)
  /-- A text of one line, without a double quote or a backslash. -/
  | text (cs : List Char) (plain : ∀ c ∈ cs, c ≠ '"' ∧ c ≠ '\\' ∧ c ≠ '\n')
  /-- The name of a colour. -/
  | color (x : Identifier) (named : Color.nameStart.toList.isPrefixOf x.text = true)
  /-- The name of a variable, or any other name that is none of a colour. -/
  | reference (x : Identifier) (unnamed : Color.nameStart.toList.isPrefixOf x.text = false)

namespace Operand

/-- What an operand stands for.  A name without a value stands for itself. -/
def value (lookup : Lookup) : Operand → Argument
  | integer n _ => .number (.int n)
  | text cs _ => .text (String.ofList cs)
  | color x _ => .text (String.ofList x.text)
  | reference x _ =>
    match lookup (String.ofList x.text) with
    | some n => .number n
    | none => .text (String.ofList x.text)

/-- The text of an operand. -/
def write : Operand → List Char
  | integer n _ => Number.intDigits n
  | text cs _ => '"' :: (cs ++ ['"'])
  | color x _ => x.text
  | reference x _ => x.text

/-- The text of a list of operands. -/
def writeAll (operands : List Operand) : List Char :=
  [',', ' '].intercalate (operands.map write)

end Operand

/-! ## Resolving words -/

/-- A word has no sign. -/
theorem Number.takeSign_of_all_isWord {cs : List Char} (word : ∀ c ∈ cs, isWord c = true) :
    takeSign cs = (false, cs) := by
  unfold takeSign
  split
  · exact absurd (word '-' (by simp)) (by decide)
  · exact absurd (word '+' (by simp)) (by decide)
  · rfl

/-- **The text of an integer is read as the integer.** -/
theorem Number.readNumber?_intDigits {n : Int} (short : IsShort n) :
    readNumber? (intDigits n) = .ok (some (.int n)) := by
  have word : ∀ c ∈ decimalDigits n.natAbs, isWord c = true :=
    fun c => isWord_of_mem_decimalDigits
  have digit : ∀ c ∈ decimalDigits n.natAbs, isDigit c = true :=
    fun c mem => isDigit_of_isDigit (isDigit_of_mem_decimalDigits mem)
  have nonempty := decimalDigits_ne_nil n.natAbs
  have trimmed : IsTrimmed (decimalDigits n.natAbs) := .of_isWord nonempty word
  have length : numberLength (decimalDigits n.natAbs) = (decimalDigits n.natAbs).length := by
    simpa using numberLength_digits nonempty digit Token.IsBoundary.nil
  have sign : takeSign (trim (intDigits n)) = (decide (n < 0), decimalDigits n.natAbs) := by
    unfold intDigits
    split
    · rename_i negative
      have signed : IsTrimmed ('-' :: decimalDigits n.natAbs) :=
        (IsTrimmed.singleton (c := '-') (by decide)).append trimmed []
      rw [signed.trim_eq, decide_eq_true negative]
      rfl
    · rename_i natural
      rw [trimmed.trim_eq, takeSign_of_all_isWord word, decide_eq_false natural]
  have value : (if decide (n < 0) = true then -(n.natAbs : Int) else n.natAbs) = n := by
    simp only [decide_eq_true_eq]
    split <;> omega
  unfold readNumber?
  rw [sign]
  simp only [readUnsigned_of_isShort short.natAbs, value]
  rw [if_pos ⟨nonempty, length⟩]
  rfl

namespace Argument

theorem isExpression_of_all_isWord {cs : List Char} (word : ∀ c ∈ cs, isWord c = true) :
    isExpression cs = false := by
  rw [isExpression, List.any_eq_false]
  intro c mem
  simp [TokenContent.ofOperator?_of_isWord (word c mem)]

theorem isQuoted_of_all_isWord {cs : List Char} (word : ∀ c ∈ cs, isWord c = true) :
    isQuoted cs = false := by
  cases cs with
  | nil => rfl
  | cons c cs => simp [isQuoted, Source.isQuote_eq_false_of_isWord (word c (by simp))]

/-- Digits stand for the number that they write out. -/
theorem plain_decimalDigits {n : Nat} (short : Number.IsShort n) :
    plain (Number.decimalDigits n) = .ok (.number (.int n)) := by
  have read : Number.readNumber? (Number.decimalDigits n) = .ok (some (.int n)) :=
    Number.readNumber?_intDigits short
  rw [plain, read]
  rfl

/-- A name writes out no number, so it stands for itself. -/
theorem plain_name (x : Identifier) : plain x.text = .ok (.text (String.ofList x.text)) := by
  have word : ∀ c ∈ x.text, isWord c = true := fun c => x.isWord_of_mem
  have length : Number.numberLength x.text ≠ x.text.length := by
    obtain ⟨c, rest, split, start, -⟩ := x.exists_cons
    rw [split, Number.numberLength_of_isNameStart start]
    simp
  have read : Number.readNumber? x.text = .ok none := by
    unfold Number.readNumber?
    rw [(IsTrimmed.of_isWord x.ne_nil word).trim_eq, Number.takeSign_of_all_isWord word]
    exact if_neg fun both => length both.2
  rw [plain, read]
  rfl

theorem hasHexMark_eq_false {c : Char} {cs : List Char}
    (mark : c ≠ '0' ∨ ∀ d ∈ cs.head?, d ≠ 'x' ∧ d ≠ 'X') : hasHexMark (c :: cs) = false := by
  rcases mark with zero | letter
  · simp [hasHexMark, List.isPrefixOf_cons_cons, Ne.symm zero]
  · cases cs with
    | nil => simp [hasHexMark, List.isPrefixOf]
    | cons d cs =>
        have := letter d rfl
        simp [hasHexMark, List.isPrefixOf_cons_cons, Ne.symm this.1, Ne.symm this.2]

/-- Digits are resolved to their number. -/
theorem resolve_decimalDigits {n : Nat} (short : Number.IsShort n) (lookup : Lookup) :
    resolve lookup (Number.decimalDigits n) = .ok (.number (.int n)) := by
  have word : ∀ c ∈ Number.decimalDigits n, isWord c = true :=
    fun c => Number.isWord_of_mem_decimalDigits
  have digit : ∀ c ∈ Number.decimalDigits n, c.isDigit = true :=
    fun c => Number.isDigit_of_mem_decimalDigits
  have plain := plain_decimalDigits short
  obtain ⟨first, digits, split⟩ := List.exists_cons_of_ne_nil (Number.decimalDigits_ne_nil n)
  rw [split] at word digit plain ⊢
  have color : Color.nameStart.toList.isPrefixOf (first :: digits) = false := by
    have ne : first ≠ 'T' := fun same => absurd (digit first (by simp)) (by rw [same]; decide)
    simp [Color.nameStart, List.isPrefixOf_cons_cons, Ne.symm ne]
  have hex : hasHexMark (first :: digits) = false := by
    refine hasHexMark_eq_false (Or.inr fun d mem => ?_)
    have := digit d (List.mem_cons_of_mem _ (List.mem_of_mem_head? mem))
    constructor <;> rintro rfl <;> exact absurd this (by decide)
  have name : isName (first :: digits) = false := by
    have start : isNameStart first = false := by
      by_contra start
      have no := isDigit_eq_false_of_isNameStart (Bool.of_not_eq_false start)
      rw [isDigit_of_isDigit (digit first (by simp))] at no
      cases no
    simp [isName, start]
  simp [resolve, isQuoted_of_all_isWord word, color, hex,
    isExpression_of_all_isWord word, name, plain]

/-- Digits behind minus signs are resolved to the value of the digits, with the sign turned as
often: the first sign makes the text one for the evaluator. -/
theorem resolve_negated {n : Nat} (short : Number.IsShort n) (k : Nat) (lookup : Lookup) :
    resolve lookup (List.replicate k '-' ++ Number.decimalDigits n)
      = .ok (.number (.int ((-1) ^ k * n))) := by
  cases k with
  | zero =>
      rw [Int.pow_zero, Int.one_mul]
      exact resolve_decimalDigits short lookup
  | succ k =>
      have dispatched : resolve lookup (List.replicate (k + 1) '-' ++ Number.decimalDigits n)
          = ofExpression lookup (List.replicate (k + 1) '-' ++ Number.decimalDigits n) := rfl
      rw [dispatched, ofExpression, Formula.evaluate_negated short]

end Argument

namespace Operand

/-- **An operand is resolved to what it stands for.** -/
theorem resolve_write (lookup : Lookup) (operand : Operand) :
    Argument.resolve lookup operand.write = .ok (operand.value lookup) := by
  cases operand with
  | integer n short =>
      obtain ⟨k, digits, same⟩ := Number.exists_intDigits_eq n
      rw [write, digits, Argument.resolve_negated short.natAbs, same]
      rfl
  | text cs plain =>
      simp [write, value, Argument.resolve, Argument.isQuoted, Source.isQuote,
        Argument.unquote]
  | color x named =>
      have quoted := Argument.isQuoted_of_all_isWord fun c => x.isWord_of_mem
      simp [write, value, Argument.resolve, quoted, named]
  | reference x unnamed =>
      have word : ∀ c ∈ x.text, isWord c = true := fun c => x.isWord_of_mem
      have hex : hasHexMark x.text = false := by
        obtain ⟨c, rest, split, start, -⟩ := x.exists_cons
        rw [split]
        refine Argument.hasHexMark_eq_false (Or.inl ?_)
        rintro rfl
        exact absurd start (by decide)
      rw [write, Argument.resolve]
      simp only [Argument.isQuoted_of_all_isWord word, unnamed, hex,
        Argument.isExpression_of_all_isWord word, x.isName, Argument.plain_name, value]
      cases lookup (String.ofList x.text) <;> rfl

end Operand

/-! ## Cutting lists of operands -/

namespace Operand

theorem passes_write (operand : Operand) : Argument.Passes operand.write := by
  cases operand with
  | integer n short =>
      refine .of_all_isOrdinary fun c mem => ?_
      rw [write, Number.intDigits] at mem
      split at mem
      · rcases List.mem_cons.mp mem with rfl | mem
        · decide
        · exact Argument.isOrdinary_of_isWord (Number.isWord_of_mem_decimalDigits mem)
      · exact Argument.isOrdinary_of_isWord (Number.isWord_of_mem_decimalDigits mem)
  | text cs plain => exact .quoted rfl fun c mem => ⟨(plain c mem).1, (plain c mem).2.1⟩
  | color x named =>
      exact .of_all_isOrdinary fun c mem =>
        Argument.isOrdinary_of_isWord (x.isWord_of_mem mem)
  | reference x unnamed =>
      exact .of_all_isOrdinary fun c mem =>
        Argument.isOrdinary_of_isWord (x.isWord_of_mem mem)

/-- The text of an operand starts and ends with no blank. -/
theorem isTrimmed_write (operand : Operand) : IsTrimmed operand.write := by
  cases operand with
  | integer n short =>
      have digits : IsTrimmed (Number.decimalDigits n.natAbs) :=
        .of_isWord (Number.decimalDigits_ne_nil _) fun c => Number.isWord_of_mem_decimalDigits
      rw [write, Number.intDigits]
      split
      · exact (IsTrimmed.singleton (c := '-') (by decide)).append digits []
      · exact digits
  | text cs plain =>
      have quote : IsTrimmed ['"'] := .singleton (by decide)
      exact quote.append quote cs
  | color x named => exact .of_isWord x.ne_nil fun c => x.isWord_of_mem
  | reference x unnamed => exact .of_isWord x.ne_nil fun c => x.isWord_of_mem

/-- The blanks behind the commas are blanks in front of the operands. -/
theorem writeAll_cons (first : Operand) (operands : List Operand) :
    writeAll (first :: operands)
      = [','].intercalate (first.write :: operands.map fun operand =>
        ' ' :: operand.write) := by
  unfold writeAll
  induction operands generalizing first with
  | nil => rfl
  | cons second operands ih =>
      rw [List.map_cons, List.map_cons, List.intercalate_cons_cons, ← List.map_cons, ih,
        List.map_cons, List.intercalate_cons_cons]
      cases operands <;> simp [List.intercalate_cons_cons]

/-- **Operands that are written with commas between them are cut apart again.** -/
theorem split_writeAll (operands : List Operand) :
    Argument.split (writeAll operands) = operands.map write := by
  cases operands with
  | nil => rfl
  | cons first operands =>
      have stays : ∀ cs ∈ first.write :: operands.map fun operand => ' ' :: operand.write,
          Argument.Stays cs := by
        rw [List.forall_mem_cons, List.forall_mem_map]
        refine ⟨first.passes_write.stays, fun operand _ => ?_⟩
        have gap : Argument.Passes [' '] := .singleton (by decide)
        exact gap.stays_append operand.passes_write.stays
      have filled : ∀ cs ∈ first.write :: operands.map fun operand => ' ' :: operand.write,
          isBlank cs = false := by
        rw [List.forall_mem_cons, List.forall_mem_map]
        refine ⟨first.isTrimmed_write.isBlank_eq_false, fun operand _ => ?_⟩
        have := operand.isTrimmed_write.isBlank_eq_false
        simp_all [isBlank]
      have trimmed : ∀ operand : Operand, trim (' ' :: operand.write) = operand.write :=
        fun operand => operand.isTrimmed_write.trim_eq
      rw [writeAll_cons, Argument.split_intercalate stays filled]
      simp [first.isTrimmed_write.trim_eq, trimmed]

/-- **The arguments of a call are what its operands stand for.** -/
theorem readAll_writeAll (lookup : Lookup) (operands : List Operand) :
    Argument.readAll lookup (String.ofList (writeAll operands))
      = .ok (operands.map (value lookup)) := by
  rw [Argument.readAll, String.toList_ofList, split_writeAll]
  induction operands with
  | nil => rfl
  | cons operand operands ih =>
      rw [List.map_cons, List.mapM_cons, resolve_write, ih]
      rfl

end Operand

end SketchScreen
