import Mathlib.Data.List.TakeWhile
import SketchScreen.Proofs.Scanning

/-!
# Lexemes and what Follows Them

A number or a name takes as many characters as it can, so where it ends depends on the
characters behind it.  What it is does not: a text that is cut off as one lexeme, whatever
follows, is one where nothing follows (`Lexeme.Spells.of_at?`), and then also before every
boundary (`Lexeme.Spells.at?_append`).

## Main Definitions

- `Text.IsLocal`: a length that what lies beyond it has no part in.
- `TokenContent.isOperand`: literals and names, as opposed to operators and parentheses.
- `Lexeme.Spells`: a text that is one literal or one name.

## Design Notes

The length of a number is not a function of its text alone even before a boundary: `1e` ends
after the `1`, but `1e-5` goes on, and the minus is a boundary.  What does not change is
whether the number ends exactly where the text does, so `numberLength_append_eq_length_iff` is
an equivalence and no equation.
-/

namespace SketchScreen

open SketchScreen.Text

/-! ## Runs before a boundary -/

theorem Text.takeWhile_append_of_stop {p : Char → Bool} {rest : List Char}
    (stop : ∀ c ∈ rest.head?, p c = false) (cs : List Char) :
    (cs ++ rest).takeWhile p = cs.takeWhile p := by
  induction cs with
  | nil => exact takeWhile_append_of_head? (List.forall_mem_nil _) stop
  | cons c cs ih => rw [List.cons_append, List.takeWhile_cons, List.takeWhile_cons, ih]

theorem Text.dropWhile_append_of_stop {p : Char → Bool} {rest : List Char}
    (stop : ∀ c ∈ rest.head?, p c = false) (cs : List Char) :
    (cs ++ rest).dropWhile p = cs.dropWhile p ++ rest := by
  induction cs with
  | nil => exact dropWhile_append_of_head? (List.forall_mem_nil _) stop
  | cons c cs ih =>
      rw [List.cons_append, List.dropWhile_cons, List.dropWhile_cons, ih]
      split <;> rfl

/-- A length at the start of a text that stays the same if the text ends there, or later. -/
def Text.IsLocal (length : List Char → Nat) : Prop :=
  ∀ cs k, length cs ≤ k → length (cs.take k) = length cs

theorem Text.takeWhile_take {p : Char → Bool} {cs : List Char} {k : Nat}
    (within : (cs.takeWhile p).length ≤ k) : (cs.take k).takeWhile p = cs.takeWhile p := by
  rw [← List.take_takeWhile, List.take_of_length_le within]

theorem Text.dropWhile_take {p : Char → Bool} {cs : List Char} {k : Nat}
    (within : (cs.takeWhile p).length ≤ k) :
    (cs.take k).dropWhile p = (cs.dropWhile p).take (k - (cs.takeWhile p).length) := by
  have behind : ∀ ds : List Char, ds.dropWhile p = ds.drop (ds.takeWhile p).length := by
    intro ds
    have parts := congrArg (List.drop (ds.takeWhile p).length)
      (List.takeWhile_append_dropWhile (p := p) (l := ds))
    rwa [List.drop_left] at parts
  rw [behind, takeWhile_take within, List.drop_take, ← behind]

/-- Hexadecimal digits by their code points. -/
theorem Text.toNat_of_isHexDigit {c : Char} (h : isHexDigit c = true) :
    (48 ≤ c.toNat ∧ c.toNat ≤ 57) ∨ (97 ≤ c.toNat ∧ c.toNat ≤ 102) ∨
      (65 ≤ c.toNat ∧ c.toNat ≤ 70) := by
  unfold isHexDigit hexValue? at h
  split at h
  · rename_i digit
    exact Or.inl digit
  · split at h
    · rename_i small
      exact Or.inr (Or.inl small)
    · split at h
      · rename_i capital
        exact Or.inr (Or.inr capital)
      · cases h

/-- Hexadecimal digits are word characters. -/
theorem Text.isWord_of_isHexDigit {c : Char} (h : isHexDigit c = true) : isWord c = true := by
  have range := toNat_of_isHexDigit h
  have ascii : c.toNat < 0x80 := by omega
  rw [isWord, if_pos ascii]
  rcases range with digit | letter
  · simp [isAsciiWord, Char.isAlphanum, Char.isDigit_iff_toNat.mpr digit]
  · have alpha : c.isAlpha = true := by
      show (decide (c.val ≥ 'A'.val ∧ c.val ≤ 'Z'.val) ||
        (decide (c.val ≥ 'a'.val) && decide (c.val ≤ 'z'.val))) = true
      simp only [Bool.or_eq_true, Bool.and_eq_true, decide_eq_true_eq, UInt32.le_iff_toNat_le,
        ge_iff_le]
      show (65 ≤ c.toNat ∧ c.toNat ≤ 90) ∨ (97 ≤ c.toNat ∧ c.toNat ≤ 122)
      omega
    simp [isAsciiWord, Char.isAlphanum, alpha]

/-- A boundary does not start with a given word character. -/
theorem Token.IsBoundary.ne_of_isWord {cs : List Char} (h : IsBoundary cs) {d : Char}
    (word : isWord d = true) : ∀ c ∈ cs.head?, c ≠ d :=
  fun c mem => (Text.ne_of_isWord word (h c mem).1).symm

/-! ## Numbers before a boundary -/

namespace Number

open Token (IsBoundary)

variable {cs rest : List Char}

theorem takeDigits_append (h : IsBoundary rest) (cs : List Char) :
    takeDigits (cs ++ rest) = takeDigits cs :=
  takeWhile_append_of_stop h.isDigit_eq_false cs

theorem dropDigits_append (h : IsBoundary rest) (cs : List Char) :
    dropDigits (cs ++ rest) = dropDigits cs ++ rest :=
  dropWhile_append_of_stop h.isDigit_eq_false cs

/-- The mantissa of a number ends before every boundary. -/
theorem mantissaLength_append (h : IsBoundary rest) (cs : List Char) :
    mantissaLength (cs ++ rest) = mantissaLength cs := by
  unfold mantissaLength
  rw [takeDigits_append h, dropDigits_append h]
  cases left : dropDigits cs with
  | nil =>
      cases rest with
      | nil => rfl
      | cons c rest =>
          have point : c ≠ '.' := (h c rfl).2
          simp [point]
  | cons c more =>
      by_cases point : c = '.'
      · subst point
        simp [takeDigits_append h]
      · simp [point]

/-- An exponent ends at the end of a text exactly if it does so before a boundary. -/
theorem exponentLength_append_eq_length_iff (h : IsBoundary rest) (cs : List Char) :
    exponentLength (cs ++ rest) = cs.length ↔ exponentLength cs = cs.length := by
  match cs with
  | [] =>
      rw [List.nil_append, exponentLength_of_isBoundary h]
      rfl
  | [mark] =>
      -- behind a mark alone a sign and digits may follow, but these lie beyond the text
      have alone : exponentLength [mark] = 0 := by simp [exponentLength]
      have beyond : exponentLength (mark :: rest) ≠ 1 := by
        unfold exponentLength
        repeat' split
        all_goals simp_all
      simpa [alone] using beyond
  | mark :: sign :: digits =>
      have same := takeDigits_append h (sign :: digits)
      rw [List.cons_append] at same
      simp only [List.cons_append, exponentLength, takeDigits_append h, same]

theorem mantissaLength_le_length (cs : List Char) : mantissaLength cs ≤ cs.length := by
  have parts : (takeDigits cs).length + (dropDigits cs).length = cs.length := by
    rw [← List.length_append, takeDigits, dropDigits, List.takeWhile_append_dropWhile]
  simp only [mantissaLength]
  split
  · rename_i more left
    have : (takeDigits more).length ≤ more.length := (List.takeWhile_prefix _).length_le
    rw [left, List.length_cons] at parts
    split <;> omega
  · omega

theorem exponentLength_le_length (cs : List Char) : exponentLength cs ≤ cs.length := by
  match cs with
  | [] => exact Nat.le_refl 0
  | [mark] => simp [exponentLength]
  | mark :: sign :: digits =>
      have unsigned : (takeDigits (sign :: digits)).length ≤ digits.length + 1 :=
        (List.takeWhile_prefix _).length_le
      have signed : (takeDigits digits).length ≤ digits.length :=
        (List.takeWhile_prefix _).length_le
      simp only [exponentLength, List.length_cons]
      repeat' split
      all_goals omega

theorem numberLength_le_length (cs : List Char) : numberLength cs ≤ cs.length := by
  have mantissa := mantissaLength_le_length cs
  unfold numberLength
  split
  · exact Nat.zero_le _
  · rename_i n length
    have exponent := exponentLength_le_length (cs.drop (n + 1))
    rw [List.length_drop] at exponent
    omega

theorem numberLength_eq_zero_iff (cs : List Char) :
    numberLength cs = 0 ↔ mantissaLength cs = 0 := by
  unfold numberLength
  split <;> omega

/-- **A number ends at the end of a text exactly if it does so before a boundary.** -/
theorem numberLength_append_eq_length_iff (h : IsBoundary rest) (cs : List Char) :
    numberLength (cs ++ rest) = cs.length ↔ numberLength cs = cs.length := by
  have within := mantissaLength_le_length cs
  unfold numberLength
  rw [mantissaLength_append h]
  cases mantissa : mantissaLength cs with
  | zero => simp
  | succ n =>
      rw [mantissa] at within
      have exponent := exponentLength_append_eq_length_iff h (cs.drop (n + 1))
      rw [List.length_drop] at exponent
      simp only [List.drop_append_of_le_length within]
      omega

/-! ### Numbers do not look ahead -/

theorem mantissaLength_of_point {cs more : List Char} (h : dropDigits cs = '.' :: more) :
    mantissaLength cs = if (takeDigits cs).length = 0 ∧ (takeDigits more).length = 0 then 0
      else (takeDigits cs).length + 1 + (takeDigits more).length := by
  simp only [mantissaLength, h]

theorem mantissaLength_of_no_point {cs : List Char} (h : (dropDigits cs).head? ≠ some '.') :
    mantissaLength cs = (takeDigits cs).length := by
  simp only [mantissaLength]
  split
  · rename_i more point
    simp [point] at h
  · rfl

theorem length_takeDigits_le_mantissaLength (cs : List Char) :
    (takeDigits cs).length ≤ mantissaLength cs := by
  simp only [mantissaLength]
  split
  · split <;> omega
  · exact Nat.le_refl _

/-- A mantissa ends with a digit or with its point, and the digit that it needs
is within it. -/
theorem isLocal_mantissaLength : IsLocal mantissaLength := by
  intro cs k within
  have whole := Nat.le_trans (length_takeDigits_le_mantissaLength cs) within
  have taken : takeDigits (cs.take k) = takeDigits cs := takeWhile_take whole
  have left : dropDigits (cs.take k) = (dropDigits cs).take (k - (takeDigits cs).length) :=
    dropWhile_take whole
  by_cases point : (dropDigits cs).head? = some '.'
  · obtain ⟨more, split⟩ := List.head?_eq_some_iff.mp point
    rw [mantissaLength_of_point split] at within ⊢
    rw [split] at left
    cases room : k - (takeDigits cs).length with
    | zero =>
        -- no room for the point, so it belongs to no number
        rw [room, List.take_zero] at left
        rw [mantissaLength_of_no_point (by simp [left]), taken]
        split at within
        · rename_i empty
          rw [if_pos empty]
          exact empty.1
        · omega
    | succ m =>
        rw [room, List.take_succ_cons] at left
        have part : takeDigits (more.take m) = takeDigits more :=
          takeWhile_take (by rw [← takeDigits]; split at within <;> omega)
        rw [mantissaLength_of_point left, taken, part]
  · have other : (dropDigits (cs.take k)).head? ≠ some '.' := by
      rw [left, List.head?_take]
      split
      · simp
      · exact point
    rw [mantissaLength_of_no_point other, mantissaLength_of_no_point point, taken]

/-- The sign and the first digit of an exponent are within it. -/
theorem isLocal_exponentLength : IsLocal exponentLength := by
  intro cs k within
  match cs, k with
  | [], k => rw [List.take_nil]
  | mark :: rest, 0 => exact (Nat.le_zero.mp within).symm
  | [mark], k + 1 => rw [List.take_succ_cons, List.take_nil]
  | mark :: sign :: digits, 1 =>
      -- an exponent is no single character, so there is none
      have alone : exponentLength [mark] = 0 := by simp [exponentLength]
      rw [List.take_succ_cons, List.take_zero, alone]
      simp only [exponentLength] at within ⊢
      repeat' split at within
      all_goals simp_all
  | mark :: sign :: digits, k + 2 =>
      have signed : (takeDigits digits).length ≤ k →
          takeDigits (digits.take k) = takeDigits digits := takeWhile_take
      have unsigned : (takeDigits (sign :: digits)).length ≤ k + 1 →
          takeDigits (sign :: digits.take k) = takeDigits (sign :: digits) :=
        takeWhile_take
      simp only [List.take_succ_cons, exponentLength] at within ⊢
      repeat' split at within
      all_goals simp_all

theorem isLocal_numberLength : IsLocal numberLength := by
  intro cs k within
  have mantissa : mantissaLength cs ≤ k := by
    refine Nat.le_trans ?_ within
    unfold numberLength
    split <;> omega
  have same := isLocal_mantissaLength cs k mantissa
  unfold numberLength at within ⊢
  rw [same]
  split at within
  · rfl
  · rename_i n length
    rw [List.drop_take, isLocal_exponentLength _ _ (by omega)]

/-- Where no number starts. -/
theorem numberLength_cons_eq_zero_iff {c : Char} :
    numberLength (c :: cs) = 0 ↔
      isDigit c = false ∧ (c == '.' && cs.head?.any isDigit) = false := by
  rw [numberLength_eq_zero_iff]
  cases digit : isDigit c with
  | true =>
      have one : 1 ≤ (takeDigits (c :: cs)).length := by simp [takeDigits, digit]
      have mantissa := length_takeDigits_le_mantissaLength (c :: cs)
      exact iff_of_false (by omega) (by simp)
  | false =>
      have whole : takeDigits (c :: cs) = [] := by simp [takeDigits, digit]
      have left : dropDigits (c :: cs) = c :: cs := by simp [dropDigits, digit]
      by_cases point : c = '.'
      · subst point
        rw [mantissaLength_of_point left, whole]
        cases cs with
        | nil => simp [takeDigits]
        | cons d cs => cases more : isDigit d <;> simp [takeDigits, more]
      · rw [mantissaLength_of_no_point (by simp [left, point]), whole]
        simp [point]

/-- A number starts with a digit or with a point. -/
theorem isDigit_or_eq_of_numberLength_ne_zero {c : Char} (h : numberLength (c :: cs) ≠ 0) :
    isDigit c = true ∨ c = '.' := by
  by_contra other
  rw [not_or, Bool.not_eq_true] at other
  exact h (numberLength_cons_eq_zero_iff.mpr ⟨other.1, by simp [other.2]⟩)

/-! ### The characters of a number -/

theorem isDigit_of_mem_takeDigits {c : Char} (mem : c ∈ takeDigits cs) : isDigit c = true :=
  List.mem_takeWhile_imp mem

theorem takeDigits_append_dropDigits (cs : List Char) : takeDigits cs ++ dropDigits cs = cs :=
  List.takeWhile_append_dropWhile

theorem isDigit_or_eq_of_mem_take_mantissaLength {c : Char}
    (mem : c ∈ cs.take (mantissaLength cs)) : isDigit c = true ∨ c = '.' := by
  have digit : c ∈ takeDigits cs → isDigit c = true := isDigit_of_mem_takeDigits
  have parts := takeDigits_append_dropDigits cs
  simp only [mantissaLength] at mem
  split at mem
  · rename_i more left
    have digit' : c ∈ takeDigits more → isDigit c = true := isDigit_of_mem_takeDigits
    have parts' := takeDigits_append_dropDigits more
    rw [left] at parts
    -- the digits before the point and those behind it, with the text put together from them
    generalize takeDigits cs = whole at mem parts digit
    generalize takeDigits more = part at mem parts' digit'
    split at mem
    · simp at mem
    · rw [← parts, ← parts', Nat.add_assoc, List.take_length_add_append, Nat.add_comm 1,
        List.take_succ_cons, List.take_left] at mem
      rcases List.mem_append.mp mem with mem | mem
      · exact Or.inl (digit mem)
      · rcases List.mem_cons.mp mem with point | mem
        · exact Or.inr point
        · exact Or.inl (digit' mem)
  · generalize takeDigits cs = whole at mem parts digit
    rw [← parts, List.take_left] at mem
    exact Or.inl (digit mem)

theorem isDigit_of_mem_take {c : Char} {n : Nat} (length : (takeDigits cs).length = n + 1)
    (mem : c ∈ cs.take (n + 1)) : isDigit c = true := by
  have digits : takeDigits cs = cs.take (takeDigits cs).length :=
    List.prefix_iff_eq_take.mp (List.takeWhile_prefix _)
  rw [← length, ← digits] at mem
  exact isDigit_of_mem_takeDigits mem

theorem isDigit_or_eq_of_mem_take_exponentLength {c : Char}
    (mem : c ∈ cs.take (exponentLength cs)) :
    isDigit c = true ∨ c = 'e' ∨ c = 'E' ∨ c = '+' ∨ c = '-' := by
  match cs with
  | [] => simp at mem
  | [mark] => simp [exponentLength] at mem
  | mark :: sign :: digits =>
      simp only [exponentLength] at mem
      split at mem
      · rename_i letter
        simp only [Bool.or_eq_true, beq_iff_eq] at letter
        split at mem
        · rename_i plusMinus
          simp only [Bool.or_eq_true, beq_iff_eq] at plusMinus
          split at mem
          · simp at mem
          · rename_i n length
            simp only [List.take_succ_cons, List.mem_cons] at mem
            rcases mem with rfl | rfl | mem
            · tauto
            · tauto
            · exact Or.inl (isDigit_of_mem_take length mem)
        · split at mem
          · simp at mem
          · rename_i n length
            rw [List.take_succ_cons, List.mem_cons] at mem
            rcases mem with rfl | mem
            · tauto
            · exact Or.inl (isDigit_of_mem_take length mem)
      · simp at mem

/-- The characters that a number is written with. -/
theorem isDigit_or_mem_of_numberLength_eq (length : numberLength cs = cs.length) {c : Char}
    (mem : c ∈ cs) : isDigit c = true ∨ c ∈ ['.', 'e', 'E', '+', '-'] := by
  unfold numberLength at length
  split at length
  · simp [List.length_eq_zero_iff.mp length.symm] at mem
  · rename_i n mantissa
    rw [← List.take_append_drop (n + 1) cs] at mem
    rcases List.mem_append.mp mem with mem | mem
    · rw [← Nat.succ_eq_add_one, ← mantissa] at mem
      have := isDigit_or_eq_of_mem_take_mantissaLength mem
      simp only [List.mem_cons]
      tauto
    · have whole : exponentLength (cs.drop (n + 1)) = (cs.drop (n + 1)).length := by
        rw [List.length_drop]
        omega
      rw [← List.take_length (l := cs.drop (n + 1)), ← whole] at mem
      have := isDigit_or_eq_of_mem_take_exponentLength mem
      simp only [List.mem_cons]
      tauto

/-- Among the characters of a number there is no blank. -/
theorem isSpace_eq_false_of_numberLength_eq (length : numberLength cs = cs.length) {c : Char}
    (mem : c ∈ cs) : isSpace c = false := by
  rcases isDigit_or_mem_of_numberLength_eq length mem with digit | other
  · exact isSpace_eq_false_of_isWord (isWord_of_isDigit digit)
  · simp only [List.mem_cons, List.not_mem_nil, or_false] at other
    rcases other with rfl | rfl | rfl | rfl | rfl <;> decide

end Number

/-! ## Operands -/

namespace TokenContent

/-- Literals and names, as opposed to operators and parentheses. -/
def isOperand : TokenContent → Bool
  | .int _ | .float _ | .name _ => true
  | _ => false

theorem isOperand_of_ofOperator? {c : Char} {content : TokenContent}
    (h : ofOperator? c = some content) : content.isOperand = false ∧ content ≠ .endMark := by
  unfold ofOperator? at h
  split at h <;> cases h <;> decide

end TokenContent

namespace Lexeme

open Token (IsBoundary)

variable {text rest : List Char} {content : TokenContent}

theorem isOperand_ofNumber (value : Number) : (ofNumber value).isOperand = true := by
  cases value <;> rfl

/-! ## Hexadecimal numbers and names before a boundary -/

/-- A hexadecimal number ends before every boundary. -/
theorem hexLength_append (h : IsBoundary rest) (cs : List Char) :
    hexLength (cs ++ rest) = hexLength cs := by
  have mark : ∀ d ∈ rest.head?, d ≠ 'x' ∧ d ≠ 'X' := fun d mem =>
    ⟨h.ne_of_isWord (by decide) d mem, h.ne_of_isWord (by decide) d mem⟩
  match cs with
  | [] =>
      cases rest with
      | nil => rfl
      | cons c rest => exact hexLength_eq_zero (Or.inl (h.ne_of_isWord (by decide) c rfl))
  | [c] =>
      rw [List.singleton_append, hexLength_eq_zero (Or.inr mark), hexLength_eq_zero (by simp)]
  | c :: d :: cs =>
      by_cases zero : c = '0'
      · subst zero
        simp only [List.cons_append, hexLength,
          takeWhile_append_of_stop (h.eq_false fun _ => isWord_of_isHexDigit)]
      · rw [List.cons_append, hexLength_eq_zero (Or.inl zero),
          hexLength_eq_zero (Or.inl zero)]

/-- A name ends before every boundary. -/
theorem nameLength_append (h : IsBoundary rest) (cs : List Char) :
    nameLength (cs ++ rest) = nameLength cs := by
  cases cs with
  | nil =>
      cases rest with
      | nil => rfl
      | cons c rest =>
          have start : ¬ isNameStart c = true := fun start => by
            have word := isWord_of_isNameStart start
            rw [(h c rfl).1] at word
            cases word
          simp [nameLength, start]
  | cons c cs =>
      rw [List.cons_append, nameLength, nameLength,
        takeWhile_append_of_stop fun c mem => (h c mem).1]

/-- The mark of a hexadecimal number and its first digit are within it. -/
theorem isLocal_hexLength : IsLocal hexLength := by
  intro cs k within
  match cs, k with
  | [], k => rw [List.take_nil]
  | c :: rest, 0 => exact (Nat.le_zero.mp within).symm
  | [c], k + 1 => rw [List.take_succ_cons, List.take_nil]
  | c :: mark :: digits, 1 =>
      rw [List.take_succ_cons, List.take_zero, hexLength_eq_zero (by simp)]
      unfold hexLength at within ⊢
      repeat' split at within
      all_goals simp_all
  | c :: mark :: digits, k + 2 =>
      by_cases zero : c = '0'
      · subst zero
        have same : (digits.takeWhile isHexDigit).length ≤ k →
            (digits.take k).takeWhile isHexDigit = digits.takeWhile isHexDigit :=
              takeWhile_take
        simp only [List.take_succ_cons, hexLength] at within ⊢
        split at within
        · rename_i letter
          rw [if_pos letter, if_pos letter, same (by split at within <;> omega)]
        · rename_i letter
          rw [if_neg letter, if_neg letter]
      · rw [List.take_succ_cons, hexLength_eq_zero (.inl zero), hexLength_eq_zero (.inl zero)]

theorem isLocal_nameLength : IsLocal nameLength := by
  intro cs k within
  match cs, k with
  | [], k => rw [List.take_nil]
  | c :: rest, 0 => exact (Nat.le_zero.mp within).symm
  | c :: rest, k + 1 =>
      rw [List.take_succ_cons, nameLength, nameLength]
      rw [nameLength] at within
      split at within
      · rw [takeWhile_take (by omega)]
      · rename_i start
        rw [if_neg start, if_neg start]

/-! ### Lengths and characters -/

theorem hexLength_le_length (cs : List Char) : hexLength cs ≤ cs.length := by
  unfold hexLength
  split
  · rename_i mark digits
    have within : (digits.takeWhile isHexDigit).length ≤ digits.length :=
      (List.takeWhile_prefix _).length_le
    simp only [List.length_cons]
    split
    · split <;> omega
    · omega
  · exact Nat.zero_le _

theorem nameLength_le_length (cs : List Char) : nameLength cs ≤ cs.length := by
  cases cs with
  | nil => exact Nat.le_refl 0
  | cons c cs =>
      have within : (cs.takeWhile isWord).length ≤ cs.length :=
        (List.takeWhile_prefix _).length_le
      rw [nameLength, List.length_cons]
      split <;> omega

/-- The texts that are names as a whole. -/
theorem nameLength_eq_length_iff {c : Char} {cs : List Char} :
    nameLength (c :: cs) = (c :: cs).length ↔ isName (c :: cs) = true := by
  have whole : (cs.takeWhile isWord).length = cs.length ↔ cs.all isWord = true := by
    rw [List.all_eq_true, ← List.takeWhile_eq_self_iff]
    exact ⟨(List.takeWhile_prefix _).eq_of_length, fun same => by rw [same]⟩
  rw [nameLength, isName, List.length_cons, Bool.and_eq_true, ← whole]
  split <;> simp_all [Nat.add_comm 1]

/-- The texts that are hexadecimal numbers as a whole. -/
theorem eq_of_hexLength_eq_length {cs : List Char} (nonempty : cs ≠ [])
    (length : hexLength cs = cs.length) :
    ∃ mark digits, cs = '0' :: mark :: digits ∧ (mark = 'x' ∨ mark = 'X') ∧
      ∀ d ∈ digits, isHexDigit d = true := by
  unfold hexLength at length
  split at length
  · rename_i mark digits
    split at length
    · rename_i letter
      refine ⟨mark, digits, rfl, by simpa using letter, ?_⟩
      have within : (digits.takeWhile isHexDigit).length = digits.length := by
        simp only [List.length_cons] at length
        split at length <;> omega
      exact List.takeWhile_eq_self_iff.mp ((List.takeWhile_prefix _).eq_of_length within)
    · cases length
  · exact absurd (List.length_eq_zero_iff.mp length.symm) nonempty

theorem isWord_of_hexLength_eq_length {cs : List Char} (length : hexLength cs = cs.length)
    {c : Char} (mem : c ∈ cs) : isWord c = true := by
  obtain ⟨mark, digits, rfl, letter, all⟩ :=
    eq_of_hexLength_eq_length (List.ne_nil_of_mem mem) length
  rcases List.mem_cons.mp mem with rfl | mem
  · decide
  · rcases List.mem_cons.mp mem with rfl | mem
    · rcases letter with rfl | rfl <;> decide
    · exact isWord_of_isHexDigit (all c mem)

theorem isWord_of_isName {cs : List Char} (name : isName cs = true) {c : Char}
    (mem : c ∈ cs) : isWord c = true := by
  cases cs with
  | nil => cases name
  | cons first cs =>
      simp only [isName, Bool.and_eq_true, List.all_eq_true] at name
      rcases List.mem_cons.mp mem with rfl | mem
      · exact isWord_of_isNameStart name.1
      · exact name.2 c mem

/-! ## Whole lexemes -/

/-- A text that is one literal or one name, with its content. -/
inductive Spells : List Char → TokenContent → Prop where
  | hex {text : List Char} :
      text ≠ [] → hexLength text = text.length → Spells text (.int (hexNumber text))
  | number {text : List Char} {value : Number} :
      text ≠ [] → hexLength text = 0 → Number.numberLength text = text.length →
      Number.readUnsigned false text = .ok value → Spells text (ofNumber value)
  | name {text : List Char} : isName text = true → Spells text (.name (String.ofList text))

/-- The operand at the start of a text: a hexadecimal number, else a decimal
number, else a name. -/
theorem at?_eq_some_iff {c : Char} {cs : List Char} {extra : Nat}
    (operator : TokenContent.ofOperator? c = none) :
    at? (c :: cs) = .ok (some ⟨content, extra⟩) ↔
      (hexLength (c :: cs) = extra + 1 ∧
        content = .int (hexNumber ((c :: cs).take (extra + 1)))) ∨
      (hexLength (c :: cs) = 0 ∧ Number.numberLength (c :: cs) = extra + 1 ∧
        ∃ value, Number.readUnsigned false ((c :: cs).take (extra + 1)) = .ok value ∧
          content = ofNumber value) ∨
      (hexLength (c :: cs) = 0 ∧ Number.numberLength (c :: cs) = 0 ∧
        nameLength (c :: cs) = extra + 1 ∧
        content = .name (String.ofList ((c :: cs).take (extra + 1)))) := by
  simp only [at?, List.head?_cons, Option.bind_some, operator]
  cases hex : hexLength (c :: cs) with
  | succ n =>
      simp only [Except.ok.injEq, Option.some.injEq, Lexeme.mk.injEq]
      grind
  | zero =>
      cases number : Number.numberLength (c :: cs) with
      | succ n =>
          cases read : Number.readUnsigned false ((c :: cs).take (n + 1)) with
          | error fault =>
              simp only [bind, Except.bind]
              grind
          | ok value =>
              simp only [bind, Except.bind, pure, Except.pure]
              grind
      | zero =>
          cases name : nameLength (c :: cs) with
          | succ n =>
              simp only [Except.ok.injEq, Option.some.injEq, Lexeme.mk.injEq]
              grind
          | zero => simp

theorem at?_eq_none_iff {c : Char} {cs : List Char} :
    at? (c :: cs) = .ok none ↔ TokenContent.ofOperator? c = none ∧ hexLength (c :: cs) = 0 ∧
      Number.numberLength (c :: cs) = 0 ∧ nameLength (c :: cs) = 0 := by
  cases operator : TokenContent.ofOperator? c with
  | some found => simp [at?, operator]
  | none =>
      simp only [at?, List.head?_cons, Option.bind_some, operator, true_and]
      cases hexLength (c :: cs) with
      | succ n => simp
      | zero =>
          cases Number.numberLength (c :: cs) with
          | succ n =>
              simp only [bind, Except.bind, pure, Except.pure]
              split <;> simp
          | zero => cases nameLength (c :: cs) <;> simp

/-- **The token at the start of a text**: an operator, which is one character, or else an
operand, which ends within the text. -/
theorem at?_cases {c : Char} {cs : List Char} {extra : Nat}
    (h : at? (c :: cs) = .ok (some ⟨content, extra⟩)) :
    (TokenContent.ofOperator? c = some content ∧ extra = 0) ∨
      (TokenContent.ofOperator? c = none ∧ content.isOperand = true ∧ extra ≤ cs.length) := by
  cases operator : TokenContent.ofOperator? c with
  | some found =>
      simp only [at?, List.head?_cons, Option.bind_some, operator] at h
      cases h
      exact Or.inl ⟨rfl, rfl⟩
  | none =>
      have hex := hexLength_le_length (c :: cs)
      have number := Number.numberLength_le_length (c :: cs)
      have name := nameLength_le_length (c :: cs)
      rw [List.length_cons] at hex number name
      rcases (at?_eq_some_iff operator).mp h with
        ⟨length, rfl⟩ | ⟨-, length, value, -, rfl⟩ | ⟨-, -, length, rfl⟩
      · exact Or.inr ⟨rfl, rfl, by omega⟩
      · exact Or.inr ⟨rfl, isOperand_ofNumber value, by omega⟩
      · exact Or.inr ⟨rfl, rfl, by omega⟩

/-- **A token stays the same if the text ends behind it**, or later. -/
theorem at?_take {c : Char} {cs : List Char} {extra k : Nat}
    (h : at? (c :: cs) = .ok (some ⟨content, extra⟩)) (within : extra ≤ k) :
    at? (c :: cs.take k) = .ok (some ⟨content, extra⟩) := by
  have hex := isLocal_hexLength (c :: cs) (k + 1)
  have number := Number.isLocal_numberLength (c :: cs) (k + 1)
  have name := isLocal_nameLength (c :: cs) (k + 1)
  have taken : (c :: cs.take k).take (extra + 1) = (c :: cs).take (extra + 1) := by
    rw [← List.take_succ_cons, List.take_take, Nat.min_eq_left (Nat.succ_le_succ within)]
  rw [List.take_succ_cons] at hex number name
  cases operator : TokenContent.ofOperator? c with
  | some found =>
      simp only [at?, List.head?_cons, Option.bind_some, operator] at h ⊢
      exact h
  | none =>
      rw [at?_eq_some_iff operator] at h ⊢
      rw [taken]
      rcases h with ⟨length, same⟩ | ⟨zero, length, same⟩ | ⟨zero, zero', length, same⟩
      · exact .inl ⟨by rw [hex (by omega), length], same⟩
      · exact .inr (.inl ⟨by rw [hex (by omega), zero], by rw [number (by omega), length],
          same⟩)
      · exact .inr (.inr ⟨by rw [hex (by omega), zero], by rw [number (by omega), zero'],
          by rw [name (by omega), length], same⟩)

/-- No hexadecimal number is written like a decimal one. -/
theorem hexLength_eq_zero_of_numberLength_eq {cs : List Char}
    (length : Number.numberLength cs = cs.length) : hexLength cs = 0 := by
  cases cs with
  | nil => rfl
  | cons c cs =>
      refine hexLength_eq_zero (Or.inr fun d mem => ?_)
      have mem : d ∈ c :: cs := List.mem_cons_of_mem c (List.mem_of_mem_head? mem)
      constructor <;> rintro rfl <;>
        exact absurd (Number.isDigit_or_mem_of_numberLength_eq length mem) (by decide)

/-- No operator starts a number. -/
theorem ofOperator?_of_numberLength_ne_zero {c : Char} {cs : List Char}
    (h : Number.numberLength (c :: cs) ≠ 0) : TokenContent.ofOperator? c = none := by
  rcases Number.isDigit_or_eq_of_numberLength_ne_zero h with digit | rfl
  · exact TokenContent.ofOperator?_of_isWord (isWord_of_isDigit digit)
  · rfl

/-- A number is cut off and read. -/
theorem at?_number {c : Char} {cs rest : List Char}
    (length : Number.numberLength (c :: (cs ++ rest)) = (c :: cs).length)
    (hex : hexLength (c :: (cs ++ rest)) = 0) :
    at? (c :: (cs ++ rest)) = (Number.readUnsigned false (c :: cs)).map fun value =>
      some ⟨ofNumber value, cs.length⟩ := by
  have nonzero : Number.numberLength (c :: (cs ++ rest)) ≠ 0 := by simp [length]
  have operator := ofOperator?_of_numberLength_ne_zero nonzero
  have taken : (c :: (cs ++ rest)).take (cs.length + 1) = c :: cs := by simp
  rw [List.length_cons] at length
  simp only [at?, List.head?_cons, Option.bind_some, operator, hex, length, taken]
  cases Number.readUnsigned false (c :: cs) <;> rfl

namespace Spells

theorem ne_nil (h : Spells text content) : text ≠ [] := by
  cases h with
  | hex nonempty _ => exact nonempty
  | number nonempty _ _ _ => exact nonempty
  | name name =>
      rintro rfl
      cases name

theorem isOperand (h : Spells text content) :
    content.isOperand = true := by
  cases h with
  | hex _ _ => rfl
  | number _ _ _ _ => exact isOperand_ofNumber _
  | name _ => rfl

/-- No blank stands in a literal or in a name. -/
theorem isSpace_eq_false (h : Spells text content) :
    ∀ c ∈ text, isSpace c = false := by
  intro c mem
  cases h with
  | hex nonempty length =>
      exact isSpace_eq_false_of_isWord (isWord_of_hexLength_eq_length length mem)
  | number _ _ length _ => exact Number.isSpace_eq_false_of_numberLength_eq length mem
  | name name => exact isSpace_eq_false_of_isWord (isWord_of_isName name mem)

/-- No operator starts a literal or a name. -/
theorem ofOperator?_head {c : Char} {cs : List Char}
    (h : Spells (c :: cs) content) : TokenContent.ofOperator? c = none := by
  generalize split : c :: cs = text at h
  cases h with
  | hex nonempty length =>
      refine TokenContent.ofOperator?_of_isWord (isWord_of_hexLength_eq_length length ?_)
      rw [← split]
      exact List.mem_cons_self
  | number _ _ length _ =>
      subst split
      have nonzero : Number.numberLength (c :: cs) ≠ 0 := by simp [length]
      exact ofOperator?_of_numberLength_ne_zero nonzero
  | name name =>
      refine TokenContent.ofOperator?_of_isWord (isWord_of_isName name ?_)
      rw [← split]
      exact List.mem_cons_self

/-- **A literal or a name is cut off before every boundary.** -/
theorem at?_append {c : Char} {cs : List Char}
    (h : Spells (c :: cs) content) (boundary : IsBoundary rest) :
    at? (c :: (cs ++ rest)) = .ok (some ⟨content, cs.length⟩) := by
  have operator := h.ofOperator?_head
  have hexLength := hexLength_append boundary (c :: cs)
  have numberLength := Number.numberLength_append_eq_length_iff boundary (c :: cs)
  have nameLength := nameLength_append boundary (c :: cs)
  have taken : (c :: (cs ++ rest)).take (cs.length + 1) = c :: cs := by simp
  rw [List.cons_append] at hexLength numberLength nameLength
  rw [at?_eq_some_iff operator, taken]
  generalize split : c :: cs = text at h
  cases h with
  | hex _ length =>
      subst split
      exact .inl ⟨hexLength.trans length, rfl⟩
  | number _ hex length read =>
      subst split
      exact .inr (.inl ⟨hexLength.trans hex, numberLength.mpr length, _, read, rfl⟩)
  | name name =>
      subst split
      have start : isNameStart c = true := by
        simp only [isName, Bool.and_eq_true] at name
        exact name.1
      -- names are tried last, so it has to be shown that no number starts here
      have hex : Lexeme.hexLength (c :: (cs ++ rest)) = 0 := by
        refine hexLength_eq_zero (Or.inl ?_)
        rintro rfl
        exact absurd start (by decide)
      exact .inr (.inr ⟨hex, Number.numberLength_of_isNameStart start _,
        nameLength.trans (nameLength_eq_length_iff.mpr name), rfl⟩)

/-- **What is cut off is a literal or a name of its own**, whatever follows it. -/
theorem of_at? {c : Char} {cs : List Char} (operator : TokenContent.ofOperator? c = none)
    (h : at? (c :: (cs ++ rest)) = .ok (some ⟨content, cs.length⟩)) :
    Spells (c :: cs) content := by
  have alone := at?_take h (Nat.le_refl _)
  rw [List.take_left, at?_eq_some_iff operator] at alone
  have whole : (c :: cs).take (cs.length + 1) = c :: cs := by simp
  rw [whole] at alone
  rcases alone with ⟨length, rfl⟩ | ⟨zero, length, value, read, rfl⟩ | ⟨-, -, length, rfl⟩
  · exact .hex (by simp) length
  · exact .number (by simp) zero length read
  · exact .name (nameLength_eq_length_iff.mp length)

/-- The digits of a natural number are a literal. -/
theorem decimalDigits {n : Nat} (short : Number.IsShort n) :
    Spells (Number.decimalDigits n) (.int n) := by
  have token := at?_decimalDigits short .nil
  have word : ∀ c ∈ Number.decimalDigits n, isWord c = true :=
    fun c => Number.isWord_of_mem_decimalDigits
  obtain ⟨c, cs, split⟩ := List.exists_cons_of_ne_nil (Number.decimalDigits_ne_nil n)
  rw [split] at token word ⊢
  exact .of_at? (TokenContent.ofOperator?_of_isWord (word c List.mem_cons_self)) token

end Spells

end Lexeme

/-- A literal or a name is one token. -/
theorem Token.Scans.operand {text : List Char} {content : TokenContent}
    (h : Lexeme.Spells text content) (offset : Nat) :
    Scans offset text [⟨content, offset, String.ofList text⟩] := by
  intro source rest tail boundary scanned
  obtain ⟨c, cs, rfl⟩ := List.exists_cons_of_ne_nil h.ne_nil
  have space := h.isSpace_eq_false c List.mem_cons_self
  have following : scanFrom source (offset + 1 + cs.length) rest = .ok tail := by
    rw [← scanned, List.length_cons, Nat.add_assoc, Nat.add_comm 1]
  exact scanFrom_of_at? space (h.at?_append boundary) following

end SketchScreen
