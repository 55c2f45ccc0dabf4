import SketchScreen.Proofs.Decimal
import SketchScreen.Token.Lexer

/-!
# Scanning Rows of Tokens

Which tokens a text is cut into depends on what follows it: digits go on as long as
they can, and so do names.  A text that is followed by a character which can continue
neither is cut on its own.

## Main Definitions

- `Token.IsBoundary`: a text that continues neither a number nor a name.
- `Token.Scans`: a text that is cut into given tokens, whatever follows after a boundary.

## Design Notes

`Scans` speaks about what follows a text rather than about the text alone, so it
composes: gaps, operators, numbers and names each have one lemma, and a phrase is
put together from these.
-/

namespace SketchScreen

open SketchScreen.Text

/-! ## Boundaries -/

/-- A text that continues neither a number nor a name. -/
def Token.IsBoundary (cs : List Char) : Prop :=
  ∀ c ∈ cs.head?, isWord c = false ∧ c ≠ '.'

namespace Token.IsBoundary

theorem nil : IsBoundary [] := by simp [IsBoundary]

theorem cons {c : Char} (word : isWord c = false) (point : c ≠ '.') (cs : List Char) :
    IsBoundary (c :: cs) := by
  simp [IsBoundary, word, point]

/-- A boundary does not start with a character of any kind of word characters. -/
theorem eq_false {cs : List Char} (h : IsBoundary cs) {p : Char → Bool}
    (words : ∀ c, p c = true → isWord c = true) : ∀ c ∈ cs.head?, p c = false := by
  intro c mem
  by_contra holds
  have word := words c (Bool.of_not_eq_false holds)
  rw [(h c mem).1] at word
  cases word

theorem isDigit_eq_false {cs : List Char} (h : IsBoundary cs) :
    ∀ c ∈ cs.head?, isDigit c = false :=
  h.eq_false fun _ => isWord_of_isDigit

/-- Blanks and then a boundary form a boundary. -/
theorem blank_append {gap cs : List Char} (blank : isBlank gap = true) (h : IsBoundary cs) :
    IsBoundary (gap ++ cs) := by
  cases gap with
  | nil => exact h
  | cons c gap =>
      simp only [isBlank, List.all_cons, Bool.and_eq_true] at blank
      refine cons (isWord_eq_false_of_isSpace blank.1) ?_ _
      rintro rfl
      exact absurd blank.1 (by decide)

end Token.IsBoundary

theorem Text.takeWhile_append_of_head? {p : Char → Bool} {cs rest : List Char}
    (all : ∀ c ∈ cs, p c = true) (stop : ∀ c ∈ rest.head?, p c = false) :
    (cs ++ rest).takeWhile p = cs := by
  rw [List.takeWhile_append_of_pos all]
  cases rest with
  | nil => simp
  | cons c rest => simp [stop c rfl]

theorem Text.dropWhile_append_of_head? {p : Char → Bool} {cs rest : List Char}
    (all : ∀ c ∈ cs, p c = true) (stop : ∀ c ∈ rest.head?, p c = false) :
    (cs ++ rest).dropWhile p = rest := by
  rw [List.dropWhile_append_of_pos all]
  cases rest with
  | nil => rfl
  | cons c rest => simp [stop c rfl]

/-! ## The token at the start of a text -/

/-- The characters of operators and parentheses. -/
theorem TokenContent.isWord_eq_false_of_ofOperator? {c : Char} {content : TokenContent}
    (h : ofOperator? c = some content) :
    isWord c = false ∧ isSpace c = false ∧ c ≠ '.' := by
  unfold ofOperator? at h
  split at h
  all_goals first | decide | cases h

theorem TokenContent.ofOperator?_of_isWord {c : Char} (h : isWord c = true) :
    ofOperator? c = none := by
  cases operator : ofOperator? c with
  | none => rfl
  | some content =>
      rw [(isWord_eq_false_of_ofOperator? operator).1] at h
      cases h

namespace Number

theorem exponentLength_of_isBoundary {cs : List Char} (h : Token.IsBoundary cs) :
    exponentLength cs = 0 := by
  cases cs with
  | nil => rfl
  | cons c cs =>
      have word : isWord c = false := (h c rfl).1
      have mark : (c == 'e' || c == 'E') = false := by
        by_contra mark
        simp only [Bool.not_eq_false, Bool.or_eq_true, beq_iff_eq] at mark
        rcases mark with rfl | rfl
        · exact absurd word (by decide)
        · exact absurd word (by decide)
      simp [exponentLength, mark]

/-- A row of digits is a number that ends where the digits do. -/
theorem numberLength_digits {digits rest : List Char} (nonempty : digits ≠ [])
    (all : ∀ c ∈ digits, isDigit c = true) (h : Token.IsBoundary rest) :
    numberLength (digits ++ rest) = digits.length := by
  have taken : takeDigits (digits ++ rest) = digits :=
    takeWhile_append_of_head? all h.isDigit_eq_false
  have left : dropDigits (digits ++ rest) = rest :=
    dropWhile_append_of_head? all h.isDigit_eq_false
  have mantissa : mantissaLength (digits ++ rest) = digits.length := by
    unfold mantissaLength
    simp only [taken, left]
    split
    · exact absurd rfl (h '.' rfl).2
    · rfl
  obtain ⟨n, length⟩ := Nat.exists_eq_succ_of_ne_zero
    (fun zero => nonempty (List.length_eq_zero_iff.mp zero))
  rw [numberLength, mantissa, length]
  show n + 1 + exponentLength ((digits ++ rest).drop (n + 1)) = n + 1
  rw [← Nat.succ_eq_add_one n, ← length, List.drop_left, exponentLength_of_isBoundary h]
  rfl

/-- No number starts with a character that a name starts with. -/
theorem numberLength_of_isNameStart {c : Char} (h : isNameStart c = true) (rest : List Char) :
    numberLength (c :: rest) = 0 := by
  have digit := isDigit_eq_false_of_isNameStart h
  have point : c ≠ '.' := by
    rintro rfl
    exact absurd h (by decide)
  have mantissa : mantissaLength (c :: rest) = 0 := by
    simp [mantissaLength, takeDigits, dropDigits, digit, point]
  rw [numberLength, mantissa]

end Number

namespace Lexeme

theorem hexLength_eq_zero {c : Char} {cs : List Char}
    (mark : c ≠ '0' ∨ ∀ d ∈ cs.head?, d ≠ 'x' ∧ d ≠ 'X') : hexLength (c :: cs) = 0 := by
  unfold hexLength
  split
  · rename_i next rest same
    cases same
    rcases mark with zero | letter
    · exact absurd rfl zero
    · have := letter next rfl
      simp [this.1, this.2]
  · rfl

/-- Decimal digits are cut off as one literal. -/
theorem at?_decimalDigits {n : Nat} (short : Number.IsShort n) {rest : List Char}
    (h : Token.IsBoundary rest) :
    at? (Number.decimalDigits n ++ rest)
      = .ok (some ⟨.int n, (Number.decimalDigits n).length - 1⟩) := by
  have all : ∀ c ∈ Number.decimalDigits n, isDigit c = true :=
    fun c mem => isDigit_of_isDigit (Number.isDigit_of_mem_decimalDigits mem)
  have length := Number.numberLength_digits (Number.decimalDigits_ne_nil n) all h
  have read := Number.readUnsigned_decimalDigits short
  obtain ⟨first, digits, split⟩ := List.exists_cons_of_ne_nil (Number.decimalDigits_ne_nil n)
  rw [split] at all length read ⊢
  have operator : TokenContent.ofOperator? first = none :=
    TokenContent.ofOperator?_of_isWord (isWord_of_isDigit (all first (by simp)))
  -- a zero may come first, but then a digit or a boundary follows it and not
  -- the mark of base 16
  have mark : ∀ d ∈ (digits ++ rest).head?, d ≠ 'x' ∧ d ≠ 'X' := by
    intro d mem
    have noLetter : isDigit d = true ∨ isWord d = false := by
      cases digits with
      | nil => exact Or.inr (h d mem).1
      | cons next digits =>
          cases mem
          exact Or.inl (all d (by simp))
    constructor <;> rintro rfl <;> rcases noLetter with digit | word
    · exact absurd digit (by decide)
    · exact absurd word (by decide)
    · exact absurd digit (by decide)
    · exact absurd word (by decide)
  have taken : (first :: digits ++ rest).take (digits.length + 1) = first :: digits := by
    simp
  unfold at?
  rw [List.cons_append] at length taken ⊢
  simp only [List.head?_cons, Option.bind_some, operator,
    hexLength_eq_zero (Or.inr mark), length, List.length_cons, taken, read]
  rfl

/-- A name is cut off as a whole. -/
theorem at?_name {name rest : List Char} (h : isName name = true)
    (hrest : Token.IsBoundary rest) :
    at? (name ++ rest) = .ok (some ⟨.name (String.ofList name), name.length - 1⟩) := by
  cases name with
  | nil => cases h
  | cons first name =>
      simp only [isName, Bool.and_eq_true, List.all_eq_true] at h
      obtain ⟨start, word⟩ := h
      have operator : TokenContent.ofOperator? first = none :=
        TokenContent.ofOperator?_of_isWord (isWord_of_isNameStart start)
      have zero : first ≠ '0' := by
        rintro rfl
        exact absurd start (by decide)
      have length : nameLength (first :: (name ++ rest)) = name.length + 1 := by
        rw [nameLength, if_pos start, takeWhile_append_of_head? word fun c mem =>
          (hrest c mem).1, Nat.add_comm]
      have taken : (first :: (name ++ rest)).take (name.length + 1) = first :: name := by
        simp
      unfold at?
      rw [List.cons_append]
      simp only [List.head?_cons, Option.bind_some, operator, hexLength_eq_zero (Or.inl zero),
        Number.numberLength_of_isNameStart start, length, taken]
      rfl

end Lexeme

/-! ## Rows of tokens -/

namespace Token

/-- A text that is cut into given tokens, whatever follows after a boundary. -/
def Scans (offset : Nat) (cs : List Char) (ts : List Token) : Prop :=
  ∀ source rest tail, IsBoundary rest → scanFrom source (offset + cs.length) rest = .ok tail →
    scanFrom source offset (cs ++ rest) = .ok (ts ++ tail)

/-- A token is cut off before the rest. -/
theorem scanFrom_of_at? {source : String} {offset : Nat} {c : Char} {cs rest : List Char}
    {content : TokenContent} {tail : List Token} (space : isSpace c = false)
    (token : Lexeme.at? (c :: (cs ++ rest)) = .ok (some ⟨content, cs.length⟩))
    (h : scanFrom source (offset + 1 + cs.length) rest = .ok tail) :
    scanFrom source offset (c :: (cs ++ rest))
      = .ok (⟨content, offset, String.ofList (c :: cs)⟩ :: tail) := by
  rw [scanFrom, if_neg (by simp [space]), token]
  simp only [Fault.liftNumber, Except.mapError, bind, Except.bind, List.drop_left, h,
    List.take_left]
  rfl

namespace Scans

/-- A gap leaves no token. -/
theorem blank_append {offset : Nat} {gap cs : List Char} {ts : List Token}
    (blank : isBlank gap = true) (h : Scans (offset + gap.length) cs ts) :
    Scans offset (gap ++ cs) ts := by
  induction gap generalizing offset with
  | nil => exact h
  | cons c gap ih =>
      simp only [isBlank, List.all_cons, Bool.and_eq_true] at blank
      intro source rest tail boundary scanned
      rw [List.cons_append, List.cons_append, scanFrom, if_pos blank.1]
      refine ih blank.2 ?_ source rest tail boundary ?_
      · rw [Nat.add_assoc, Nat.add_comm 1]
        exact h
      · rw [← scanned, List.cons_append, List.length_cons, Nat.add_assoc, Nat.add_comm 1]

/-- An operator or a parenthesis is a token of its own. -/
theorem operator_cons {offset : Nat} {c : Char} {content : TokenContent} {cs : List Char}
    {ts : List Token} (operator : TokenContent.ofOperator? c = some content)
    (h : Scans (offset + 1) cs ts) :
    Scans offset (c :: cs) (⟨content, offset, String.ofList [c]⟩ :: ts) := by
  intro source rest tail boundary scanned
  have space := (TokenContent.isWord_eq_false_of_ofOperator? operator).2.1
  have token : Lexeme.at? (c :: ([] ++ (cs ++ rest))) = .ok (some ⟨content, 0⟩) := by
    simp [Lexeme.at?, operator]
  refine scanFrom_of_at? space token ?_
  refine h source rest tail boundary ?_
  rw [← scanned, List.length_cons, Nat.add_assoc, Nat.add_comm 1]

/-- Nothing is cut into nothing. -/
theorem nil (offset : Nat) : Scans offset [] [] :=
  fun _ _ _ _ scanned => scanned

/-- A text that ends at a boundary is cut apart from what follows. -/
theorem append {offset : Nat} {cs ds : List Char} {ts us : List Token}
    (h : Scans offset cs ts) (h' : Scans (offset + cs.length) ds us)
    (boundary : ∀ rest, IsBoundary rest → IsBoundary (ds ++ rest)) :
    Scans offset (cs ++ ds) (ts ++ us) := by
  intro source rest tail hrest scanned
  rw [List.append_assoc, List.append_assoc]
  refine h source _ _ (boundary rest hrest) ?_
  refine h' source rest tail hrest ?_
  rw [← scanned, List.length_append, Nat.add_assoc]

/-- A literal is one token. -/
theorem decimalDigits {n : Nat} (short : Number.IsShort n) (offset : Nat) :
    Scans offset (Number.decimalDigits n)
      [⟨.int n, offset, String.ofList (Number.decimalDigits n)⟩] := by
  intro source rest tail boundary scanned
  have token := Lexeme.at?_decimalDigits short boundary
  have digit : ∀ c ∈ Number.decimalDigits n, isWord c = true :=
    fun c => Number.isWord_of_mem_decimalDigits
  obtain ⟨first, digits, split⟩ := List.exists_cons_of_ne_nil (Number.decimalDigits_ne_nil n)
  rw [split] at token digit scanned ⊢
  have following : scanFrom source (offset + 1 + digits.length) rest = .ok tail := by
    rw [← scanned, List.length_cons, Nat.add_assoc, Nat.add_comm 1]
  exact scanFrom_of_at? (isSpace_eq_false_of_isWord (digit first (by simp))) token following

/-- A name is one token. -/
theorem name {text : List Char} (h : isName text = true) (offset : Nat) :
    Scans offset text [⟨.name (String.ofList text), offset, String.ofList text⟩] := by
  intro source rest tail boundary scanned
  have token := Lexeme.at?_name h boundary
  cases text with
  | nil => cases h
  | cons first text =>
      simp only [isName, Bool.and_eq_true] at h
      have following : scanFrom source (offset + 1 + text.length) rest = .ok tail := by
        rw [← scanned, List.length_cons, Nat.add_assoc, Nat.add_comm 1]
      have space := isSpace_eq_false_of_isWord (isWord_of_isNameStart h.1)
      exact scanFrom_of_at? space token following

/-- A text that is cut into tokens is cut into these and an end mark. -/
theorem scan {cs : List Char} {ts : List Token} (h : Scans 0 cs ts) :
    Token.scan (String.ofList cs) = .ok (ts ++ [⟨.endMark, cs.length, ""⟩]) := by
  have closed := h (String.ofList cs) [] [⟨.endMark, cs.length, ""⟩] .nil
    (by rw [scanFrom, Nat.zero_add])
  rw [Token.scan, String.toList_ofList]
  rw [List.append_nil] at closed
  exact closed

end Scans

end Token

end SketchScreen
