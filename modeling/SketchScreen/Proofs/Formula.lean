import SketchScreen.Expr.Eval
import SketchScreen.Proofs.Grammar
import SketchScreen.Proofs.Scanning

/-!
# Formulas and their Texts

A formula is an arithmetic expression apart from any text: it knows no offsets, no blanks and
no parentheses.  A text that spells it, however it is spaced and with whatever parentheses,
has the value of the formula.

## Main Definitions

- `Identifier`, `Sign`, `Operator`, `Formula`: formulas and their parts.
- `Formula.value`: the value of a formula.
- `Formula.Spelled`: the texts that spell a formula, by the strata of the grammar.
- `Formula.write`: the text of a formula with the parentheses it needs and single blanks.

## Design Notes

`Spelled` is the grammar of expressions once more, on characters instead of tokens.  A text
that spells a formula is cut into tokens which the grammar derives (`Spelled.scans`), so what
is known of reading rows of tokens carries over to texts.
-/

namespace SketchScreen

open SketchScreen.Text

/-! ## Formulas -/

/-- A name that a variable may have. -/
structure Identifier where
  text : List Char
  isName : isName text = true
deriving DecidableEq

namespace Identifier

theorem exists_cons (x : Identifier) :
    ∃ c rest, x.text = c :: rest ∧ isNameStart c = true ∧ ∀ d ∈ rest, isWord d = true := by
  obtain ⟨text, name⟩ := x
  cases text with
  | nil => cases name
  | cons c rest =>
      simp only [Text.isName, Bool.and_eq_true, List.all_eq_true] at name
      exact ⟨c, rest, rfl, name⟩

theorem ne_nil (x : Identifier) : x.text ≠ [] := by
  obtain ⟨c, rest, split, -⟩ := x.exists_cons
  simp [split]

theorem isWord_of_mem (x : Identifier) {c : Char} (h : c ∈ x.text) : isWord c = true := by
  obtain ⟨first, rest, split, start, word⟩ := x.exists_cons
  rw [split] at h
  rcases List.mem_cons.mp h with rfl | h
  · exact isWord_of_isNameStart start
  · exact word c h

end Identifier

/-- The signs in front of operands. -/
inductive Sign where
  | plus
  | minus
deriving DecidableEq

/-- The operators between operands. -/
inductive Operator where
  | add
  | sub
  | mul
  | div
deriving DecidableEq

/-- A formula: a literal, a name, or an operation on formulas. -/
inductive Formula where
  /-- A whole number that is not too long to be read. -/
  | literal (n : Nat) (short : Number.IsShort n)
  | name (x : Identifier)
  | unary (sign : Sign) (operand : Formula)
  | binary (operator : Operator) (left right : Formula)
deriving DecidableEq

namespace Sign

/-- The character of a sign. -/
def char : Sign → Char
  | plus => '+'
  | minus => '-'

/-- The content of a sign's token. -/
def content : Sign → TokenContent
  | plus => .plus
  | minus => .minus

/-- A number under a sign. -/
def apply : Sign → Number → Number
  | plus, n => n
  | minus, n => n.neg

theorem ofOperator?_char (sign : Sign) :
    TokenContent.ofOperator? sign.char = some sign.content := by
  cases sign <;> rfl

theorem isAdditive (sign : Sign) {t : Token} (h : t.content = sign.content) :
    t.IsAdditive := by
  cases sign
  · exact Or.inl h
  · exact Or.inr h

end Sign

namespace Operator

/-- The character of an operator. -/
def char : Operator → Char
  | add => '+'
  | sub => '-'
  | mul => '*'
  | div => '/'

/-- The content of an operator's token. -/
def content : Operator → TokenContent
  | add => .plus
  | sub => .minus
  | mul => .star
  | div => .slash

/-- Two numbers under an operator. -/
def apply : Operator → Number → Number → Except NumberFault Number
  | add => Number.add
  | sub => Number.sub
  | mul => Number.mul
  | div => Number.divide

/-- The stratum of what an operator forms, and of its left operand. -/
def stratum : Operator → Stratum
  | add | sub => .sum
  | mul | div => .product

/-- The stratum of the right operand, which binds more tightly. -/
def rightStratum : Operator → Stratum
  | add | sub => .product
  | mul | div => .signed

/-- Whether what an operator forms needs no parentheses in a phrase of a stratum. -/
def fits : Operator → Stratum → Bool
  | _, .sum => true
  | mul, .product => true
  | div, .product => true
  | _, _ => false

theorem fits_sum (operator : Operator) : operator.fits .sum = true := by
  cases operator <;> rfl

theorem ofOperator?_char (operator : Operator) :
    TokenContent.ofOperator? operator.char = some operator.content := by
  cases operator <;> rfl

/-- The rule of the grammar for an operator. -/
theorem derives (operator : Operator) {left right : List Token} {t : Token} {a b : Expr}
    (h : t.content = operator.content) (hleft : Derives operator.stratum left a)
    (hright : Derives operator.rightStratum right b) :
    Derives operator.stratum (left ++ t :: right)
      (.binary (Token.leadPosition (left ++ t :: right)) operator.content.kind a b) := by
  have kind : t.kind = operator.content.kind := congrArg TokenContent.kind h
  rw [← kind]
  cases operator with
  | add => exact .sum hleft (Or.inl h) hright
  | sub => exact .sum hleft (Or.inr h) hright
  | mul => exact .product hleft (Or.inl h) hright
  | div => exact .product hleft (Or.inr h) hright

end Operator

namespace Formula

/-- The value of a formula.  A name without a value is reported as part of `source`. -/
def value (source : String) (lookup : Lookup) : Formula → Except Fault Number
  | literal n _ => .ok (.int n)
  | name x =>
    match lookup.value? (String.ofList x.text) with
    | some n => .ok n
    | none => .error (.evaluation source (some (.undefined (String.ofList x.text))))
  | unary sign operand => do
    let n ← value source lookup operand
    return sign.apply n
  | binary operator left right => do
    let m ← value source lookup left
    let n ← value source lookup right
    Fault.liftNumber (operator.apply m n)

/-! ## Formulas as trees -/

/-- A tree that is the formula, wherever its nodes stand. -/
def IsShapeOf : Formula → Expr → Prop
  | literal n _, .literal _ number => number = .int n
  | name x, .name _ text => text = String.ofList x.text
  | unary sign operand, .unary _ kind tree =>
      kind = sign.content.kind ∧ operand.IsShapeOf tree
  | binary operator left right, .binary _ kind a b =>
    kind = operator.content.kind ∧ left.IsShapeOf a ∧ right.IsShapeOf b
  | _, _ => False

/-- **A tree has the value of the formula that it is.** -/
theorem eval_eq_value {f : Formula} {tree : Expr} (h : f.IsShapeOf tree) (source : String)
    (lookup : Lookup) : tree.eval source lookup = f.value source lookup := by
  induction f generalizing tree with
  | literal n short =>
      cases tree with
      | literal position number =>
          change number = .int n at h
          rw [h]
          rfl
      | _ => cases h
  | name x =>
      cases tree with
      | name position text =>
          change text = String.ofList x.text at h
          rw [h]
          rfl
      | _ => cases h
  | unary sign operand ih =>
      cases tree with
      | unary position kind tree =>
          obtain ⟨rfl, shape⟩ := h
          rw [Expr.eval, ih shape, value]
          cases sign <;> rfl
      | _ => cases h
  | binary operator left right ihLeft ihRight =>
      cases tree with
      | binary position kind a b =>
          obtain ⟨rfl, shapeLeft, shapeRight⟩ := h
          rw [Expr.eval, ihLeft shapeLeft, ihRight shapeRight, value]
          cases operator <;> rfl
      | _ => cases h

/-! ## Texts that spell a formula -/

/-- The texts that spell a formula as a phrase of a stratum.  Blanks may stand between any two
of its tokens, and parentheses around any part of it. -/
inductive Spelled : Stratum → Formula → List Char → Prop where
  | literal {n : Nat} {short : Number.IsShort n} :
      Spelled .atom (.literal n short) (Number.decimalDigits n)
  | name {x : Identifier} : Spelled .atom (.name x) x.text
  | paren {f : Formula} {cs gap gap' : List Char} :
      Spelled .sum f cs → isBlank gap = true → isBlank gap' = true →
      Spelled .atom f ('(' :: (gap ++ (cs ++ (gap' ++ [')']))))
  | unary {sign : Sign} {f : Formula} {cs gap : List Char} :
      Spelled .signed f cs → isBlank gap = true →
      Spelled .signed (.unary sign f) (sign.char :: (gap ++ cs))
  | binary {operator : Operator} {left right : Formula} {cs ds gap gap' : List Char} :
      Spelled operator.stratum left cs → Spelled operator.rightStratum right ds →
      isBlank gap = true → isBlank gap' = true →
      Spelled operator.stratum (.binary operator left right)
        (cs ++ (gap ++ operator.char :: (gap' ++ ds)))
  | ofProduct {f : Formula} {cs : List Char} : Spelled .product f cs → Spelled .sum f cs
  | ofSigned {f : Formula} {cs : List Char} : Spelled .signed f cs → Spelled .product f cs
  | ofAtom {f : Formula} {cs : List Char} : Spelled .atom f cs → Spelled .signed f cs

namespace Spelled

/-- Operators and parentheses end what stands before them. -/
theorem isBoundary_operator {gap : List Char} {c : Char} {content : TokenContent}
    (blank : isBlank gap = true) (operator : TokenContent.ofOperator? c = some content)
    (cs : List Char) : Token.IsBoundary (gap ++ c :: cs) := by
  obtain ⟨word, -, point⟩ := TokenContent.isWord_eq_false_of_ofOperator? operator
  exact .blank_append blank (.cons word point cs)

/-- **A text that spells a formula is cut into tokens which the grammar derives**, with a
tree that is the formula. -/
theorem scans {s : Stratum} {f : Formula} {cs : List Char} (h : Spelled s f cs)
    (offset : Nat) :
    ∃ ts tree, Token.Scans offset cs ts ∧ Derives s ts tree ∧ f.IsShapeOf tree := by
  induction h generalizing offset with
  | @literal n short => exact ⟨_, _, .decimalDigits short offset, .int rfl, rfl⟩
  | @name x => exact ⟨_, _, .name x.isName offset, .name rfl, rfl⟩
  | @paren f cs gap gap' _ blank blank' ih =>
      obtain ⟨ts, tree, scanned, derives, shape⟩ := ih (offset + 1 + gap.length)
      have closing : Token.Scans (offset + 1 + gap.length + cs.length) (gap' ++ [')'])
          [⟨.rightParen, offset + 1 + gap.length + cs.length + gap'.length, ")"⟩] :=
        .blank_append blank' (.operator_cons rfl (.nil _))
      have operator : TokenContent.ofOperator? ')' = some .rightParen := rfl
      have body := scanned.append closing fun rest _ => by
        rw [List.append_assoc]
        exact isBoundary_operator blank' operator _
      exact ⟨_, tree, .operator_cons rfl (.blank_append blank body),
        .paren rfl derives rfl, shape⟩
  | @unary sign f cs gap _ blank ih =>
      obtain ⟨ts, tree, scanned, derives, shape⟩ := ih (offset + 1 + gap.length)
      exact ⟨_, _, .operator_cons sign.ofOperator?_char (.blank_append blank scanned),
        .sign (sign.isAdditive rfl) derives, rfl, shape⟩
  | @binary operator left right cs ds gap gap' _ _ blank blank' ihLeft ihRight =>
      obtain ⟨ts, a, scannedLeft, derivesLeft, shapeLeft⟩ := ihLeft offset
      obtain ⟨us, b, scannedRight, derivesRight, shapeRight⟩ :=
        ihRight (offset + cs.length + gap.length + 1 + gap'.length)
      have rest := Token.Scans.blank_append blank
        (.operator_cons operator.ofOperator?_char (.blank_append blank' scannedRight))
      -- the left operand may end with a number or a name, so the operator has
      -- to be its boundary
      have whole := scannedLeft.append rest fun rest _ => by
        rw [List.append_assoc]
        exact isBoundary_operator blank operator.ofOperator?_char _
      exact ⟨_, _, whole, operator.derives rfl derivesLeft derivesRight, rfl, shapeLeft,
        shapeRight⟩
  | ofProduct _ ih =>
      obtain ⟨ts, tree, scanned, derives, shape⟩ := ih offset
      exact ⟨ts, tree, scanned, .ofProduct derives, shape⟩
  | ofSigned _ ih =>
      obtain ⟨ts, tree, scanned, derives, shape⟩ := ih offset
      exact ⟨ts, tree, scanned, .ofSigned derives, shape⟩
  | ofAtom _ ih =>
      obtain ⟨ts, tree, scanned, derives, shape⟩ := ih offset
      exact ⟨ts, tree, scanned, .ofAtom derives, shape⟩

/-- A text that spells a formula is read as a tree that is the formula, with any
blanks around it. -/
theorem parse_blank_append {f : Formula} {cs gap gap' : List Char} (h : Spelled .sum f cs)
    (blank : isBlank gap = true) (blank' : isBlank gap' = true) :
    ∃ tree, Expr.parse (String.ofList (gap ++ (cs ++ gap'))) = .ok tree ∧
      f.IsShapeOf tree := by
  obtain ⟨ts, tree, scanned, derives, shape⟩ := h.scans (0 + gap.length)
  have behind : Token.Scans (0 + gap.length + cs.length) (gap' ++ []) [] :=
    .blank_append blank' (.nil _)
  rw [List.append_nil] at behind
  have whole := Token.Scans.blank_append blank
    (scanned.append behind fun rest boundary => .blank_append blank' boundary)
  rw [List.append_nil] at whole
  refine ⟨tree, ?_, shape⟩
  rw [Expr.parse, whole.scan]
  show (Expr.parseTokens _ _ >>= fun parsed => pure parsed.tree) = _
  rw [Expr.parseTokens_of_derives rfl derives]
  rfl

theorem parse {f : Formula} {cs : List Char} (h : Spelled .sum f cs) :
    ∃ tree, Expr.parse (String.ofList cs) = .ok tree ∧ f.IsShapeOf tree := by
  simpa using @parse_blank_append f cs [] [] h rfl rfl

/-- A text that spells a formula starts and ends with no blank. -/
theorem isTrimmed {s : Stratum} {f : Formula} {cs : List Char} (h : Spelled s f cs) :
    IsTrimmed cs := by
  have operator : ∀ {c content}, TokenContent.ofOperator? c = some content → IsTrimmed [c] :=
    fun h => .singleton (TokenContent.isWord_eq_false_of_ofOperator? h).2.1
  induction h with
  | @literal n short =>
      exact .of_isWord (Number.decimalDigits_ne_nil n) fun c =>
        Number.isWord_of_mem_decimalDigits
  | @name x => exact .of_isWord x.ne_nil fun c => x.isWord_of_mem
  | @paren f cs gap gap' =>
      have ends := IsTrimmed.append (operator (c := '(') rfl) (operator (c := ')') rfl)
        (gap ++ (cs ++ gap'))
      simpa using ends
  | @unary sign f cs gap _ _ ih => exact (operator sign.ofOperator?_char).append ih gap
  | @binary op left right cs ds gap gap' _ _ _ _ ihLeft ihRight =>
      have ends := ihLeft.append ihRight (gap ++ op.char :: gap')
      simpa using ends
  | ofProduct _ ih => exact ih
  | ofSigned _ ih => exact ih
  | ofAtom _ ih => exact ih

/-- **A text that spells a formula has the value of the formula.** -/
theorem evaluate_eq_value {f : Formula} {cs : List Char} (h : Spelled .sum f cs)
    (lookup : Lookup) :
    evaluate lookup (String.ofList cs) = f.value (String.ofList cs) lookup := by
  obtain ⟨tree, parsed, shape⟩ := h.parse
  rw [evaluate, trimString, String.toList_ofList, h.isTrimmed.trim_eq, Expr.evalText, parsed]
  exact eval_eq_value shape _ lookup

end Spelled

/-! ## Writing a formula -/

/-- A text between parentheses if these are needed. -/
def parenthesize (needed : Bool) (cs : List Char) : List Char :=
  if needed then '(' :: (cs ++ [')']) else cs

/-- The text of a formula as a phrase of a stratum, with the parentheses that it needs there
and with single blanks around operators. -/
def write : Stratum → Formula → List Char
  | _, literal n _ => Number.decimalDigits n
  | _, name x => x.text
  | s, unary sign operand => parenthesize (s == .atom) (sign.char :: write .signed operand)
  | s, binary operator left right =>
    parenthesize (!operator.fits s)
      (write operator.stratum left ++
        ' ' :: operator.char :: ' ' :: write operator.rightStratum right)

theorem Spelled.ofAtomAt {f : Formula} {cs : List Char} (h : Spelled .atom f cs)
    (s : Stratum) : Spelled s f cs := by
  cases s with
  | sum => exact .ofProduct (.ofSigned (.ofAtom h))
  | product => exact .ofSigned (.ofAtom h)
  | signed => exact .ofAtom h
  | atom => exact h

theorem Spelled.parenthesize {f : Formula} {cs : List Char} (h : Spelled .sum f cs)
    (s : Stratum) : Spelled s f (Formula.parenthesize true cs) :=
  .ofAtomAt (@Spelled.paren f cs [] [] h rfl rfl) s

theorem Spelled.ofSignedAt {f : Formula} {cs : List Char} (h : Spelled .signed f cs)
    {s : Stratum} (outer : s ≠ .atom) : Spelled s f cs := by
  cases s with
  | sum => exact .ofProduct (.ofSigned h)
  | product => exact .ofSigned h
  | signed => exact h
  | atom => exact absurd rfl outer

/-- What an operator forms is a phrase of every stratum that it fits. -/
theorem Spelled.ofFits {operator : Operator} {f : Formula} {cs : List Char}
    (h : Spelled operator.stratum f cs) {s : Stratum} (fits : operator.fits s = true) :
    Spelled s f cs := by
  cases s with
  | sum =>
      cases operator with
      | add => exact h
      | sub => exact h
      | mul => exact .ofProduct h
      | div => exact .ofProduct h
  | product =>
      cases operator with
      | add => cases fits
      | sub => cases fits
      | mul => exact h
      | div => exact h
  | signed => cases operator <;> cases fits
  | atom => cases operator <;> cases fits

/-- A formula is spelled by the text that is written for it. -/
theorem spelled_write (f : Formula) (s : Stratum) : Spelled s f (f.write s) := by
  induction f generalizing s with
  | literal n short => exact .ofAtomAt .literal s
  | name x => exact .ofAtomAt .name s
  | unary sign operand ih =>
      have spelled : Spelled .signed (.unary sign operand)
          (sign.char :: operand.write .signed) :=
            @Spelled.unary sign operand _ [] (ih .signed) rfl
      by_cases atom : s = .atom
      · subst atom
        exact .parenthesize (spelled.ofSignedAt (by decide)) .atom
      · rw [write, beq_eq_false_iff_ne.mpr atom]
        exact spelled.ofSignedAt atom
  | binary operator left right ihLeft ihRight =>
      have spelled : Spelled operator.stratum (.binary operator left right)
          (left.write operator.stratum ++
            ' ' :: operator.char :: ' ' :: right.write operator.rightStratum) :=
        @Spelled.binary operator left right _ _ [' '] [' '] (ihLeft _) (ihRight _) rfl rfl
      -- where the operator does not fit, parentheses make an atom of the sum that it forms
      cases fits : operator.fits s with
      | false =>
          rw [write, fits]
          exact (spelled.ofFits operator.fits_sum).parenthesize s
      | true =>
          rw [write, fits]
          exact spelled.ofFits fits

/-! ## Chains of signs -/

/-- A formula behind a number of minus signs. -/
def negated (f : Formula) : Nat → Formula
  | 0 => f
  | k + 1 => .unary .minus (f.negated k)

theorem Spelled.negated {f : Formula} {cs : List Char} (h : Spelled .signed f cs) (k : Nat) :
    Spelled .signed (f.negated k) (List.replicate k '-' ++ cs) := by
  induction k with
  | zero => exact h
  | succ k ih => exact @Spelled.unary .minus _ _ [] ih rfl

/-- Each minus sign turns the sign of an integer. -/
theorem value_negated {f : Formula} {source : String} {lookup : Lookup} {n : Int}
    (h : f.value source lookup = .ok (.int n)) (k : Nat) :
    (f.negated k).value source lookup = .ok (.int ((-1) ^ k * n)) := by
  induction k with
  | zero => rw [negated, h, Int.pow_zero, Int.one_mul]
  | succ k ih =>
      have turned : (-1) ^ (k + 1) * n = -((-1) ^ k * n) := by
        rw [Int.pow_succ, Int.mul_neg_one, Int.neg_mul]
      rw [negated, value, ih, turned]
      rfl

/-- Digits behind minus signs have the value of the digits, with the sign turned as often. -/
theorem evaluate_negated {n : Nat} (short : Number.IsShort n) (k : Nat) (lookup : Lookup) :
    evaluate lookup (String.ofList (List.replicate k '-' ++ Number.decimalDigits n))
      = .ok (.int ((-1) ^ k * n)) := by
  have digits : Spelled .signed (.literal n short) (Number.decimalDigits n) :=
    .ofAtom .literal
  rw [(Spelled.ofProduct (.ofSigned (digits.negated k))).evaluate_eq_value lookup]
  exact value_negated rfl k

end Formula

end SketchScreen
