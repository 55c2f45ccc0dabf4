import SketchScreen.Proofs.ExactValue
import SketchScreen.Proofs.Resolution

/-!
# Arithmetic that Never Fails

An expression whose names all have values has a value itself, as long as its integers do not
grow beyond the range of floats: dividing by zero gives an infinity or no number at all.  A
text that is no expression, and a name that has no value, are the only faults of an expression
that are reported as such.

## Main Definitions

- `Expr.parts`: a tree and all trees inside of it.
- `Token.lacksValue`: whether a token is a name without a value.
- `Number.IsReadable`: a text without a row of digits that is too long.

## Design Notes

Values and faults are followed along the derivation of a tree, where names are tokens and
stand in the order of the text.  Operands are evaluated from the left, and evaluation stops at
the first fault; so the name that a fault tells is the first in the text that has no value
(`Derives.find?_of_eval`).
-/

namespace SketchScreen

open SketchScreen.Text

/-! ## Zero divisors -/

namespace Number

theorem Binary.isNegative_signed {bits : Nat}
    (range : bits < exponentLimit * twoTo mantissaBits) (negative : Bool) :
    (ofFloat (signed negative bits)).isNegative = negative := by
  have unit : twoTo mantissaBits = 2 ^ 52 := rfl
  have top : twoTo 63 = 2 ^ 63 := rfl
  rw [unit, exponentLimit] at range
  rw [ofBits_signed (by omega), unit, exponentLimit, if_neg (by omega)]
  split <;> rfl

/-- The float nearest to a number has its sign. -/
theorem isNegative_toFloat {a : Number} {x : Float} (h : a.toFloat = .ok x) :
    (float x).isNegative = a.isNegative := by
  cases a with
  | int n =>
      rw [toFloat, intToFloat] at h
      split at h
      · rename_i y found
        cases h
        rw [Binary.nearest?, Option.ite_none_right_eq_some] at found
        obtain ⟨range, same⟩ := found
        cases same
        exact Binary.isNegative_signed range _
      · cases h
  | float y =>
      cases h
      rfl

/-- **A zero divisor** makes an infinity of every number but zero, with the sign of both
operands together, and no number of zero and of what is none. -/
theorem divide_of_isZero {a b c : Number} (zero : b.isZero = true) (h : a.divide b = .ok c) :
    ∃ z, c = .float z ∧ Binary.ofFloat z
      = if a.isZero || a.isNaN then .nan else .infinite (a.isNegative != b.isNegative) := by
  have noNumber : Binary.ofFloat Binary.notANumber = .nan := by decide +kernel
  have infinite : ∀ negative : Bool,
      Binary.ofFloat (if negative then -Binary.infinity else Binary.infinity)
        = .infinite negative := by decide +kernel
  unfold divide at h
  rw [if_pos zero] at h
  split at h
  · rename_i dividend
    cases h
    exact ⟨_, rfl, by rw [dividend]; exact noNumber⟩
  · rename_i dividend
    cases nearest : a.toFloat with
    | error fault =>
        rw [nearest] at h
        cases h
    | ok x =>
        simp only [nearest, bind, Except.bind, isNegative_toFloat nearest] at h
        split at h
        · rename_i nan
          cases h
          exact ⟨_, rfl, by rw [nan, Bool.or_true]; exact noNumber⟩
        · rename_i number
          cases h
          rw [Bool.not_eq_true] at dividend number
          exact ⟨_, rfl, by rw [dividend, number]; exact infinite _⟩

/-- The quotient of numbers within range is a float, with a zero divisor too. -/
theorem divide_eq_float {a b : Number} {k : Nat} (ha : a.IsWithin k) (hb : b.IsWithin k)
    (range : k ≤ 1022) : ∃ z, a.divide b = .ok (.float z) ∧
      (b.isZero = true → Binary.ofFloat z
        = if a.isZero || a.isNaN then .nan
          else .infinite (a.isNegative != b.isNegative)) := by
  obtain ⟨c, quotient, isFloat⟩ := divide_gives ha hb range
  cases c with
  | int n => cases isFloat
  | float z =>
      refine ⟨z, quotient, fun zero => ?_⟩
      obtain ⟨z', same, value⟩ := divide_of_isZero zero quotient
      cases same
      exact value

end Number

/-! ## Evaluating a tree -/

namespace Expr

/-- A tree and all trees inside of it. -/
def parts : Expr → List Expr
  | blank position => [blank position]
  | literal position value => [literal position value]
  | name position text => [name position text]
  | unary position operator operand => unary position operator operand :: operand.parts
  | binary position operator left right =>
    binary position operator left right :: (left.parts ++ right.parts)

theorem self_mem_parts (e : Expr) : e ∈ e.parts := by
  cases e <;> exact List.mem_cons_self

theorem mem_parts_left {position : Nat} {operator : TokenKind} {left right part : Expr}
    (h : part ∈ left.parts) : part ∈ (binary position operator left right).parts :=
  List.mem_cons_of_mem _ (List.mem_append_left _ h)

theorem mem_parts_right {position : Nat} {operator : TokenKind} {left right part : Expr}
    (h : part ∈ right.parts) : part ∈ (binary position operator left right).parts :=
  List.mem_cons_of_mem _ (List.mem_append_right _ h)

/-- The parts of a part are parts of the whole. -/
theorem mem_parts_trans {inner part whole : Expr} (h : inner ∈ part.parts)
    (h' : part ∈ whole.parts) : inner ∈ whole.parts := by
  induction whole with
  | blank _ | literal _ _ | name _ _ =>
      obtain rfl := List.mem_singleton.mp h'
      exact h
  | unary _ _ operand ih =>
      rcases List.mem_cons.mp h' with rfl | h'
      · exact h
      · exact List.mem_cons_of_mem _ (ih h')
  | binary _ _ left right ihLeft ihRight =>
      rcases List.mem_cons.mp h' with rfl | h'
      · exact h
      · rcases List.mem_append.mp h' with h' | h'
        · exact mem_parts_left (ihLeft h')
        · exact mem_parts_right (ihRight h')

section Eval

variable {source : String} {lookup : Lookup} {position : Nat} {operator : TokenKind}
  {operand left right : Expr} {value : Number}

theorem eval_unary_eq_ok_iff :
    (unary position operator operand).eval source lookup = .ok value ↔
      ∃ x, operand.eval source lookup = .ok x ∧ applyUnary source operator x = .ok value := by
  rw [eval]
  cases operand.eval source lookup <;> simp [bind, Except.bind]

theorem eval_binary_eq_ok_iff :
    (binary position operator left right).eval source lookup = .ok value ↔
      ∃ x y, left.eval source lookup = .ok x ∧ right.eval source lookup = .ok y ∧
        applyBinary source operator x y = .ok value := by
  rw [eval]
  cases left.eval source lookup with
  | error fault => simp [bind, Except.bind]
  | ok x => cases right.eval source lookup <;> simp [bind, Except.bind]

end Eval

section Operators

variable (source : String) {op : Token} {a b : Number} {k : Nat}

theorem applyUnary_gives (h : op.IsAdditive) (a : Number) :
    Gives (fun _ => True) (applyUnary source op.kind a) := by
  rcases h with h | h <;> rw [Token.kind, h] <;> exact ⟨_, rfl, trivial⟩

/-- Numbers within range can be put under every operator. -/
theorem applyBinary_gives (h : op.IsAdditive ∨ op.IsMultiplicative) (ha : a.IsWithin k)
    (hb : b.IsWithin k) (range : k ≤ 1022) :
    Gives (fun _ => True) (applyBinary source op.kind a b) := by
  rcases h with (h | h) | h | h <;> rw [Token.kind, h]
  · exact ((Number.add_gives ha hb range).mono fun _ _ => trivial).liftNumber
  · exact ((Number.sub_gives ha hb range).mono fun _ _ => trivial).liftNumber
  · exact ((Number.mul_gives ha hb range).mono fun _ _ => trivial).liftNumber
  · exact ((Number.divide_gives ha hb range).mono fun _ _ => trivial).liftNumber

/-- A fault of an operator is one of numbers. -/
theorem applyBinary_ne_evaluation (h : op.IsAdditive ∨ op.IsMultiplicative)
    (expression : String) (reason : Option ExprFault) :
    applyBinary source op.kind a b ≠ .error (.evaluation expression reason) := by
  have lifted : ∀ x : Except NumberFault Number,
      Fault.liftNumber x ≠ .error (.evaluation expression reason) := by
    intro x same
    cases x <;> cases same
  rcases h with (h | h) | h | h <;> rw [Token.kind, h] <;> exact lifted _

variable {source} {lookup : Lookup} {position : Nat} {left right operand : Expr}
  {expression : String} {reason : Option ExprFault}

/-- A fault of an expression under a sign is one of the operand. -/
theorem eval_unary_fault (h : op.IsAdditive)
    (fault : (unary position op.kind operand).eval source lookup
      = .error (.evaluation expression reason)) :
    operand.eval source lookup = .error (.evaluation expression reason) := by
  rw [eval] at fault
  cases result : operand.eval source lookup with
  | error other => rwa [result] at fault
  | ok x =>
      obtain ⟨y, hy, -⟩ := applyUnary_gives source h x
      rw [result] at fault
      cases hy.symm.trans fault

/-- A fault of an expression under an operator is one of the left operand, which is evaluated
first, or else of the right operand. -/
theorem eval_binary_fault (h : op.IsAdditive ∨ op.IsMultiplicative)
    (fault : (binary position op.kind left right).eval source lookup
      = .error (.evaluation expression reason)) :
    left.eval source lookup = .error (.evaluation expression reason) ∨
      ∃ x, left.eval source lookup = .ok x ∧
        right.eval source lookup = .error (.evaluation expression reason) := by
  rw [eval] at fault
  cases first : left.eval source lookup with
  | error other =>
      rw [first] at fault
      exact .inl fault
  | ok x =>
      cases second : right.eval source lookup with
      | error other =>
          rw [first, second] at fault
          exact .inr ⟨x, rfl, fault⟩
      | ok y =>
          rw [first, second] at fault
          exact absurd fault (applyBinary_ne_evaluation source h _ _)

end Operators

end Expr

namespace Token

/-- Whether a token is a name that is neither a variable with a value nor a colour. -/
def lacksValue (lookup : Lookup) (t : Token) : Bool :=
  match t.content with
  | .name text => (lookup text).isNone && (Color.constant? text).isNone
  | _ => false

theorem lacksValue_eq_false {t : Token} (lookup : Lookup) (h : t.content.isOperand = false) :
    t.lacksValue lookup = false := by
  unfold lacksValue
  split
  · rename_i content
    rw [content] at h
    cases h
  · rfl

theorem lacksValue_name {t : Token} (lookup : Lookup) {text : String}
    (h : t.content = .name text) : t.lacksValue lookup = (lookup.value? text).isNone := by
  simp only [lacksValue, h, Lookup.value?]
  cases lookup text <;> cases Color.constant? text <;> rfl

theorem lacksValue_of_known {t : Token} {lookup : Lookup}
    (h : ∀ text, t.content = .name text → Color.constant? text = none →
      (lookup text).isSome) :
    t.lacksValue lookup = false := by
  unfold lacksValue
  split
  · rename_i text content
    cases color : Color.constant? text with
    | some code => simp
    | none => simpa using h text content color
  · rfl

/-- The first name without a value around a token that is no operand. -/
theorem find?_lacksValue_join (lookup : Lookup) {op : Token}
    (other : op.content.isOperand = false) (left right : List Token) :
    (left ++ op :: right).find? (lacksValue lookup)
      = (left.find? (lacksValue lookup)).or (right.find? (lacksValue lookup)) := by
  rw [List.find?_append, List.find?_cons_of_neg]
  simp [lacksValue_eq_false lookup other]

end Token

/-! ## Along the derivation of a tree -/

/-- A number whose integers are bounded is within range once it is there at all. -/
theorem Expr.gives_isWithin {source : String} {lookup : Lookup} {k : Nat} {part : Expr}
    (small : ∀ n : Int, part.eval source lookup = .ok (.int n) → n.natAbs < 2 ^ k)
    (h : Gives (fun _ => True) (part.eval source lookup)) :
    Gives (Number.IsWithin k) (part.eval source lookup) := by
  obtain ⟨value, result, -⟩ := h
  refine ⟨value, result, ?_⟩
  cases value with
  | int n => exact small n result
  | float x => trivial

namespace Derives

variable {s : Stratum} {ts : List Token} {e : Expr} {source : String} {lookup : Lookup}

/-- **A tree has a value, and so has each of its parts**, if all its names have values and its
integers stay within range. -/
theorem eval_gives {k : Nat} (h : Derives s ts e) (range : k ≤ 1022)
    (known : ∀ t ∈ ts, t.lacksValue lookup = false)
    (small : ∀ part ∈ e.parts, ∀ n : Int, part.eval source lookup = .ok (.int n) →
      n.natAbs < 2 ^ k) :
    ∀ part ∈ e.parts, Gives (Number.IsWithin k) (part.eval source lookup) := by
  revert known small
  refine h.phrases ?binary ?sign ?literal ?name ?paren
  case binary =>
    intro left right op a b position operator ihLeft ihRight known small
    simp only [List.forall_mem_append, List.forall_mem_cons] at known
    have inLeft := ihLeft known.1 fun part mem => small part (Expr.mem_parts_left mem)
    have inRight := ihRight known.2.2 fun part mem => small part (Expr.mem_parts_right mem)
    obtain ⟨x, hx, withinX⟩ := inLeft a a.self_mem_parts
    obtain ⟨y, hy, withinY⟩ := inRight b b.self_mem_parts
    obtain ⟨z, hz, -⟩ := Expr.applyBinary_gives source operator withinX withinY range
    refine List.forall_mem_cons.mpr ⟨?_, List.forall_mem_append.mpr ⟨inLeft, inRight⟩⟩
    refine Expr.gives_isWithin (small _ (Expr.self_mem_parts _)) ?_
    exact ⟨z, Expr.eval_binary_eq_ok_iff.mpr ⟨x, y, hx, hy, hz⟩, trivial⟩
  case sign =>
    intro op ts e position additive ih known small
    have inner := ih (List.forall_mem_cons.mp known).2 fun part mem =>
      small part (List.mem_cons_of_mem _ mem)
    obtain ⟨x, hx, -⟩ := inner e e.self_mem_parts
    obtain ⟨y, hy, -⟩ := Expr.applyUnary_gives source additive x
    refine List.forall_mem_cons.mpr ⟨?_, inner⟩
    refine Expr.gives_isWithin (small _ (Expr.self_mem_parts _)) ?_
    exact ⟨y, Expr.eval_unary_eq_ok_iff.mpr ⟨x, hx, hy⟩, trivial⟩
  case literal =>
    intro t position value content known small
    refine List.forall_mem_singleton.mpr
      (Expr.gives_isWithin (small _ (Expr.self_mem_parts _)) ?_)
    exact ⟨value, rfl, trivial⟩
  case name =>
    intro t text position content known small
    have found := known t List.mem_cons_self
    rw [Token.lacksValue_name lookup content, Option.isNone_eq_false_iff] at found
    obtain ⟨value, found⟩ := Option.isSome_iff_exists.mp found
    refine List.forall_mem_singleton.mpr
      (Expr.gives_isWithin (small _ (Expr.self_mem_parts _)) ?_)
    exact ⟨value, by rw [Expr.eval, found], trivial⟩
  case paren =>
    intro opening closing ts e _ _ ih known small
    simp only [List.forall_mem_cons, List.forall_mem_append] at known
    exact ih known.2.1 small

/-- **The name that a fault tells** is the first in the phrase that has no value; a phrase
with a value holds none. -/
theorem find?_of_eval (h : Derives s ts e) :
    (∀ value, e.eval source lookup = .ok value → ts.find? (Token.lacksValue lookup) = none) ∧
    ∀ expression reason, e.eval source lookup = .error (.evaluation expression reason) →
      ∃ t text, ts.find? (Token.lacksValue lookup) = some t ∧ t.content = .name text ∧
        expression = source ∧ reason = some (.undefined text) := by
  refine h.phrases ?binary ?sign ?literal ?name ?paren
  case binary =>
    intro left right op a b position operator ihLeft ihRight
    rw [Token.find?_lacksValue_join lookup (Token.isOperand_eq_false operator)]
    refine ⟨fun value result => ?_, fun expression reason fault => ?_⟩
    · obtain ⟨x, y, hx, hy, -⟩ := Expr.eval_binary_eq_ok_iff.mp result
      rw [ihLeft.1 x hx, ihRight.1 y hy]
      rfl
    · -- the left operand is evaluated first, and its names come first
      rcases Expr.eval_binary_fault operator fault with fault | ⟨x, hx, fault⟩
      · obtain ⟨t, text, found, rest⟩ := ihLeft.2 _ _ fault
        exact ⟨t, text, by rw [found]; rfl, rest⟩
      · obtain ⟨t, text, found, rest⟩ := ihRight.2 _ _ fault
        exact ⟨t, text, by rw [ihLeft.1 x hx, found]; rfl, rest⟩
  case sign =>
    intro op ts e position additive ih
    have skip : (op :: ts).find? (Token.lacksValue lookup)
        = ts.find? (Token.lacksValue lookup) :=
      Token.find?_lacksValue_join lookup additive.isOperand_eq_false [] ts
    rw [skip]
    refine ⟨fun value result => ?_, fun expression reason fault => ?_⟩
    · obtain ⟨x, hx, -⟩ := Expr.eval_unary_eq_ok_iff.mp result
      exact ih.1 x hx
    · exact ih.2 _ _ (Expr.eval_unary_fault additive fault)
  case literal =>
    intro t position value content
    refine ⟨fun _ _ => ?_, fun _ _ fault => (by cases fault)⟩
    cases value <;> simp [Token.lacksValue, content, Lexeme.ofNumber]
  case name =>
    intro t text position content
    rw [Expr.eval]
    cases found : lookup.value? text with
    | some value =>
        refine ⟨fun _ _ => ?_, fun _ _ fault => (by cases fault)⟩
        simp [Token.lacksValue_name lookup content, found]
    | none =>
        refine ⟨fun _ result => (by cases result), fun _ _ fault => ?_⟩
        cases fault
        exact ⟨t, text, by simp [Token.lacksValue_name lookup content, found], content,
          rfl, rfl⟩
  case paren =>
    intro opening closing ts e open_ close ih
    have inner : (opening :: (ts ++ [closing])).find? (Token.lacksValue lookup)
        = ts.find? (Token.lacksValue lookup) := by
      simp [Token.lacksValue, open_, close]
    rwa [inner]

end Derives

/-! ## Texts that are no expressions -/

/-- No row of digits in a text is too long to be read. -/
def Number.IsReadable (cs : List Char) : Prop :=
  ∀ run, run <:+: cs → run.all isDigit = true → run.length ≤ digitLimit

theorem Number.IsReadable.of_infix {cs ds : List Char} (h : IsReadable cs)
    (part : ds <:+: cs) : IsReadable ds :=
  fun run inside => h run (inside.trans part)

/-- In a readable text all numbers can be read. -/
theorem Number.IsReadable.at?_ne_error {cs : List Char} (h : IsReadable cs)
    (fault : NumberFault) : Lexeme.at? cs ≠ .error fault := by
  have read : ∀ n, readUnsigned false (cs.take n) ≠ .error fault := by
    intro n failed
    have digits := all_isDigit_of_readUnsigned_error failed
    have short := h _ (List.take_prefix n cs).isInfix digits
    rw [readUnsigned, if_pos digits, readDigits, if_neg (Nat.not_lt.mpr short)] at failed
    cases failed
  intro failed
  unfold Lexeme.at? at failed
  split at failed
  · cases failed
  · split at failed
    · cases failed
    · split at failed
      · rename_i extra _
        cases result : readUnsigned false (cs.take (extra + 1)) with
        | ok value =>
            rw [result] at failed
            cases failed
        | error other =>
            rw [result] at failed
            cases failed
            exact read _ result
      · split at failed <;> cases failed

/-- A readable text that cannot be cut is a fault of the expression. -/
theorem Token.scanFrom_error {source : String} {offset : Nat} {cs : List Char} {fault : Fault}
    (readable : Number.IsReadable cs) (h : scanFrom source offset cs = .error fault) :
    ∃ reason, fault = .evaluation source (some reason) := by
  induction offset, cs using scanInduction with
  | nil offset =>
      rw [scanFrom] at h
      cases h
  | cons offset c cs ih =>
      have behind : ∀ n, Number.IsReadable (cs.drop n) := fun n =>
        readable.of_infix ((List.drop_suffix n cs).isInfix.trans
          (List.suffix_cons c cs).isInfix)
      cases space : isSpace c with
      | true =>
          rw [scanFrom, if_pos space] at h
          exact ih 0 (behind 0) h
      | false =>
          rw [scanFrom_cons space] at h
          split at h
          · rename_i cause failed
            exact absurd failed (readable.at?_ne_error cause)
          · cases h
            exact ⟨_, rfl⟩
          · rename_i content extra _
            cases following : scanFrom source (offset + 1 + extra) (cs.drop extra) with
            | ok tail =>
                rw [following] at h
                cases h
            | error cause =>
                rw [following] at h
                cases h
                exact ih extra (behind extra) following

/-- A readable text that forms no expression is a fault of the expression. -/
theorem Expr.parse_error {source : String} {fault : Fault}
    (readable : Number.IsReadable source.toList) (h : parse source = .error fault) :
    ∃ reason, fault = .evaluation source (some reason) := by
  rw [parse] at h
  cases scanned : Token.scan source with
  | error cause =>
      rw [scanned] at h
      cases h
      exact Token.scanFrom_error readable scanned
  | ok tokens =>
      obtain ⟨body, rfl, -⟩ := Token.cut_of_scan scanned
      cases read : parseTokens source (body ++ [⟨.endMark, source.length, ""⟩]) with
      | ok parsed =>
          simp [scanned, bind, Except.bind, read, pure, Except.pure] at h
      | error cause =>
          simp only [scanned, bind, Except.bind, read, Except.error.injEq] at h
          rw [← h]
          exact parseTokens_error read

theorem Text.trim_isInfix (cs : List Char) : trim cs <:+: cs := by
  obtain ⟨before, -, left⟩ := exists_blank_append_trimLeft cs
  obtain ⟨behind, -, right⟩ := exists_trimRight_append_blank (trimLeft cs)
  exact ⟨before, behind, by rw [List.append_assoc, trim, ← right, ← left]⟩

/-! ## The value of a text -/

/-- **Arithmetic never fails.**  If a text forms an expression whose names all have values,
and none of its integers is beyond the range of floats, it has a value, and so has each
quotient in it: with a divisor of zero an infinity with the sign of both operands together,
or no number if the dividend is zero or none itself.  A text that forms no expression is a
fault of the expression, if no row of digits in it is too long to be read.  One that forms
an expression is such a fault only for a name without a value, and the hint names the first
such name in the text. -/
theorem evaluate_total (lookup : Lookup) (source : String) :
    (∀ tokens tree, Token.scan source = .ok tokens → Expr.parse source = .ok tree →
      (∀ t ∈ tokens, ∀ name, t.content = .name name → Color.constant? name = none →
        (lookup name).isSome) →
      (∀ part ∈ tree.parts, ∀ n : Int, part.eval (trimString source) lookup = .ok (.int n) →
        n.natAbs < 2 ^ 1000) →
      (∃ value, evaluate lookup source = .ok value ∧
        tree.eval (trimString source) lookup = .ok value) ∧
      ∀ position left right, .binary position .slash left right ∈ tree.parts →
        ∃ x y z, left.eval (trimString source) lookup = .ok x ∧
          right.eval (trimString source) lookup = .ok y ∧
          (Expr.binary position .slash left right).eval (trimString source) lookup
            = .ok (.float z) ∧
          (y.isZero = true → Number.Binary.ofFloat z = if x.isZero || x.isNaN then .nan
            else .infinite (x.isNegative != y.isNegative))) ∧
    (Number.IsReadable source.toList → (∀ tree, Expr.parse source ≠ .ok tree) →
      ∃ reason, evaluate lookup source
        = .error (.evaluation (trimString source) (some reason))) ∧
    (∀ tree, Expr.parse source = .ok tree → ∀ expression reason,
      evaluate lookup source = .error (.evaluation expression reason) →
      ∃ tokens t name, Token.scan source = .ok tokens ∧
        tokens.find? (Token.lacksValue lookup) = some t ∧ t.content = .name name ∧
        (Fault.evaluation expression reason).hints
          = ["undefined variable '" ++ name ++ "'"]) := by
  refine ⟨fun tokens tree scanned parsed known small => ?_, fun readable unparsed => ?_,
    fun tree parsed expression reason fault => ?_⟩
  · obtain ⟨body, scanned', -, derives⟩ := Expr.derives_of_parse parsed
    cases scanned.symm.trans scanned'
    have valued : ∀ t ∈ body, t.lacksValue lookup = false := fun t mem =>
      Token.lacksValue_of_known (known t (List.mem_append_left _ mem))
    have gives := derives.eval_gives (by decide) valued small
    refine ⟨?_, fun position left right mem => ?_⟩
    · obtain ⟨value, result, -⟩ := gives tree tree.self_mem_parts
      exact ⟨value, by rw [evaluate_of_parse lookup parsed, result], result⟩
    · obtain ⟨x, hx, withinX⟩ :=
        gives left (Expr.mem_parts_trans (Expr.mem_parts_left left.self_mem_parts) mem)
      obtain ⟨y, hy, withinY⟩ :=
        gives right (Expr.mem_parts_trans (Expr.mem_parts_right right.self_mem_parts) mem)
      obtain ⟨z, quotient, zeroDivisor⟩ := Number.divide_eq_float withinX withinY (by decide)
      refine ⟨x, y, z, hx, hy, Expr.eval_binary_eq_ok_iff.mpr ⟨x, y, hx, hy, ?_⟩, zeroDivisor⟩
      rw [Expr.applyBinary, quotient]
      rfl
  · have untrimmed : ∀ tree, Expr.parse (trimString source) ≠ .ok tree := by
      intro tree parsed
      obtain ⟨tree', parsed'⟩ := Expr.exists_parse_of_trim parsed
      exact unparsed tree' parsed'
    cases parsed : Expr.parse (trimString source) with
    | ok tree => exact absurd parsed (untrimmed tree)
    | error fault =>
        have inside : Number.IsReadable (trimString source).toList := by
          rw [trimString, String.toList_ofList]
          exact readable.of_infix (Text.trim_isInfix _)
        obtain ⟨reason, rfl⟩ := Expr.parse_error inside parsed
        exact ⟨reason, by rw [evaluate, Expr.evalText, parsed]; rfl⟩
  · obtain ⟨body, scanned, -, derives⟩ := Expr.derives_of_parse parsed
    rw [evaluate_of_parse lookup parsed] at fault
    obtain ⟨t, name, found, content, rfl, rfl⟩ := derives.find?_of_eval.2 _ _ fault
    have hint : (ExprFault.undefined name).hint = "undefined variable '" ++ name ++ "'" := rfl
    refine ⟨_, t, name, scanned, ?_, content, ?_⟩
    · rw [List.find?_append, found]
      rfl
    · rw [Fault.hints_evaluation _ (by simp [hint]), hint]

/-- Where `x` is three and nothing else has a value, ` -7 / (x - x) ` is minus infinity, `7 (`
is no expression, and in `x * (y + z)` it is `y` that is missed. -/
theorem evaluate_total_difference :
    let lookup : Lookup := fun name => if name = "x" then some 3 else none
    (∃ z, evaluate lookup " -7 / (x - x) " = .ok (.float z) ∧
      Number.Binary.ofFloat z = .infinite true) ∧
    (∃ reason, evaluate lookup "7 (" = .error (.evaluation "7 (" (some reason))) ∧
    ∃ fault, evaluate lookup "x * (y + z)" = .error fault ∧
      fault.hints = ["undefined variable 'y'"] := by
  intro lookup
  refine ⟨?_, ?_, ?_⟩
  · let difference : Expr := .binary 7 .minus (.name 7 "x") (.name 11 "x")
    let tree : Expr := .binary 1 .slash (.unary 1 .minus (.literal 2 7)) difference
    let tokens : List Token := [⟨.minus, 1, "-"⟩, ⟨.int 7, 2, "7"⟩, ⟨.slash, 4, "/"⟩,
      ⟨.leftParen, 6, "("⟩, ⟨.name "x", 7, "x"⟩, ⟨.minus, 9, "-"⟩, ⟨.name "x", 11, "x"⟩,
      ⟨.rightParen, 12, ")"⟩, ⟨.endMark, 14, ""⟩]
    have parsed : Expr.parse " -7 / (x - x) " = .ok tree := by decide +kernel
    have scanned : Token.scan " -7 / (x - x) " = .ok tokens := by decide +kernel
    have known : ∀ t ∈ tokens, ∀ name, t.content = .name name → Color.constant? name = none →
        (lookup name).isSome := by
      simp [tokens, lookup]
    have small : ∀ part ∈ tree.parts, ∀ n : Int,
        part.eval (trimString " -7 / (x - x) ") lookup = .ok (.int n) →
        n.natAbs < 2 ^ 1000 := by
      let values : List Number := [.float (-Number.Binary.infinity), .int (-7), 7, 0, 3]
      have valued : ∀ part ∈ tree.parts, ∃ value ∈ values,
          part.eval (trimString " -7 / (x - x) ") lookup = .ok value := by decide +kernel
      have within : ∀ value ∈ values, value.IsWithin 1000 := by decide +kernel
      intro part mem n result
      obtain ⟨value, member, result'⟩ := valued part mem
      cases result.symm.trans result'
      exact within _ member
    obtain ⟨⟨value, result, treeValue⟩, quotients⟩ :=
      (evaluate_total lookup " -7 / (x - x) ").1 tokens tree scanned parsed known small
    obtain ⟨x, y, z, hx, hy, hz, zeroDivisor⟩ := quotients _ _ _ tree.self_mem_parts
    cases hx
    have zero : difference.eval (trimString " -7 / (x - x) ") lookup = .ok 0 := by
      decide +kernel
    cases zero.symm.trans hy
    cases treeValue.symm.trans hz
    exact ⟨z, result, zeroDivisor (by decide)⟩
  · have readable : Number.IsReadable "7 (".toList := by
      intro run inside _
      exact inside.length_le.trans (by decide)
    have unparsed : ∀ tree, Expr.parse "7 (" ≠ .ok tree := by
      intro tree parsed
      have rejected : (Expr.parse "7 (").isOk = false := by decide +kernel
      rw [parsed] at rejected
      cases rejected
    exact (evaluate_total lookup "7 (").2.1 readable unparsed
  · have parsed : Expr.parse "x * (y + z)" = .ok (.binary 0 .star (.name 0 "x")
        (.binary 5 .plus (.name 5 "y") (.name 9 "z"))) := by decide +kernel
    have fault : evaluate lookup "x * (y + z)"
        = .error (.evaluation "x * (y + z)" (some (.undefined "y"))) := by decide +kernel
    have row : Token.scan "x * (y + z)" = .ok [⟨.name "x", 0, "x"⟩, ⟨.star, 2, "*"⟩,
        ⟨.leftParen, 4, "("⟩, ⟨.name "y", 5, "y"⟩, ⟨.plus, 7, "+"⟩, ⟨.name "z", 9, "z"⟩,
        ⟨.rightParen, 10, ")"⟩, ⟨.endMark, 11, ""⟩] := by decide +kernel
    obtain ⟨tokens, t, name, scanned, found, content, hints⟩ :=
      (evaluate_total lookup "x * (y + z)").2.2 _ parsed _ _ fault
    cases row.symm.trans scanned
    cases found
    cases content
    exact ⟨_, fault, hints⟩

end SketchScreen
