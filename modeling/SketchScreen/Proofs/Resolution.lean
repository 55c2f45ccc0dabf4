import SketchScreen.Proofs.Operand
import SketchScreen.Proofs.Spacing

/-!
# Arguments and Expressions

An argument is taken apart by its own rules: a text with an operator is evaluated, a name
is looked up, and anything else is tried as a number.  What comes out is what evaluating
the text as an expression gives, wherever that has an answer; where it has none, the
argument stands for its text.

## Design Notes

A text without operators has a value only if it is a single literal or a single name: an
expression holds no two operands side by side, and blanks around it have been cut off.  So the
three rules meet every text that has a value.

There is one difference.  Texts without operators are not cut into tokens, so digits at their
start that are too many to be read are a fault of the expression and none of the argument,
unless nothing follows them.
-/

namespace SketchScreen

open SketchScreen.Text

/-! ## Trimmed texts -/

/-- A text from which no blank is cut off in front starts with none. -/
theorem Text.exists_head_of_trimLeft_eq {cs : List Char} (nonempty : cs ≠ [])
    (h : trimLeft cs = cs) : ∃ c, cs.head? = some c ∧ isSpace c = false := by
  obtain ⟨c, cs, rfl⟩ := List.exists_cons_of_ne_nil nonempty
  refine ⟨c, rfl, Bool.eq_false_iff.mpr fun space => ?_⟩
  have shorter : (cs.dropWhile isSpace).length ≤ cs.length :=
    (List.dropWhile_suffix _).length_le
  have same := congrArg List.length h
  rw [trimLeft, List.dropWhile_cons_of_pos space, List.length_cons] at same
  omega

theorem Text.isTrimmed_of_trim_eq {cs : List Char} (nonempty : cs ≠ []) (h : trim cs = cs) :
    IsTrimmed cs := by
  have left : trimLeft cs = cs := by
    refine (List.dropWhile_suffix isSpace).eq_of_length (Nat.le_antisymm ?_ ?_)
    · exact (List.dropWhile_suffix _).length_le
    · have shorter : (trimRight (trimLeft cs)).length ≤ (trimLeft cs).length := by
        simpa [trimRight] using (List.dropWhile_suffix isSpace
          (l := (trimLeft cs).reverse)).length_le
      have same := congrArg List.length h
      rw [trim] at same
      rw [← same]
      exact shorter
  have right : trimLeft cs.reverse = cs.reverse := by
    rw [trim, left, trimRight] at h
    exact List.reverse_eq_iff.mp h
  refine ⟨exists_head_of_trimLeft_eq nonempty left, ?_⟩
  obtain ⟨c, head, space⟩ := exists_head_of_trimLeft_eq (by simpa using nonempty) right
  rw [List.head?_reverse] at head
  exact ⟨c, head, space⟩

/-! ## Numbers as expressions -/

namespace Token

/-- A number that cannot be read is reported by the scan. -/
theorem scanFrom_number_error {source : String} {offset : Nat} {cs : List Char}
    {fault : NumberFault} (nonempty : cs ≠ []) (length : Number.numberLength cs = cs.length)
    (read : Number.readUnsigned false cs = .error fault) :
    scanFrom source offset cs = .error (.number fault) := by
  obtain ⟨c, cs, rfl⟩ := List.exists_cons_of_ne_nil nonempty
  have space := Number.isSpace_eq_false_of_numberLength_eq length List.mem_cons_self
  have hex := Lexeme.hexLength_eq_zero_of_numberLength_eq length
  rw [← List.append_nil cs] at length hex
  have token := Lexeme.at?_number (by simpa using length) hex
  rw [List.append_nil, read] at token
  rw [scanFrom, if_neg (by simp [space]), token]
  rfl

end Token

/-- A literal is an atom with its value. -/
theorem Derives.exists_ofNumber {t : Token} {value : Number}
    (content : t.content = Lexeme.ofNumber value) :
    ∃ e, Derives .atom [t] e ∧ ∀ source lookup, e.eval source lookup = .ok value := by
  cases value with
  | int n => exact ⟨_, .int content, fun _ _ => rfl⟩
  | float x => exact ⟨_, .float content, fun _ _ => rfl⟩

namespace Expr

variable (lookup : Lookup) {cs : List Char}

/-- The value of a literal. -/
theorem evalText_literal {value : Number}
    (spells : Lexeme.Spells cs (Lexeme.ofNumber value)) :
    evalText lookup (String.ofList cs) = .ok value := by
  have spaced : Token.Spaced (cs ++ []) [Lexeme.ofNumber value] := .operand spells .nil .nil
  have derives : ∀ ts : List Token, ts.map Token.content = [Lexeme.ofNumber value] →
      ∃ tree, Derives .sum ts tree ∧ ∀ source, tree.eval source lookup = .ok value := by
    intro ts contents
    obtain ⟨t, rfl, content⟩ := List.map_eq_singleton_iff.mp contents
    obtain ⟨e, atom, valued⟩ := Derives.exists_ofNumber content
    exact ⟨e, .ofProduct (.ofSigned (.ofAtom atom)), fun source => valued source lookup⟩
  obtain ⟨tree, parsed, valued⟩ := parse_of_spaced spaced derives
  rw [List.append_nil] at parsed
  rw [evalText, parsed]
  exact valued _

/-- The value of a number is what it reads as. -/
theorem evalText_number (nonempty : cs ≠ []) (length : Number.numberLength cs = cs.length) :
    evalText lookup (String.ofList cs) = Fault.liftNumber (Number.readUnsigned false cs) := by
  cases read : Number.readUnsigned false cs with
  | error fault =>
      rw [evalText, parse, Token.scan, String.toList_ofList,
        Token.scanFrom_number_error nonempty length read]
      rfl
  | ok value =>
      have hex := Lexeme.hexLength_eq_zero_of_numberLength_eq length
      exact evalText_literal lookup (.number nonempty hex length read)

/-- A number with a sign has a value unless it cannot be read. -/
theorem evalText_signed_number {c : Char} {op : TokenContent}
    (operator : TokenContent.ofOperator? c = some op) (sign : op = .plus ∨ op = .minus)
    (nonempty : cs ≠ []) (length : Number.numberLength cs = cs.length) (source : String)
    (reason : Option ExprFault) :
    evalText lookup (String.ofList (c :: cs)) ≠ .error (.evaluation source reason) := by
  cases read : Number.readUnsigned false cs with
  | error fault =>
      have space := (TokenContent.isWord_eq_false_of_ofOperator? operator).2.1
      have token : Lexeme.at? (c :: cs) = .ok (some ⟨op, 0⟩) := by simp [Lexeme.at?, operator]
      have scanned : Token.scan (String.ofList (c :: cs)) = .error (.number fault) := by
        rw [Token.scan, String.toList_ofList, Token.scanFrom, if_neg (by simp [space]), token]
        simp only [Fault.liftNumber, Except.mapError, bind, Except.bind, List.drop_zero,
          Token.scanFrom_number_error nonempty length read]
      rw [evalText, parse, scanned]
      intro same
      cases same
  | ok value =>
      have hex := Lexeme.hexLength_eq_zero_of_numberLength_eq length
      have spaced : Token.Spaced (c :: (cs ++ [])) [op, Lexeme.ofNumber value] :=
        .operator operator (.operand (.number nonempty hex length read) .nil .nil)
      have derives : ∀ ts : List Token, ts.map Token.content = [op, Lexeme.ofNumber value] →
          ∃ tree, Derives .sum ts tree ∧ ∀ source, ∃ v, tree.eval source lookup = .ok v := by
        intro ts contents
        obtain ⟨t, ts, rfl, hop, contents⟩ := List.map_eq_cons_iff.mp contents
        obtain ⟨u, rfl, content⟩ := List.map_eq_singleton_iff.mp contents
        obtain ⟨e, atom, valued⟩ := Derives.exists_ofNumber content
        have additive : t.IsAdditive := by rwa [Token.IsAdditive, hop]
        refine ⟨_, .ofProduct (.ofSigned (.sign additive (.ofAtom atom))), fun source => ?_⟩
        rcases additive with plus | minus
        · exact ⟨value, by simp [eval, bind, Except.bind, valued, Token.kind, plus,
            TokenContent.kind, applyUnary]⟩
        · exact ⟨value.neg, by simp [eval, bind, Except.bind, valued, Token.kind, minus,
            TokenContent.kind, applyUnary]⟩
      obtain ⟨tree, parsed, valued⟩ := parse_of_spaced spaced derives
      rw [List.append_nil] at parsed
      obtain ⟨v, result⟩ := valued (String.ofList (c :: cs))
      rw [evalText, parsed]
      intro same
      cases result.symm.trans same

/-- The value of a name is that of its variable, or else of its colour. -/
theorem evalText_name (name : isName cs = true) :
    evalText lookup (String.ofList cs)
      = match lookup.value? (String.ofList cs) with
        | some value => .ok value
        | none =>
            .error (.evaluation (String.ofList cs)
              (some (.undefined (String.ofList cs)))) := by
  have spaced : Token.Spaced (cs ++ []) [.name (String.ofList cs)] :=
    .operand (.name name) .nil .nil
  have derives : ∀ ts : List Token, ts.map Token.content = [.name (String.ofList cs)] →
      ∃ tree, Derives .sum ts tree ∧ ∃ position,
        tree = .name position (String.ofList cs) := by
    intro ts contents
    obtain ⟨t, rfl, content⟩ := List.map_eq_singleton_iff.mp contents
    exact ⟨_, .ofProduct (.ofSigned (.ofAtom (.name content))), _, rfl⟩
  obtain ⟨tree, parsed, position, rfl⟩ := parse_of_spaced spaced derives
  rw [List.append_nil] at parsed
  rw [evalText, parsed]
  rfl

end Expr

/-! ## Texts without operators -/

namespace Token.Spaced

open Argument (isExpression)

variable {cs : List Char} {row : List TokenContent}

/-- A text without operators holds operands only. -/
theorem isOperand_of_mem (h : Spaced cs row) (plain : isExpression cs = false) :
    ∀ content ∈ row, content.isOperand = true := by
  induction h with
  | nil => simp
  | blank _ _ ih =>
      simp only [isExpression, List.any_cons, Bool.or_eq_false_iff] at plain
      exact ih plain.2
  | operator operator _ _ => simp [isExpression, operator] at plain
  | operand spells _ _ ih =>
      simp only [isExpression, List.any_append, Bool.or_eq_false_iff] at plain
      exact List.forall_mem_cons.mpr ⟨spells.isOperand, ih plain.2⟩

/-- A text without tokens is blank. -/
theorem isBlank (h : Spaced cs []) : Text.isBlank cs = true := by
  generalize empty : [] = row at h
  induction h with
  | nil => rfl
  | blank space _ ih => simpa [Text.isBlank, space] using ih empty
  | operator _ _ _ => cases empty
  | operand _ _ _ _ => cases empty

/-- **A trimmed text without operators is one literal or one name**, if no
operand follows another. -/
theorem spells (h : Spaced cs row) (nonempty : row ≠ []) (apart : Apart row)
    (trimmed : IsTrimmed cs) (plain : isExpression cs = false) :
    ∃ content, Lexeme.Spells cs content := by
  have operands := h.isOperand_of_mem plain
  obtain ⟨first, head, space⟩ := trimmed.head
  cases h with
  | nil => exact absurd rfl nonempty
  | blank blank _ =>
      cases head
      rw [space] at blank
      cases blank
  | operator operator _ => simp [isExpression, operator] at plain
  | @operand text rest content row spells _ following =>
      cases row with
      | cons next row =>
          -- two operands side by side
          have pair := (List.isChain_cons_cons.mp apart).1
          exact absurd ⟨operands _ (by simp), operands _ (by simp)⟩ pair
      | nil =>
          have blank := following.isBlank
          obtain ⟨last, tail, space⟩ := trimmed.last
          cases rest with
          | nil => exact ⟨content, by simpa using spells⟩
          | cons c rest =>
              have mem : last ∈ c :: rest := by
                rw [List.getLast?_append_of_ne_nil _ (List.cons_ne_nil c rest)] at tail
                exact List.mem_of_getLast? tail
              rw [List.all_eq_true.mp blank last mem] at space
              cases space

end Token.Spaced

/-! ## What an argument stands for -/

theorem Color.mem_constants {name : String} {code : Nat} (h : constant? name = some code) :
    (name, code) ∈ constants := by
  obtain ⟨before, behind, table, -⟩ := List.lookup_eq_some_iff.mp h
  simp [table]

/-- Every colour is named as one. -/
theorem Color.isName_of_constant? {name : String} {code : Nat}
    (h : constant? name = some code) : isName name = true := by
  have named : ∀ entry ∈ constants, isName entry.1 = true := by decide
  exact named (name, code) (mem_constants h)

/-- Only a row of digits can be too long to be read. -/
theorem Number.all_isDigit_of_readUnsigned_error {negative : Bool} {cs : List Char}
    {fault : NumberFault} (h : readUnsigned negative cs = .error fault) :
    cs.all isDigit = true := by
  by_contra digits
  rw [readUnsigned, if_neg digits] at h
  cases h

namespace Argument

variable {lookup : Lookup} {cs : List Char}

/-- A text without operators has no sign. -/
theorem takeSign_of_isExpression_eq_false (h : isExpression cs = false) :
    Number.takeSign cs = (false, cs) := by
  unfold Number.takeSign
  split
  · cases h
  · cases h
  · rfl

/-- A text without operators that is a number stands for it. -/
theorem plain_number (trimmed : trim cs = cs) (operators : isExpression cs = false)
    (number : cs ≠ [] ∧ Number.numberLength cs = cs.length) :
    plain cs = (Fault.liftNumber (Number.readUnsigned false cs)).map Argument.number := by
  simp only [plain, Number.readNumber?, trimmed, takeSign_of_isExpression_eq_false operators,
    if_pos number]
  cases Number.readUnsigned false cs <;> rfl

/-- A text without operators that is no number stands for itself. -/
theorem plain_text (trimmed : trim cs = cs) (operators : isExpression cs = false)
    (number : ¬ (cs ≠ [] ∧ Number.numberLength cs = cs.length)) :
    plain cs = .ok (.text (String.ofList cs)) := by
  simp only [plain, Number.readNumber?, trimmed, takeSign_of_isExpression_eq_false operators,
    if_neg number]
  rfl

/-- **The fallback to a plain number has nothing to do.**  A text with operators that is a
number has a value as an expression, or cannot be read as one either. -/
theorem plain_of_evaluation_fault (trimmed : trim cs = cs) {source : String}
    {reason : Option ExprFault}
    (h : evaluate lookup (String.ofList cs) = .error (.evaluation source reason)) :
    plain cs = .ok (.text (String.ofList cs)) := by
  rw [evaluate_of_trim_eq lookup trimmed] at h
  have absent : ¬ ((Number.takeSign cs).2 ≠ [] ∧
      Number.numberLength (Number.takeSign cs).2 = (Number.takeSign cs).2.length) := by
    intro number
    -- with a sign or without, a number is an expression of its own
    unfold Number.takeSign at number
    split at number
    · exact Expr.evalText_signed_number lookup (c := '-') rfl (Or.inr rfl) number.1
        number.2 _ _ h
    · exact Expr.evalText_signed_number lookup (c := '+') rfl (Or.inl rfl) number.1
        number.2 _ _ h
    · rw [Expr.evalText_number lookup number.1 number.2] at h
      cases read : Number.readUnsigned false cs <;> rw [read] at h <;> cases h
  simp only [plain, Number.readNumber?, trimmed, if_neg absent]
  rfl

/-- Among the texts without operators only numbers and names have a value. -/
theorem number_or_isName_of_evaluate_ok (trimmed : trim cs = cs) (hex : hasHexMark cs = false)
    (operators : isExpression cs = false) {value : Number}
    (h : evaluate lookup (String.ofList cs) = .ok value) :
    (cs ≠ [] ∧ Number.numberLength cs = cs.length) ∨ isName cs = true := by
  obtain ⟨tree, parsed, -⟩ := exists_parse_of_evaluate_ok h
  rw [trimString, String.toList_ofList, trimmed] at parsed
  obtain ⟨ts, spaced, derives⟩ := Expr.spaced_of_parse parsed
  rw [String.toList_ofList] at spaced
  have tokens : ts.map Token.content ≠ [] := by
    obtain ⟨⟨t, mem, -⟩, -⟩ := derives.exists_not_isParen_and_position
    simpa using List.ne_nil_of_mem mem
  have nonempty : cs ≠ [] := by
    rintro rfl
    exact tokens spaced.eq_nil
  obtain ⟨content, spells⟩ :=
    spaced.spells tokens derives.apart (isTrimmed_of_trim_eq nonempty trimmed) operators
  cases spells with
  | hex _ length =>
      obtain ⟨mark, digits, rfl, letter, -⟩ :=
        Lexeme.eq_of_hexLength_eq_length nonempty length
      rcases letter with rfl | rfl <;> simp [hasHexMark, List.isPrefixOf] at hex
  | number _ _ length _ => exact Or.inl ⟨nonempty, length⟩
  | name name => exact Or.inr name

/-- The empty text is no expression. -/
theorem evaluate_nil (lookup : Lookup) :
    evaluate lookup (String.ofList [])
      = .error (.evaluation "" (some (.unexpectedToken .operand ⟨.endMark, 0, ""⟩))) := by
  rw [evaluate_of_trim_eq lookup rfl, Expr.evalText, Expr.parse, Token.scan,
    String.toList_ofList, Token.scanFrom]
  rfl

/-- A row of digits is a number. -/
theorem all_isDigit_eq_false (number : ¬ (cs ≠ [] ∧ Number.numberLength cs = cs.length))
    (h : ∀ source reason,
      evaluate lookup (String.ofList cs) ≠ .error (.evaluation source reason)) :
    cs.all isDigit = false := by
  by_contra digits
  rw [Bool.not_eq_false, List.all_eq_true] at digits
  cases cs with
  | nil => exact h _ _ (evaluate_nil lookup)
  | cons c cs =>
      have length := Number.numberLength_digits (List.cons_ne_nil c cs) digits .nil
      rw [List.append_nil] at length
      exact number ⟨List.cons_ne_nil c cs, length⟩

/-- No name is a number. -/
theorem not_isName_of_numberLength_eq (nonempty : cs ≠ [])
    (length : Number.numberLength cs = cs.length) : ¬ isName cs = true := by
  obtain ⟨c, cs, rfl⟩ := List.exists_cons_of_ne_nil nonempty
  intro name
  simp only [isName, Bool.and_eq_true] at name
  rw [Number.numberLength_of_isNameStart name.1] at length
  cases length

/-- A name that is no colour has the value of its variable. -/
theorem evaluate_name (lookup : Lookup) (trimmed : trim cs = cs) (name : isName cs = true)
    (color : Color.nameStart.toList.isPrefixOf cs = false) :
    evaluate lookup (String.ofList cs)
      = match lookup (String.ofList cs) with
        | some value => .ok value
        | none =>
            .error (.evaluation (String.ofList cs)
              (some (.undefined (String.ofList cs)))) := by
  have code : Color.constant? (String.ofList cs) = none := by
    cases constant : Color.constant? (String.ofList cs) with
    | none => rfl
    | some code =>
        have named := Color.isName_of_constant? constant
        rw [Color.isName, String.toList_ofList, color] at named
        cases named
  rw [evaluate_of_trim_eq lookup trimmed, Expr.evalText_name lookup name, Lookup.value?, code]
  cases lookup (String.ofList cs) <;> rfl

/-- What an argument without a mark of its own stands for. -/
theorem resolve_unmarked (lookup : Lookup) (quoted : isQuoted cs = false)
    (color : Color.nameStart.toList.isPrefixOf cs = false) (hex : hasHexMark cs = false) :
    resolve lookup cs = if isExpression cs then ofExpression lookup cs else
      match (if isName cs then lookup (String.ofList cs) else none) with
      | some n => .ok (number n)
      | none => plain cs := by
  unfold resolve
  refine (if_neg (by simp [quoted])).trans ?_
  refine (if_neg (by simp [color])).trans ?_
  exact if_neg (by simp [hex])

/-- **Arguments agree with expressions.**  An argument without a mark of its own stands for
the value of its text as an expression, and for the text itself if this cannot be evaluated.
Any other fault of the expression is one of the argument as well, if the text holds an
operator or consists of digits; other texts are not evaluated, and stand for themselves. -/
theorem resolve_eq_evaluate (lookup : Lookup) {cs : List Char} (trimmed : trim cs = cs)
    (quoted : isQuoted cs = false) (color : Color.nameStart.toList.isPrefixOf cs = false)
    (hex : hasHexMark cs = false) :
    resolve lookup cs = match evaluate lookup (String.ofList cs) with
      | .ok value => .ok (.number value)
      | .error (.evaluation _ _) => .ok (.text (String.ofList cs))
      | .error fault =>
        if isExpression cs || cs.all isDigit then .error fault
        else .ok (.text (String.ofList cs)) := by
  rw [resolve_unmarked lookup quoted color hex]
  by_cases operators : isExpression cs = true
  · rw [if_pos operators, ofExpression]
    cases value : evaluate lookup (String.ofList cs) with
    | ok v => rfl
    | error fault =>
        cases fault with
        | evaluation source reason => exact plain_of_evaluation_fault trimmed value
        | _ => simp [operators]
  · rw [if_neg operators]
    rw [Bool.not_eq_true] at operators
    simp only [operators, Bool.false_or]
    by_cases number : cs ≠ [] ∧ Number.numberLength cs = cs.length
    · -- no name is a number, so the lookup is passed over and both read the same digits
      rw [if_neg (not_isName_of_numberLength_eq number.1 number.2),
        plain_number trimmed operators number, evaluate_of_trim_eq lookup trimmed,
        Expr.evalText_number lookup number.1 number.2]
      cases read : Number.readUnsigned false cs with
      | ok value => rfl
      | error fault =>
          have digits := Number.all_isDigit_of_readUnsigned_error read
          simp [Fault.liftNumber, Except.mapError, Except.map, digits]
    · rw [plain_text trimmed operators number]
      by_cases name : isName cs = true
      · rw [if_pos name, evaluate_name lookup trimmed name color]
        cases lookup (String.ofList cs) <;> rfl
      · -- neither a number nor a name: there is no value, and no fault that the
        -- argument shares
        rw [if_neg name]
        cases value : evaluate lookup (String.ofList cs) with
        | ok v =>
            rcases number_or_isName_of_evaluate_ok trimmed hex operators
              value with found | found
            · exact absurd found number
            · exact absurd found name
        | error fault =>
            cases fault with
            | evaluation source reason => rfl
            | _ =>
                have digits := all_isDigit_eq_false number (by rw [value]; simp)
                simp [digits]

/-- The product `2*(w+1)` with a variable, and a name that is bound to nothing. -/
theorem resolve_eq_evaluate_product :
    resolve (fun name => if name = "w" then some (.int 6) else none) "2*(w+1)".toList
        = .ok (.number (.int 14)) ∧
      resolve Lookup.empty "width".toList = .ok (.text "width") := by
  refine ⟨?_, ?_⟩
  · refine (resolve_eq_evaluate _ (by decide) (by decide) (by decide) (by decide)).trans ?_
    decide +kernel
  · refine (resolve_eq_evaluate _ (by decide) (by decide) (by decide) (by decide)).trans ?_
    decide +kernel

/-! ### Digits too many to be read -/

section Overlong

variable {digits rest : List Char} (all : ∀ c ∈ digits, isDigit c = true)
  (long : digitLimit < digits.length) (boundary : Token.IsBoundary rest)
  (trimmed : trim (digits ++ rest) = digits ++ rest)

include all long boundary trimmed

/-- An expression reports them, whatever follows. -/
theorem evaluate_overlong (lookup : Lookup) :
    evaluate lookup (String.ofList (digits ++ rest))
      = .error (.number (.tooLongToRead digits.length)) := by
  have nonempty : digits ≠ [] :=
    List.ne_nil_of_length_pos (Nat.lt_of_le_of_lt (Nat.zero_le _) long)
  have read : Number.readUnsigned false digits = .error (.tooLongToRead digits.length) := by
    rw [Number.readUnsigned, if_pos (List.all_eq_true.mpr all), Number.readDigits,
      if_pos long]
    rfl
  have length := Number.numberLength_digits nonempty all boundary
  have alone : Number.numberLength digits = digits.length := by
    simpa using Number.numberLength_digits nonempty all .nil
  have hex : Lexeme.hexLength (digits ++ rest) = 0 := by
    rw [Lexeme.hexLength_append boundary, Lexeme.hexLength_eq_zero_of_numberLength_eq alone]
  obtain ⟨c, digits, rfl⟩ := List.exists_cons_of_ne_nil nonempty
  have space := isSpace_eq_false_of_isWord (isWord_of_isDigit (all c List.mem_cons_self))
  have token := Lexeme.at?_number length hex
  rw [read] at token
  rw [evaluate_of_trim_eq lookup trimmed, Expr.evalText, Expr.parse, Token.scan,
    String.toList_ofList, List.cons_append, Token.scanFrom, if_neg (by simp [space]), token]
  rfl

/-- An argument without operators does not, unless it ends with them. -/
theorem resolve_overlong (lookup : Lookup) (more : rest ≠ [])
    (quoted : isQuoted (digits ++ rest) = false)
    (color : Color.nameStart.toList.isPrefixOf (digits ++ rest) = false)
    (hex : hasHexMark (digits ++ rest) = false)
    (operators : isExpression (digits ++ rest) = false) :
    resolve lookup (digits ++ rest) = .ok (.text (String.ofList (digits ++ rest))) := by
  have nonempty : digits ≠ [] :=
    List.ne_nil_of_length_pos (Nat.lt_of_le_of_lt (Nat.zero_le _) long)
  have number : ¬ (digits ++ rest ≠ [] ∧
      Number.numberLength (digits ++ rest) = (digits ++ rest).length) := by
    rintro ⟨-, length⟩
    rw [Number.numberLength_digits nonempty all boundary, List.length_append] at length
    have := List.length_pos_iff.mpr more
    omega
  have name : ¬ isName (digits ++ rest) = true := by
    obtain ⟨c, digits, rfl⟩ := List.exists_cons_of_ne_nil nonempty
    intro name
    simp only [List.cons_append, isName, Bool.and_eq_true] at name
    have digit := isDigit_eq_false_of_isNameStart name.1
    rw [all c List.mem_cons_self] at digit
    cases digit
  rw [resolve_unmarked lookup quoted color hex, if_neg (by simp [operators]), if_neg name]
  exact plain_text trimmed operators number

end Overlong

/-- Not every fault of an expression is one of the argument: with 4301 digits and a percent
sign, only the expression cannot be read. -/
theorem not_forall_resolve_error :
    ¬ ∀ (lookup : Lookup) (cs : List Char) (fault : NumberFault), trim cs = cs →
      isQuoted cs = false → Color.nameStart.toList.isPrefixOf cs = false →
      hasHexMark cs = false →
      evaluate lookup (String.ofList cs) = .error (.number fault) →
      resolve lookup cs = .error (.number fault) := by
  intro agree
  have all : ∀ c ∈ List.replicate 4301 '9', isDigit c = true := by
    intro c mem
    rw [List.eq_of_mem_replicate mem]
    decide
  have long : digitLimit < (List.replicate 4301 '9').length := by
    rw [List.length_replicate]
    decide
  have boundary : Token.IsBoundary ['%'] := .cons (by decide) (by decide) []
  have trimmed : trim (List.replicate 4301 '9' ++ ['%'])
      = List.replicate 4301 '9' ++ ['%'] := by
    refine IsTrimmed.trim_eq ⟨⟨'9', rfl, by decide⟩, '%', ?_, by decide⟩
    rw [List.getLast?_append, List.getLast?_singleton, Option.some_or]
  have operators : isExpression (List.replicate 4301 '9' ++ ['%']) = false := by
    rw [isExpression, List.any_append, Bool.or_eq_false_iff]
    refine ⟨?_, by decide⟩
    rw [List.any_eq_false]
    intro c mem
    rw [List.eq_of_mem_replicate mem]
    decide
  have fault := agree Lookup.empty _ _ trimmed rfl rfl rfl
    (evaluate_overlong all long boundary trimmed Lookup.empty)
  have text := resolve_overlong all long boundary trimmed Lookup.empty (by decide) rfl rfl rfl
    operators
  cases text.symm.trans fault

end Argument

end SketchScreen
