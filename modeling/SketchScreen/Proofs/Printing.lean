import SketchScreen.Proofs.Formula
import SketchScreen.Proofs.Spacing

/-!
# Printing Formulas

A formula is printed as a row of lexemes, with parentheses only where it would be
read otherwise without them, and with any blanks between two lexemes.  Reading the
text gives the formula back.

## Main Definitions

- `Laid`, `layOut`: the texts of a row of lexemes, and the one with given blanks.
- `Formula.lexemes`: the row of a formula as a phrase of a stratum.
- `Formula.print`: the text of a formula with given blanks.
- `Formula.openings`: the number of its parentheses.

## Design Notes

A text of a row falls apart where the row does (`Laid.exists_of_append`), so it spells
the formula part by part (`spelled_of_laid`), and what is known of the texts that
spell a formula carries over.

That no parenthesis is superfluous is a statement about all other texts with the same reading:
none of them has fewer (`openings_le_count`).  A phrase of a wider stratum never needs more
parentheses than one of a narrower stratum, and a pair of parentheses is all that leads back.
-/

namespace SketchScreen

open SketchScreen.Text

/-! ## Rows of lexemes -/

/-- The texts of a row of lexemes, with any blanks between two of them. -/
inductive Laid : List (List Char) → List Char → Prop where
  | single {lexeme : List Char} : Laid [lexeme] lexeme
  | cons {lexeme gap cs : List Char} {row : List (List Char)} :
      isBlank gap = true → Laid row cs → Laid (lexeme :: row) (lexeme ++ (gap ++ cs))

namespace Laid

/-- A text of a row starts with the first lexeme. -/
theorem exists_of_cons {lexeme cs : List Char} {row : List (List Char)}
    (h : Laid (lexeme :: row) cs) (nonempty : row ≠ []) :
    ∃ gap rest, cs = lexeme ++ (gap ++ rest) ∧ isBlank gap = true ∧ Laid row rest := by
  cases h with
  | single => exact absurd rfl nonempty
  | cons blank rest => exact ⟨_, _, rfl, blank, rest⟩

/-- **A text of a row falls apart where the row does.** -/
theorem exists_of_append {row row' : List (List Char)} {cs : List Char}
    (h : Laid (row ++ row') cs) (nonempty : row ≠ []) (nonempty' : row' ≠ []) :
    ∃ ds gap es, cs = ds ++ (gap ++ es) ∧ isBlank gap = true ∧ Laid row ds ∧
      Laid row' es := by
  induction row generalizing cs with
  | nil => exact absurd rfl nonempty
  | cons lexeme row ih =>
      obtain ⟨gap, rest, rfl, blank, hrest⟩ :=
        h.exists_of_cons (List.append_ne_nil_of_right_ne_nil row nonempty')
      cases row with
      | nil => exact ⟨_, _, _, rfl, blank, .single, hrest⟩
      | cons next row =>
          obtain ⟨ds, gap', es, rfl, blank', front, back⟩ :=
            ih hrest (List.cons_ne_nil next row)
          exact ⟨_, gap', es, by simp, blank', .cons blank front, back⟩

theorem eq_of_singleton {lexeme cs : List Char} (h : Laid [lexeme] cs) : cs = lexeme := by
  cases h with
  | single => rfl
  | cons _ rest => cases rest

end Laid

/-- The text of a row of lexemes, with the given blanks in front of each and behind the last;
where none are left there are none. -/
def layOut (gaps : List (List Char)) : List (List Char) → List Char
  | [] => gaps.headD []
  | lexeme :: row => gaps.headD [] ++ (lexeme ++ layOut gaps.tail row)

section LayOut

variable {gaps : List (List Char)}

theorem isBlank_headD (blank : ∀ gap ∈ gaps, isBlank gap = true) :
    isBlank (gaps.headD []) = true := by
  cases gaps with
  | nil => rfl
  | cons gap gaps => exact blank gap List.mem_cons_self

/-- A row that is laid out is a text of the row with blanks around it. -/
theorem exists_laid_layOut (blank : ∀ gap ∈ gaps, isBlank gap = true) {row : List (List Char)}
    (nonempty : row ≠ []) :
    ∃ gap cs gap', layOut gaps row = gap ++ (cs ++ gap') ∧ isBlank gap = true ∧
      isBlank gap' = true ∧ Laid row cs := by
  induction row generalizing gaps with
  | nil => exact absurd rfl nonempty
  | cons lexeme row ih =>
      have blankTail : ∀ gap ∈ gaps.tail, isBlank gap = true :=
        fun gap mem => blank gap (List.mem_of_mem_tail mem)
      cases row with
      | nil => exact ⟨_, _, _, rfl, isBlank_headD blank, isBlank_headD blankTail, .single⟩
      | cons next row =>
          obtain ⟨gap, cs, gap', text, hgap, hgap', laid⟩ :=
            ih blankTail (List.cons_ne_nil next row)
          refine ⟨gaps.headD [], lexeme ++ (gap ++ cs), gap', ?_, isBlank_headD blank, hgap',
            .cons hgap laid⟩
          rw [layOut, text]
          simp

/-- Blanks add no parentheses. -/
theorem count_layOut (blank : ∀ gap ∈ gaps, isBlank gap = true) (row : List (List Char)) :
    (layOut gaps row).count '(' = row.flatten.count '(' := by
  have none : ∀ gap, isBlank gap = true → gap.count '(' = 0 := by
    intro gap blank
    rw [isBlank, List.all_eq_true] at blank
    exact List.count_eq_zero.mpr fun mem => absurd (blank _ mem) (by decide)
  induction row generalizing gaps with
  | nil => exact none _ (isBlank_headD blank)
  | cons lexeme row ih =>
      rw [layOut, List.count_append, none _ (isBlank_headD blank), List.count_append,
        ih fun gap mem => blank gap (List.mem_of_mem_tail mem), List.flatten_cons,
        List.count_append, Nat.zero_add]

end LayOut

namespace Formula

/-- A row between parentheses if these are needed. -/
def enclose (needed : Bool) (row : List (List Char)) : List (List Char) :=
  if needed then ['('] :: (row ++ [[')']]) else row

/-- The lexemes of a formula as a phrase of a stratum, with the parentheses that
it needs there. -/
def lexemes : Stratum → Formula → List (List Char)
  | _, literal n _ => [Number.decimalDigits n]
  | _, name x => [x.text]
  | s, unary sign operand => enclose (s == .atom) ([sign.char] :: lexemes .signed operand)
  | s, binary operator left right =>
    enclose (!operator.fits s)
      (lexemes operator.stratum left ++ [operator.char]
        :: lexemes operator.rightStratum right)

theorem enclose_ne_nil {needed : Bool} {row : List (List Char)} (h : row ≠ []) :
    enclose needed row ≠ [] := by
  cases needed with
  | true => exact List.cons_ne_nil _ _
  | false => exact h

theorem lexemes_ne_nil (s : Stratum) (f : Formula) : f.lexemes s ≠ [] := by
  cases f with
  | literal n short => exact List.cons_ne_nil _ _
  | name x => exact List.cons_ne_nil _ _
  | unary sign operand => exact enclose_ne_nil (List.cons_ne_nil _ _)
  | binary operator left right =>
      exact enclose_ne_nil (List.append_ne_nil_of_right_ne_nil _ (List.cons_ne_nil _ _))

/-! ## Texts of rows spell formulas -/

/-- What is enclosed is an atom, and a phrase of every stratum. -/
theorem spelled_of_enclose {f : Formula} {row : List (List Char)} (nonempty : row ≠ [])
    (spells : ∀ cs, Laid row cs → Spelled .sum f cs) {cs : List Char}
    (h : Laid (enclose true row) cs) (s : Stratum) : Spelled s f cs := by
  obtain ⟨gap, cs, rfl, blank, rest⟩ := Laid.exists_of_cons h (by simp)
  obtain ⟨body, gap', closing, rfl, blank', inner, last⟩ :=
    rest.exists_of_append nonempty (List.cons_ne_nil _ _)
  rw [last.eq_of_singleton]
  exact .ofAtomAt (.paren (spells body inner) blank blank') s

/-- **The texts of the row of a formula spell the formula.** -/
theorem spelled_of_laid (f : Formula) {s : Stratum} {cs : List Char}
    (h : Laid (f.lexemes s) cs) : Spelled s f cs := by
  induction f generalizing s cs with
  | literal n short =>
      rw [h.eq_of_singleton]
      exact .ofAtomAt .literal s
  | name x =>
      rw [h.eq_of_singleton]
      exact .ofAtomAt .name s
  | unary sign operand ih =>
      have spells : ∀ cs, Laid ([sign.char] :: operand.lexemes .signed) cs →
          Spelled .signed (.unary sign operand) cs := by
        intro cs laid
        obtain ⟨gap, body, rfl, blank, rest⟩ := laid.exists_of_cons (lexemes_ne_nil _ _)
        show Spelled .signed _ (sign.char :: (gap ++ body))
        exact .unary (ih rest) blank
      rw [lexemes] at h
      by_cases atom : s = .atom
      · subst atom
        exact spelled_of_enclose (List.cons_ne_nil _ _)
          (fun cs laid => (spells cs laid).ofSignedAt (by decide)) h .atom
      · rw [beq_eq_false_iff_ne.mpr atom] at h
        exact (spells cs h).ofSignedAt atom
  | binary operator left right ihLeft ihRight =>
      have spells : ∀ cs, Laid (left.lexemes operator.stratum ++
          [operator.char] :: right.lexemes operator.rightStratum) cs →
          Spelled operator.stratum (.binary operator left right) cs := by
        intro cs laid
        obtain ⟨front, gap, rest, rfl, blank, hfront, hrest⟩ :=
          laid.exists_of_append (lexemes_ne_nil _ _) (List.cons_ne_nil _ _)
        obtain ⟨gap', back, rfl, blank', hback⟩ := hrest.exists_of_cons (lexemes_ne_nil _ _)
        show Spelled _ _ (front ++ (gap ++ operator.char :: (gap' ++ back)))
        exact .binary (ihLeft hfront) (ihRight hback) blank blank'
      rw [lexemes] at h
      cases fits : operator.fits s with
      | false =>
          rw [fits] at h
          exact spelled_of_enclose
            (List.append_ne_nil_of_right_ne_nil _ (List.cons_ne_nil _ _))
            (fun cs laid => (spells cs laid).ofFits operator.fits_sum) h s
      | true =>
          rw [fits] at h
          exact (spells cs h).ofFits fits

/-! ## Parentheses -/

/-- The number of parentheses with which a formula is printed as a phrase of a stratum. -/
def openings (s : Stratum) (f : Formula) : Nat := (f.lexemes s).flatten.count '('

theorem count_flatten_enclose (needed : Bool) (row : List (List Char)) :
    (enclose needed row).flatten.count '(' = needed.toNat + row.flatten.count '(' := by
  cases needed with
  | true => simp [enclose, List.count_append, Nat.add_comm]
  | false => simp [enclose]

theorem openings_literal (s : Stratum) (n : Nat) (short : Number.IsShort n) :
    openings s (.literal n short) = 0 := by
  rw [openings, lexemes, List.flatten_singleton, List.count_eq_zero]
  exact fun mem => absurd (Number.isWord_of_mem_decimalDigits mem) (by decide)

theorem openings_name (s : Stratum) (x : Identifier) : openings s (.name x) = 0 := by
  rw [openings, lexemes, List.flatten_singleton, List.count_eq_zero]
  exact fun mem => absurd (x.isWord_of_mem mem) (by decide)

theorem openings_unary (s : Stratum) (sign : Sign) (operand : Formula) :
    openings s (.unary sign operand)
      = (if s = .atom then 1 else 0) + openings .signed operand := by
  have none : [sign.char].count '(' = 0 := by cases sign <;> decide
  rw [openings, lexemes, count_flatten_enclose, List.flatten_cons, List.count_append, none,
    Nat.zero_add]
  cases s <;> rfl

theorem openings_binary (s : Stratum) (operator : Operator) (left right : Formula) :
    openings s (.binary operator left right)
      = (!operator.fits s).toNat
          + (openings operator.stratum left + openings operator.rightStratum right) := by
  have none : [operator.char].count '(' = 0 := by cases operator <;> decide
  rw [openings, lexemes, count_flatten_enclose, List.flatten_append, List.count_append,
    List.flatten_cons, List.count_append, none, Nat.zero_add]
  rfl

/-- **A wider stratum needs no more parentheses than a narrower one**, and one
pair leads back. -/
theorem openings_le (f : Formula) :
    f.openings .sum ≤ f.openings .product ∧ f.openings .product ≤ f.openings .signed ∧
      f.openings .signed ≤ f.openings .atom ∧ f.openings .atom ≤ 1 + f.openings .sum := by
  cases f with
  | literal n short => simp [openings_literal]
  | name x => simp [openings_name]
  | unary sign operand => simp [openings_unary]
  | binary operator left right =>
      cases operator <;> simp [openings_binary, Operator.fits]

/-- The operator of a node with an additive token. -/
theorem stratum_eq_of_isAdditive {operator : Operator} {t : Token} (h : t.IsAdditive)
    (kind : t.kind = operator.content.kind) :
    operator.stratum = .sum ∧ operator.rightStratum = .product := by
  rcases h with h | h <;> rw [Token.kind, h] at kind <;> cases operator <;> first
    | exact ⟨rfl, rfl⟩
    | cases kind

theorem stratum_eq_of_isMultiplicative {operator : Operator} {t : Token}
    (h : t.IsMultiplicative) (kind : t.kind = operator.content.kind) :
    operator.stratum = .product ∧ operator.rightStratum = .signed := by
  rcases h with h | h <;> rw [Token.kind, h] at kind <;> cases operator <;> first
    | exact ⟨rfl, rfl⟩
    | cases kind

/-- **No text needs fewer parentheses.**  A row of tokens that is read as a formula has at
least those with which the formula is printed. -/
theorem openings_le_count {s : Stratum} {ts : List Token} {tree : Expr}
    (h : Derives s ts tree) {f : Formula} (shape : f.IsShapeOf tree) :
    f.openings s ≤ (ts.map Token.content).count .leftParen := by
  induction h generalizing f with
  | sum _ additive _ ihLeft ihRight =>
      cases f with
      | binary operator left right =>
          obtain ⟨kind, shapeLeft, shapeRight⟩ := shape
          obtain ⟨wide, narrow⟩ := stratum_eq_of_isAdditive additive kind
          have front := ihLeft shapeLeft
          have back := ihRight shapeRight
          rw [openings_binary, operator.fits_sum, wide, narrow]
          simp only [List.map_append, List.map_cons, List.count_append, List.count_cons,
            Bool.not_true, Bool.toNat_false]
          omega
      | _ => cases shape
  | product _ multiplicative _ ihLeft ihRight =>
      cases f with
      | binary operator left right =>
          obtain ⟨kind, shapeLeft, shapeRight⟩ := shape
          obtain ⟨wide, narrow⟩ := stratum_eq_of_isMultiplicative multiplicative kind
          have fits : operator.fits .product = true := by
            cases operator with
            | add => cases wide
            | sub => cases wide
            | mul => rfl
            | div => rfl
          have front := ihLeft shapeLeft
          have back := ihRight shapeRight
          rw [openings_binary, fits, wide, narrow]
          simp only [List.map_append, List.map_cons, List.count_append, List.count_cons,
            Bool.not_true, Bool.toNat_false]
          omega
      | _ => cases shape
  | ofProduct _ ih => exact f.openings_le.1.trans (ih shape)
  | ofSigned _ ih => exact f.openings_le.2.1.trans (ih shape)
  | ofAtom _ ih => exact f.openings_le.2.2.1.trans (ih shape)
  | sign _ _ ih =>
      cases f with
      | unary sign operand =>
          have inner := ih shape.2
          rw [openings_unary, if_neg (by decide), Nat.zero_add, List.map_cons,
            List.count_cons]
          exact inner.trans (Nat.le_add_right _ _)
      | _ => cases shape
  | int _ =>
      cases f with
      | literal n short => simp [openings_literal]
      | _ => cases shape
  | float _ =>
      cases f with
      | literal n short => simp [openings_literal]
      | _ => cases shape
  | name _ =>
      cases f with
      | name x => simp [openings_name]
      | _ => cases shape
  | paren opening _ _ ih =>
      have inner := ih shape
      have outer := f.openings_le.2.2.2
      rw [List.map_cons, List.count_cons, opening, List.map_append, List.count_append]
      simp only [beq_self_eq_true, if_true]
      omega

end Formula

/-- Every parenthesis among the tokens of a text stands in the text. -/
theorem Token.Spaced.count_le {cs : List Char} {row : List TokenContent}
    (h : Token.Spaced cs row) : row.count .leftParen ≤ cs.count '(' := by
  induction h with
  | nil => exact Nat.le_refl _
  | blank _ _ ih => exact ih.trans (by simp [List.count_cons])
  | @operator c content cs row operator _ ih =>
      rw [List.count_cons, List.count_cons]
      by_cases paren : content = .leftParen
      · have mark : c = '(' := by
          rw [paren] at operator
          unfold TokenContent.ofOperator? at operator
          split at operator <;> first
            | rfl
            | cases operator
        simp [paren, mark, ih]
      · simp only [beq_eq_false_iff_ne.mpr paren]
        exact ih.trans (Nat.le_add_right _ _)
  | @operand text rest content row spells _ _ ih =>
      have other : content ≠ .leftParen := by
        rintro rfl
        cases spells.isOperand
      rw [List.count_cons, beq_eq_false_iff_ne.mpr other, List.count_append]
      exact ih.trans (Nat.le_add_left _ _)

namespace Formula

/-- A formula as a text, with the parentheses that it needs and the given blanks
around its lexemes. -/
def print (gaps : List (List Char)) (f : Formula) : String :=
  String.ofList (layOut gaps (f.lexemes .sum))

/-- A formula that is printed is spelled by the text without the blanks around it. -/
theorem exists_spelled_print (f : Formula) {gaps : List (List Char)}
    (blank : ∀ gap ∈ gaps, isBlank gap = true) :
    ∃ gap cs gap', f.print gaps = String.ofList (gap ++ (cs ++ gap')) ∧ isBlank gap = true ∧
      isBlank gap' = true ∧ Spelled .sum f cs := by
  obtain ⟨gap, cs, gap', text, hgap, hgap', laid⟩ :=
    exists_laid_layOut blank (lexemes_ne_nil .sum f)
  exact ⟨gap, cs, gap', by rw [print, text], hgap, hgap', f.spelled_of_laid laid⟩

/-- **Printing and then reading gives a formula back.**  Take a formula, printed with the
parentheses that it needs and with any blanks around its lexemes, none included.  The text is
read as a tree that is the formula, and evaluating it is evaluating this tree, that is, taking
the value of the formula, whatever the names in it stand for.  The parentheses are needed: no
text that is read as the formula has fewer. -/
theorem parse_print (f : Formula) (gaps : List (List Char))
    (blank : ∀ gap ∈ gaps, isBlank gap = true) :
    (∃ tree, Expr.parse (f.print gaps) = .ok tree ∧ f.IsShapeOf tree ∧
      ∀ lookup,
        evaluate lookup (f.print gaps) = tree.eval (trimString (f.print gaps)) lookup ∧
        evaluate lookup (f.print gaps) = f.value (trimString (f.print gaps)) lookup) ∧
    ∀ text tree, Expr.parse text = .ok tree → f.IsShapeOf tree →
      (f.print gaps).toList.count '(' ≤ text.toList.count '(' := by
  constructor
  · obtain ⟨gap, cs, gap', printed, hgap, hgap', spelled⟩ := f.exists_spelled_print blank
    obtain ⟨tree, parsed, shape⟩ := spelled.parse_blank_append hgap hgap'
    have trimmed : trimString (f.print gaps) = String.ofList cs := by
      rw [printed, trimString, String.toList_ofList,
        spelled.isTrimmed.trim_blank_append hgap hgap']
    refine ⟨tree, printed ▸ parsed, shape, fun lookup => ?_⟩
    have value : evaluate lookup (f.print gaps) = f.value (String.ofList cs) lookup := by
      rw [← spelled.evaluate_eq_value lookup, evaluate, trimmed, evaluate, trimString,
        String.toList_ofList, spelled.isTrimmed.trim_eq]
    rw [trimmed, eval_eq_value shape]
    exact ⟨value, value⟩
  · intro text tree parsed shape
    obtain ⟨ts, spaced, derives⟩ := Expr.spaced_of_parse parsed
    calc (f.print gaps).toList.count '(' = f.openings .sum := by
          rw [print, String.toList_ofList, count_layOut blank, openings]
      _ ≤ (ts.map Token.content).count .leftParen := openings_le_count derives shape
      _ ≤ text.toList.count '(' := spaced.count_le

/-- Signs next to operators, a difference on the right of a difference, and a signed product:
three pairs of parentheses are needed, and hardly a blank. -/
theorem parse_print_unspaced :
    let a : Formula := .name ⟨['a'], rfl⟩
    let one : Formula := .literal 1 (by decide)
    let f : Formula := .binary .sub a (.binary .sub (.unary .minus (.binary .mul a one))
      (.binary .div one (.binary .mul (.unary .plus (.unary .minus a)) one)))
    let gaps : List (List Char) := [[' '], [], ['\t', ' ']]
    (∀ gap ∈ gaps, isBlank gap = true) ∧ f.print gaps = " a-\t (-(a*1)-1/(+-a*1))" ∧
      (∃ tree, Expr.parse " a-\t (-(a*1)-1/(+-a*1))" = .ok tree ∧ f.IsShapeOf tree) ∧
      ∀ text tree, Expr.parse text = .ok tree → f.IsShapeOf tree →
        3 ≤ text.toList.count '(' := by
  intro a one f gaps
  have blank : ∀ gap ∈ gaps, isBlank gap = true := by decide
  have printed : f.print gaps = " a-\t (-(a*1)-1/(+-a*1))" := by decide
  obtain ⟨⟨tree, parsed, shape, -⟩, needed⟩ := parse_print f gaps blank
  have count : (f.print gaps).toList.count '(' = 3 := by
    rw [printed]
    decide
  rw [count] at needed
  exact ⟨blank, printed, ⟨tree, printed ▸ parsed, shape⟩, needed⟩

end Formula

end SketchScreen
