import Mathlib.Data.List.Chain
import SketchScreen.Expr.Eval
import SketchScreen.Proofs.Cutting
import SketchScreen.Proofs.Grammar

/-!
# Expressions as Rows of Lexemes

Cutting a text into tokens takes as much as it can at every place, so in general a text cannot
be changed at one place without a change of the tokens behind it.  In the texts that form
expressions it can.  An operand is never followed by another operand there, so it ends at a
boundary, and what stands between two boundaries is cut on its own.

## Main Definitions

- `Token.Spaced`: a text as blanks, operators, and operands that end at boundaries.
- `Token.Apart`: a row in which no operand follows another.

## Design Notes

`Spaced` keeps the contents of tokens only.  Their offsets and texts reach no value, and a row
of contents can be compared with that of another text.
-/

namespace SketchScreen

open SketchScreen.Text

namespace Token

/-! ## Spaced texts -/

/-- A text as blanks, operators, and operands that end at boundaries, with the contents of its
tokens. -/
inductive Spaced : List Char → List TokenContent → Prop where
  | nil : Spaced [] []
  | blank {c : Char} {cs : List Char} {row : List TokenContent} :
      isSpace c = true → Spaced cs row → Spaced (c :: cs) row
  | operator {c : Char} {content : TokenContent} {cs : List Char} {row : List TokenContent} :
      TokenContent.ofOperator? c = some content → Spaced cs row →
      Spaced (c :: cs) (content :: row)
  | operand {text rest : List Char} {content : TokenContent} {row : List TokenContent} :
      Lexeme.Spells text content → IsBoundary rest → Spaced rest row →
      Spaced (text ++ rest) (content :: row)

/-- A boundary stays one, whatever boundary follows. -/
theorem IsBoundary.append {cs ds : List Char} (h : IsBoundary cs) (h' : IsBoundary ds) :
    IsBoundary (cs ++ ds) := by
  cases cs with
  | nil => exact h'
  | cons c cs => exact h

namespace Spaced

variable {cs : List Char} {row : List TokenContent}

/-- **A spaced text is cut as it is spaced.** -/
theorem scans (h : Spaced cs row) (offset : Nat) :
    ∃ ts : List Token, ts.map content = row ∧ Scans offset cs ts := by
  induction h generalizing offset with
  | nil => exact ⟨[], rfl, .nil offset⟩
  | @blank c cs row space _ ih =>
      obtain ⟨ts, rfl, scans⟩ := ih (offset + 1)
      have gap : isBlank [c] = true := by simp [isBlank, space]
      exact ⟨ts, rfl, .blank_append gap scans⟩
  | operator operator _ ih =>
      obtain ⟨ts, rfl, scans⟩ := ih (offset + 1)
      exact ⟨_, rfl, .operator_cons operator scans⟩
  | @operand text rest content row spells boundary _ ih =>
      obtain ⟨ts, rfl, scans⟩ := ih (offset + text.length)
      have joined := (Scans.operand spells offset).append scans fun _ => boundary.append
      exact ⟨_, rfl, joined⟩

/-- A text whose first token is no operand continues neither a number nor a name. -/
theorem isBoundary (h : Spaced cs row)
    (first : ∀ content ∈ row.head?, content.isOperand = false) : IsBoundary cs := by
  cases h with
  | nil => exact .nil
  | blank space _ =>
      refine .cons (isWord_eq_false_of_isSpace space) ?_ _
      rintro rfl
      exact absurd space (by decide)
  | operator operator _ =>
      have outside := TokenContent.isWord_eq_false_of_ofOperator? operator
      exact .cons outside.1 outside.2.2 _
  | operand spells _ _ =>
      have operand := spells.isOperand
      rw [first _ rfl] at operand
      cases operand

/-- Nothing holds no token. -/
theorem eq_nil (h : Spaced [] row) : row = [] := by
  generalize empty : [] = cs at h
  cases h with
  | nil => rfl
  | blank _ _ => cases empty
  | operator _ _ => cases empty
  | operand spells _ _ =>
      exact absurd (List.append_eq_nil_iff.mp empty.symm).1 spells.ne_nil

/-! ### Blanks around a text -/

theorem blank_append_iff {gap : List Char} (blank : isBlank gap = true) :
    Spaced (gap ++ cs) row ↔ Spaced cs row := by
  induction gap with
  | nil => rfl
  | cons c gap ih =>
      simp only [isBlank, List.all_cons, Bool.and_eq_true] at blank
      rw [← ih blank.2]
      refine ⟨fun h => ?_, .blank blank.1⟩
      generalize split : c :: gap ++ cs = text at h
      cases h with
      | nil => cases split
      | blank _ h =>
          cases split
          exact h
      | operator operator _ =>
          cases split
          rw [(TokenContent.isWord_eq_false_of_ofOperator? operator).2.1] at blank
          cases blank.1
      | operand spells _ _ =>
          obtain ⟨d, ds, rfl⟩ := List.exists_cons_of_ne_nil spells.ne_nil
          obtain ⟨rfl, -⟩ := List.cons_eq_cons.mp split
          rw [spells.isSpace_eq_false c List.mem_cons_self] at blank
          cases blank.1

theorem append_blank {gap : List Char} (blank : isBlank gap = true) (h : Spaced cs row) :
    Spaced (cs ++ gap) row := by
  induction h with
  | nil =>
      rw [List.nil_append, ← List.append_nil gap]
      exact (blank_append_iff blank).mpr .nil
  | blank space _ ih => exact .blank space ih
  | operator operator _ ih => exact .operator operator ih
  | operand spells boundary _ ih =>
      rw [List.append_assoc]
      refine .operand spells (boundary.append ?_) ih
      simpa using IsBoundary.blank_append blank .nil

theorem of_append_blank {gap : List Char} (blank : isBlank gap = true)
    (h : Spaced (cs ++ gap) row) : Spaced cs row := by
  -- no operator and no operand holds a blank, so the gap begins between two of them
  generalize split : cs ++ gap = text at h
  induction h generalizing cs gap with
  | nil =>
      rw [(List.append_eq_nil_iff.mp split).1]
      exact .nil
  | @blank c text row space _ ih =>
      cases cs with
      | nil =>
          subst split
          simp only [isBlank, List.all_cons, Bool.and_eq_true] at blank
          exact ih blank.2 (List.nil_append text)
      | cons d cs =>
          obtain ⟨rfl, rfl⟩ := List.cons_eq_cons.mp split
          exact .blank space (ih blank rfl)
  | operator operator _ ih =>
      cases cs with
      | nil =>
          subst split
          simp only [isBlank, List.all_cons, Bool.and_eq_true] at blank
          rw [(TokenContent.isWord_eq_false_of_ofOperator? operator).2.1] at blank
          cases blank.1
      | cons d cs =>
          obtain ⟨rfl, rfl⟩ := List.cons_eq_cons.mp split
          exact .operator operator (ih blank rfl)
  | @operand text rest content row spells boundary _ ih =>
      rcases List.append_eq_append_iff.mp split with ⟨inner, rfl, rfl⟩ | ⟨inner, rfl, rfl⟩
      · simp only [isBlank, List.all_append, Bool.and_eq_true] at blank
        cases inner with
        | nil =>
            have ended := ih blank.2 (List.nil_append rest)
            simpa using Spaced.operand spells .nil ended
        | cons c inner =>
            have space := spells.isSpace_eq_false c (by simp)
            simp [space] at blank
      · refine .operand spells ?_ (ih blank rfl)
        cases inner with
        | nil => exact .nil
        | cons c inner => exact boundary

/-- **Blanks around a text do not matter.** -/
theorem trim_iff : Spaced (trim cs) row ↔ Spaced cs row := by
  obtain ⟨before, blank, left⟩ := exists_blank_append_trimLeft cs
  obtain ⟨behind, blank', right⟩ := exists_trimRight_append_blank (trimLeft cs)
  calc Spaced (trim cs) row
      ↔ Spaced (trimRight (trimLeft cs) ++ behind) row :=
        ⟨append_blank blank', of_append_blank blank'⟩
    _ ↔ Spaced (trimLeft cs) row := by rw [← right]
    _ ↔ Spaced (before ++ trimLeft cs) row := (blank_append_iff blank).symm
    _ ↔ Spaced cs row := by rw [← left]

end Spaced

/-! ## From scanning to spacing -/

/-- No operand follows another. -/
def Apart (row : List TokenContent) : Prop :=
  row.IsChain fun a b => ¬ (a.isOperand = true ∧ b.isOperand = true)

/-- **A text that is cut into tokens that are apart is spaced.** -/
theorem Cut.spaced {offset : Nat} {cs : List Char} {ts : List Token} (h : Cut offset cs ts)
    (apart : Apart (ts.map content)) : Spaced cs (ts.map content) := by
  induction h with
  | nil _ => exact .nil
  | blank space _ ih => exact .blank space (ih apart)
  | token whole _ ih =>
      rw [List.map_cons, Apart, List.isChain_cons] at apart
      have rest := ih apart.2
      cases whole with
      | operator operator => exact .operator operator rest
      | operand spells =>
          -- what follows an operand is none, so the operand ends at a boundary
          refine .operand spells (rest.isBoundary fun next mem => ?_) rest
          by_contra isOperand
          exact apart.1 next mem ⟨spells.isOperand, by simpa using isOperand⟩

end Token

/-! ## Expressions -/

/-- Rows that are apart may be joined at what is no operand. -/
theorem Token.Apart.join {left right : List TokenContent} {op : TokenContent}
    (other : op.isOperand = false) (hleft : Apart left) (hright : Apart right) :
    Apart (left ++ op :: right) := by
  refine List.isChain_append.mpr ⟨hleft, List.isChain_cons.mpr ⟨?_, hright⟩, ?_⟩
  · rintro next - ⟨operand, -⟩
    rw [other] at operand
    cases operand
  · rintro last - next mem ⟨-, operand⟩
    cases mem
    rw [other] at operand
    cases operand

theorem Token.Apart.cons {row : List TokenContent} {op : TokenContent}
    (other : op.isOperand = false) (h : Apart row) : Apart (op :: row) :=
  join other .nil h

theorem Token.IsAdditive.isOperand_eq_false {t : Token} (h : t.IsAdditive) :
    t.content.isOperand = false := by
  rcases h with h | h <;> rw [h] <;> rfl

theorem Token.IsMultiplicative.isOperand_eq_false {t : Token} (h : t.IsMultiplicative) :
    t.content.isOperand = false := by
  rcases h with h | h <;> rw [h] <;> rfl

theorem Token.isOperand_eq_false {t : Token} (h : t.IsAdditive ∨ t.IsMultiplicative) :
    t.content.isOperand = false :=
  h.elim IsAdditive.isOperand_eq_false IsMultiplicative.isOperand_eq_false

/-- **Induction along the phrases of a derivation**, whatever strata they are of. -/
@[elab_as_elim]
theorem Derives.phrases {s : Stratum} {ts : List Token} {e : Expr}
    {P : List Token → Expr → Prop}
    (binary : ∀ {left right : List Token} {op : Token} {a b : Expr} (position : Nat),
      op.IsAdditive ∨ op.IsMultiplicative → P left a → P right b →
      P (left ++ op :: right) (.binary position op.kind a b))
    (sign : ∀ {op : Token} {ts : List Token} {e : Expr} (position : Nat),
      op.IsAdditive → P ts e → P (op :: ts) (.unary position op.kind e))
    (literal : ∀ {t : Token} (position : Nat) (value : Number),
      t.content = Lexeme.ofNumber value → P [t] (.literal position value))
    (name : ∀ {t : Token} {text : String} (position : Nat),
      t.content = .name text → P [t] (.name position text))
    (paren : ∀ {opening closing : Token} {ts : List Token} {e : Expr},
      opening.content = .leftParen → closing.content = .rightParen → P ts e →
      P (opening :: (ts ++ [closing])) e)
    (h : Derives s ts e) : P ts e := by
  induction h with
  | sum _ additive _ ihLeft ihRight => exact binary _ (.inl additive) ihLeft ihRight
  | product _ multiplicative _ ihLeft ihRight =>
      exact binary _ (.inr multiplicative) ihLeft ihRight
  | ofProduct _ ih | ofSigned _ ih | ofAtom _ ih => exact ih
  | sign additive _ ih => exact sign _ additive ih
  | @int t n content => exact literal _ (.int n) content
  | @float t x content => exact literal _ (.float x) content
  | name content => exact name _ content
  | paren opening _ closing ih => exact paren opening closing ih

/-- **Phrases of the grammar are apart**: between two operands there is an operator. -/
theorem Derives.apart {s : Stratum} {ts : List Token} {e : Expr} (h : Derives s ts e) :
    Token.Apart (ts.map Token.content) := by
  refine h.phrases ?binary ?sign ?literal ?name ?paren
  case binary =>
    intro left right op a b _ operator ihLeft ihRight
    rw [List.map_append, List.map_cons]
    exact .join (Token.isOperand_eq_false operator) ihLeft ihRight
  case sign => exact fun _ additive ih => .cons additive.isOperand_eq_false ih
  case literal => exact fun _ _ _ => .singleton _
  case name => exact fun _ _ => .singleton _
  case paren =>
    intro opening closing ts e open_ close ih
    rw [List.map_cons, List.map_append, List.map_singleton, open_, close]
    exact .cons rfl (.join rfl ih .nil)

theorem Token.kind_eq_of_content_eq {t u : Token} (h : t.content = u.content) :
    t.kind = u.kind := by
  rw [Token.kind, Token.kind, h]

/-- **The places of tokens do not matter.**  A row with the same contents is derived with a
tree that has the same values. -/
theorem Derives.exists_eval_eq {s : Stratum} {ts us : List Token} {e : Expr}
    (h : Derives s ts e) (same : us.map Token.content = ts.map Token.content) :
    ∃ e', Derives s us e' ∧ ∀ source lookup,
      e'.eval source lookup = e.eval source lookup := by
  induction h generalizing us with
  | @sum left right op a b _ additive _ ihLeft ihRight =>
      rw [List.map_append, List.map_cons] at same
      obtain ⟨left', rest, rfl, hleft, hrest⟩ := List.map_eq_append_iff.mp same
      obtain ⟨op', right', rfl, hop, hright⟩ := List.map_eq_cons_iff.mp hrest
      obtain ⟨a', derives, equal⟩ := ihLeft hleft
      obtain ⟨b', derives', equal'⟩ := ihRight hright
      refine ⟨_, .sum derives (by rwa [Token.IsAdditive, hop]) derives',
        fun source lookup => ?_⟩
      rw [Expr.eval, Expr.eval, equal, equal', Token.kind_eq_of_content_eq hop]
  | @product left right op a b _ multiplicative _ ihLeft ihRight =>
      rw [List.map_append, List.map_cons] at same
      obtain ⟨left', rest, rfl, hleft, hrest⟩ := List.map_eq_append_iff.mp same
      obtain ⟨op', right', rfl, hop, hright⟩ := List.map_eq_cons_iff.mp hrest
      obtain ⟨a', derives, equal⟩ := ihLeft hleft
      obtain ⟨b', derives', equal'⟩ := ihRight hright
      refine ⟨_, .product derives (by rwa [Token.IsMultiplicative, hop]) derives',
        fun source lookup => ?_⟩
      rw [Expr.eval, Expr.eval, equal, equal', Token.kind_eq_of_content_eq hop]
  | ofProduct _ ih =>
      obtain ⟨e', derives, equal⟩ := ih same
      exact ⟨e', .ofProduct derives, equal⟩
  | ofSigned _ ih =>
      obtain ⟨e', derives, equal⟩ := ih same
      exact ⟨e', .ofSigned derives, equal⟩
  | ofAtom _ ih =>
      obtain ⟨e', derives, equal⟩ := ih same
      exact ⟨e', .ofAtom derives, equal⟩
  | @sign op ts e additive _ ih =>
      obtain ⟨op', us, rfl, hop, rest⟩ := List.map_eq_cons_iff.mp same
      obtain ⟨e', derives, equal⟩ := ih rest
      refine ⟨_, .sign (by rwa [Token.IsAdditive, hop]) derives, fun source lookup => ?_⟩
      rw [Expr.eval, Expr.eval, equal, Token.kind_eq_of_content_eq hop]
  | @int t n content =>
      obtain ⟨t', rfl, hop⟩ := List.map_eq_singleton_iff.mp same
      exact ⟨_, .int (hop.trans content), fun _ _ => rfl⟩
  | @float t x content =>
      obtain ⟨t', rfl, hop⟩ := List.map_eq_singleton_iff.mp same
      exact ⟨_, .float (hop.trans content), fun _ _ => rfl⟩
  | @name t text content =>
      obtain ⟨t', rfl, hop⟩ := List.map_eq_singleton_iff.mp same
      exact ⟨_, .name (hop.trans content), fun _ _ => rfl⟩
  | @paren opening closing ts e open_ _ close ih =>
      rw [List.map_cons, List.map_append] at same
      obtain ⟨opening', rest, rfl, sameOpen, hrest⟩ := List.map_eq_cons_iff.mp same
      obtain ⟨inner, last, rfl, inside, hlast⟩ := List.map_eq_append_iff.mp hrest
      obtain ⟨closing', rfl, sameClose⟩ := List.map_eq_singleton_iff.mp hlast
      obtain ⟨e', derives, equal⟩ := ih inside
      exact ⟨e', .paren (sameOpen.trans open_) derives (sameClose.trans close), equal⟩

namespace Expr

/-- **The tokens of a text that forms an expression** are a cut of it which the
grammar derives. -/
theorem derives_of_parse {source : String} {tree : Expr} (h : parse source = .ok tree) :
    ∃ body, Token.scan source = .ok (body ++ [⟨.endMark, source.length, ""⟩]) ∧
      Token.Cut 0 source.toList body ∧ Derives .sum body tree := by
  rw [parse] at h
  cases scanned : Token.scan source with
  | error fault =>
      rw [scanned] at h
      cases h
  | ok tokens =>
      obtain ⟨body, rfl, cut⟩ := Token.cut_of_scan scanned
      cases read : parseTokens source (body ++ [⟨.endMark, source.length, ""⟩]) with
      | error fault =>
          simp [scanned, bind, Except.bind, read] at h
      | ok parsed =>
          simp only [scanned, bind, Except.bind, read, pure, Except.pure,
            Except.ok.injEq] at h
          have derives := derives_of_parseTokens_ok cut.ne_endMark rfl read
          rw [h] at derives
          exact ⟨body, rfl, cut, derives⟩

/-- A text that forms an expression is spaced, with a row of tokens that the
grammar derives. -/
theorem spaced_of_parse {source : String} {tree : Expr} (h : parse source = .ok tree) :
    ∃ ts : List Token, Token.Spaced source.toList (ts.map Token.content) ∧
      Derives .sum ts tree := by
  obtain ⟨body, -, cut, derives⟩ := derives_of_parse h
  exact ⟨body, cut.spaced derives.apart, derives⟩

/-- **A spaced text forms the expression that its row derives**, wherever the tokens stand. -/
theorem parse_of_spaced {cs : List Char} {row : List TokenContent} (h : Token.Spaced cs row)
    {P : Expr → Prop} (derives : ∀ ts : List Token, ts.map Token.content = row →
      ∃ tree, Derives .sum ts tree ∧ P tree) :
    ∃ tree, parse (String.ofList cs) = .ok tree ∧ P tree := by
  obtain ⟨ts, contents, scans⟩ := h.scans 0
  obtain ⟨tree, derivation, holds⟩ := derives ts contents
  refine ⟨tree, ?_, holds⟩
  have read : parseTokens (String.ofList cs) (ts ++ [⟨.endMark, cs.length, ""⟩])
      = .ok ⟨tree, ts.length, ⟨.endMark, cs.length, ""⟩⟩ :=
        parseTokens_of_derives rfl derivation
  rw [parse, scans.scan]
  simp only [bind, Except.bind, read]
  rfl

/-- A text that is spaced in all ways in which another is forms an expression
with the same values. -/
theorem exists_parse_of_spaced {source source' : String} {tree : Expr}
    (h : parse source = .ok tree)
    (spaced : ∀ row, Token.Spaced source.toList row → Token.Spaced source'.toList row) :
    ∃ tree', parse source' = .ok tree' ∧
      ∀ text lookup, tree'.eval text lookup = tree.eval text lookup := by
  obtain ⟨ts, row, derives⟩ := spaced_of_parse h
  rw [← String.ofList_toList (s := source')]
  exact parse_of_spaced (spaced _ row) fun us contents => derives.exists_eval_eq contents

/-- Blanks around a text make no expression of it. -/
theorem exists_parse_of_trim {source : String} {tree : Expr}
    (h : parse (trimString source) = .ok tree) : ∃ tree', parse source = .ok tree' := by
  obtain ⟨tree', parsed, -⟩ := exists_parse_of_spaced h fun row spaced => by
    rwa [trimString, String.toList_ofList, Token.Spaced.trim_iff] at spaced
  exact ⟨tree', parsed⟩

end Expr

/-- A trimmed text is evaluated as it stands. -/
theorem evaluate_of_trim_eq (lookup : Lookup) {cs : List Char} (trimmed : trim cs = cs) :
    evaluate lookup (String.ofList cs) = Expr.evalText lookup (String.ofList cs) := by
  rw [evaluate, trimString, String.toList_ofList, trimmed]

/-- **A text that forms an expression has the value of its tree**, whatever the
blanks around it. -/
theorem evaluate_of_parse (lookup : Lookup) {source : String} {tree : Expr}
    (h : Expr.parse source = .ok tree) :
    evaluate lookup source = tree.eval (trimString source) lookup := by
  obtain ⟨tree', parsed, equal⟩ := Expr.exists_parse_of_spaced h fun row spaced => by
    rwa [← Token.Spaced.trim_iff, ← String.toList_ofList (l := trim source.toList)] at spaced
  rw [evaluate, Expr.evalText, ← equal]
  change Expr.parse (trimString source) = _ at parsed
  rw [parsed]
  rfl

/-- A text with a value forms an expression with this value. -/
theorem exists_parse_of_evaluate_ok {lookup : Lookup} {source : String} {value : Number}
    (h : evaluate lookup source = .ok value) :
    ∃ tree, Expr.parse (trimString source) = .ok tree ∧
      tree.eval (trimString source) lookup = .ok value := by
  rw [evaluate, Expr.evalText] at h
  cases parsed : Expr.parse (trimString source) with
  | error fault =>
      rw [parsed] at h
      cases h
  | ok tree =>
      rw [parsed] at h
      exact ⟨tree, rfl, h⟩

end SketchScreen
