import Mathlib.Data.List.Basic
import SketchScreen.Expr.Parser

/-!
# The Grammar of Expressions

`Expr.parseTokens` reads tokens one at a time and keeps what waits for an operand on a
stack.  This module says what it reads: the rows of tokens that a left-recursive
grammar of four strata derives,

* a sum is a product, or a sum, a `+` or `-`, and a product;
* a product is a signed operand, or a product, a `*` or `/`, and a signed operand;
* a signed operand is an atom, or a `+` or `-` and a signed operand;
* an atom is a literal, a name, or a sum between parentheses,

each with the tree that the grammar gives it.  Reading accepts a row exactly if the grammar
derives it, and then with the same tree.

## Main Definitions

- `Stratum`, `Derives`: the grammar.
- `Token.leadPosition`: the offset of the first token that is not a parenthesis.
- `Reading.Spells`: which tokens have led to a reading.

## Design Notes

The grammar numbers its nodes by itself: each rule that builds a node looks for the first
token of the phrase that is not a parenthesis.  Reading instead takes the offset of the left
operand, so that the two agree is part of what is proved.

Soundness follows the reading: `Spells` is kept by every step.  Completeness follows the
derivation: whatever surrounds a phrase, reading it completes the operand that it is.
-/

namespace SketchScreen

/-! ## Kinds of tokens in the grammar -/

namespace Token

/-- A `+` or a `-`, which is also a sign. -/
def IsAdditive (t : Token) : Prop := t.content = .plus ∨ t.content = .minus

/-- A `*` or a `/`. -/
def IsMultiplicative (t : Token) : Prop := t.content = .star ∨ t.content = .slash

/-- A parenthesis of either kind. -/
def IsParen (t : Token) : Prop := t.content = .leftParen ∨ t.content = .rightParen

instance (t : Token) : Decidable t.IsParen :=
  inferInstanceAs (Decidable (_ ∨ _))

/-- The offset of the first token that is not a parenthesis, zero if there is none. -/
def leadPosition : List Token → Nat
  | [] => 0
  | t :: ts => if t.IsParen then leadPosition ts else t.position

theorem IsAdditive.not_isParen {t : Token} (h : t.IsAdditive) : ¬ t.IsParen := by
  rcases h with h | h <;> simp [IsParen, h]

theorem IsAdditive.content_ne_endMark {t : Token} (h : t.IsAdditive) :
    t.content ≠ .endMark := by
  rcases h with h | h <;> simp [h]

theorem IsMultiplicative.content_ne_endMark {t : Token} (h : t.IsMultiplicative) :
    t.content ≠ .endMark := by
  rcases h with h | h <;> simp [h]

theorem leadPosition_cons_of_isParen {t : Token} (h : t.IsParen) (ts : List Token) :
    leadPosition (t :: ts) = leadPosition ts := by
  simp [leadPosition, h]

theorem leadPosition_cons_of_not_isParen {t : Token} (h : ¬ t.IsParen) (ts : List Token) :
    leadPosition (t :: ts) = t.position := by
  simp [leadPosition, h]

/-- What follows a token that is not a parenthesis does not matter. -/
theorem leadPosition_append {ts : List Token} (h : ∃ t ∈ ts, ¬ t.IsParen) (us : List Token) :
    leadPosition (ts ++ us) = leadPosition ts := by
  induction ts with
  | nil => simp at h
  | cons t ts ih =>
      by_cases paren : t.IsParen
      · rw [List.cons_append, leadPosition_cons_of_isParen paren,
          leadPosition_cons_of_isParen paren]
        obtain ⟨u, mem, notParen⟩ := h
        refine ih ⟨u, ?_, notParen⟩
        rcases List.mem_cons.mp mem with rfl | mem
        · exact absurd paren notParen
        · exact mem
      · rw [List.cons_append, leadPosition_cons_of_not_isParen paren,
          leadPosition_cons_of_not_isParen paren]

end Token

/-! ## The grammar -/

/-- The strata of the grammar, the loosest first. -/
inductive Stratum where
  | sum
  | product
  | signed
  | atom
deriving DecidableEq, Repr

open Token (leadPosition)

/-- The tokens that the grammar derives, with their trees.  Every rule that builds a node
gives it the offset of the first token of its phrase that is not a parenthesis;
parentheses build none. -/
inductive Derives : Stratum → List Token → Expr → Prop where
  /-- A sum, a `+` or `-`, and a product. -/
  | sum {left right : List Token} {op : Token} {a b : Expr} :
      Derives .sum left a → op.IsAdditive → Derives .product right b →
      Derives .sum (left ++ op :: right)
        (.binary (leadPosition (left ++ op :: right)) op.kind a b)
  | ofProduct {ts : List Token} {e : Expr} : Derives .product ts e → Derives .sum ts e
  /-- A product, a `*` or `/`, and a signed operand. -/
  | product {left right : List Token} {op : Token} {a b : Expr} :
      Derives .product left a → op.IsMultiplicative → Derives .signed right b →
      Derives .product (left ++ op :: right)
        (.binary (leadPosition (left ++ op :: right)) op.kind a b)
  | ofSigned {ts : List Token} {e : Expr} : Derives .signed ts e → Derives .product ts e
  /-- A sign and a signed operand. -/
  | sign {op : Token} {ts : List Token} {e : Expr} :
      op.IsAdditive → Derives .signed ts e →
      Derives .signed (op :: ts) (.unary (leadPosition (op :: ts)) op.kind e)
  | ofAtom {ts : List Token} {e : Expr} : Derives .atom ts e → Derives .signed ts e
  | int {t : Token} {n : Int} :
      t.content = .int n → Derives .atom [t] (.literal (leadPosition [t]) (.int n))
  | float {t : Token} {x : Float} :
      t.content = .float x → Derives .atom [t] (.literal (leadPosition [t]) (.float x))
  | name {t : Token} {text : String} :
      t.content = .name text → Derives .atom [t] (.name (leadPosition [t]) text)
  /-- A sum between parentheses, which leaves no node of its own. -/
  | paren {opening closing : Token} {ts : List Token} {e : Expr} :
      opening.content = .leftParen → Derives .sum ts e → closing.content = .rightParen →
      Derives .atom (opening :: (ts ++ [closing])) e

namespace Derives

/-- A phrase holds a token that is not a parenthesis, and the first of these gives
the offset of its tree. -/
theorem exists_not_isParen_and_position {s : Stratum} {ts : List Token} {e : Expr}
    (h : Derives s ts e) : (∃ t ∈ ts, ¬ t.IsParen) ∧ e.position = leadPosition ts := by
  induction h with
  | @sum left right op a b _ _ _ ihLeft _ =>
      obtain ⟨⟨t, mem, notParen⟩, _⟩ := ihLeft
      exact ⟨⟨t, List.mem_append_left _ mem, notParen⟩, rfl⟩
  | @product left right op a b _ _ _ ihLeft _ =>
      obtain ⟨⟨t, mem, notParen⟩, _⟩ := ihLeft
      exact ⟨⟨t, List.mem_append_left _ mem, notParen⟩, rfl⟩
  | ofProduct _ ih => exact ih
  | ofSigned _ ih => exact ih
  | ofAtom _ ih => exact ih
  | @sign op ts e additive _ _ => exact ⟨⟨op, by simp, additive.not_isParen⟩, rfl⟩
  | @int t n content => exact ⟨⟨t, by simp, by simp [Token.IsParen, content]⟩, rfl⟩
  | @float t x content => exact ⟨⟨t, by simp, by simp [Token.IsParen, content]⟩, rfl⟩
  | @name t text content => exact ⟨⟨t, by simp, by simp [Token.IsParen, content]⟩, rfl⟩
  | @paren opening closing ts e open_ _ _ ih =>
      obtain ⟨⟨t, mem, notParen⟩, position⟩ := ih
      refine ⟨⟨t, by simp [mem], notParen⟩, ?_⟩
      rw [Token.leadPosition_cons_of_isParen (Or.inl open_),
        Token.leadPosition_append ⟨t, mem, notParen⟩, position]

/-- The offset of a left operand is that of the whole phrase. -/
theorem position_eq_leadPosition_append {s : Stratum} {ts : List Token} {e : Expr}
    (h : Derives s ts e) (us : List Token) : e.position = leadPosition (ts ++ us) := by
  obtain ⟨notParen, position⟩ := h.exists_not_isParen_and_position
  rw [Token.leadPosition_append notParen, position]

/-- No phrase holds an end mark. -/
theorem content_ne_endMark {s : Stratum} {ts : List Token} {e : Expr} (h : Derives s ts e) :
    ∀ t ∈ ts, t.content ≠ .endMark := by
  induction h with
  | sum _ additive _ ihLeft ihRight =>
      simp only [List.forall_mem_append, List.forall_mem_cons]
      exact ⟨ihLeft, additive.content_ne_endMark, ihRight⟩
  | product _ multiplicative _ ihLeft ihRight =>
      simp only [List.forall_mem_append, List.forall_mem_cons]
      exact ⟨ihLeft, multiplicative.content_ne_endMark, ihRight⟩
  | ofProduct _ ih => exact ih
  | ofSigned _ ih => exact ih
  | ofAtom _ ih => exact ih
  | sign additive _ ih =>
      simp only [List.forall_mem_cons]
      exact ⟨additive.content_ne_endMark, ih⟩
  | int content => simp [content]
  | float content => simp [content]
  | name content => simp [content]
  | paren open_ _ close ih =>
      simp only [List.forall_mem_cons, List.forall_mem_append, open_, close]
      exact ⟨by simp, ih, by simp⟩

end Derives

/-! ## Readings and the tokens behind them -/

namespace Reading

/-- A left operand that waits, as a phrase of the given stratum followed by its operator. -/
inductive PendingSpells (s : Stratum) (isOperator : Token → Prop) :
    Option Pending → List Token → Prop where
  | none : PendingSpells s isOperator none []
  | some {ts : List Token} {e : Expr} {op : Token} :
      Derives s ts e → isOperator op →
      PendingSpells s isOperator (some (e, op.kind)) (ts ++ [op])

/-- The tokens of the signs in front of an operand; a reading keeps the innermost first. -/
def SignsSpell (signs : List (Nat × TokenKind)) (ts : List Token) : Prop :=
  signs = (ts.map fun t => (t.position, t.kind)).reverse ∧ ∀ t ∈ ts, t.IsAdditive

theorem SignsSpell.nil : SignsSpell [] [] := ⟨rfl, by simp⟩

/-- The tokens that have been read inside one pair of parentheses. -/
inductive LevelSpells : Level → List Token → Prop where
  | mk {level : Level} {sumPart productPart signPart : List Token} :
      PendingSpells .sum Token.IsAdditive level.sum sumPart →
      PendingSpells .product Token.IsMultiplicative level.product productPart →
      SignsSpell level.signs signPart →
      LevelSpells level (sumPart ++ productPart ++ signPart)

/-- The tokens up to the innermost parenthesis that is open, the outermost level last. -/
inductive OuterSpells : List Level → List Token → Prop where
  | nil : OuterSpells [] []
  | cons {level : Level} {outer : List Level} {ts us : List Token} {opening : Token} :
      OuterSpells outer ts → LevelSpells level us → opening.content = .leftParen →
      OuterSpells (level :: outer) (ts ++ us ++ [opening])

/-- The tokens that have led to a reading. -/
inductive Spells : Reading → List Token → Prop where
  | operand {level : Level} {outer : List Level} {ts us : List Token} :
      OuterSpells outer ts → LevelSpells level us → Spells (operand level outer) (ts ++ us)
  | operator {sum : Option Pending} {product : Expr} {outer : List Level}
      {ts sumPart us : List Token} :
      OuterSpells outer ts → PendingSpells .sum Token.IsAdditive sum sumPart →
      Derives .product us product →
      Spells (operator sum product outer) (ts ++ sumPart ++ us)

/-- Nothing has been read of an expression that has not begun. -/
theorem LevelSpells.start : LevelSpells Level.start [] := by
  have empty : LevelSpells Level.start _ := .mk .none .none .nil
  simpa using empty

/-! ### What the operations on levels spell -/

/-- Signs in front of an operand. -/
theorem derives_sign {signs : List (Nat × TokenKind)} {ts us : List Token} {e : Expr}
    (hsigns : SignsSpell signs ts) (h : Derives .signed us e) :
    Derives .signed (ts ++ us) (Level.sign signs e) := by
  obtain ⟨rfl, additive⟩ := hsigns
  induction ts with
  | nil => exact h
  | cons t ts ih =>
      have inner := ih fun u mem => additive u (List.mem_cons_of_mem _ mem)
      have first := additive t List.mem_cons_self
      have tree : Level.sign (((t :: ts).map fun t => (t.position, t.kind)).reverse) e
          = .unary t.position t.kind
              (Level.sign ((ts.map fun t => (t.position, t.kind)).reverse) e) := by
        simp [Level.sign]
      rw [tree, ← Token.leadPosition_cons_of_not_isParen first.not_isParen (ts ++ us)]
      exact .sign first inner

/-- A signed operand completes the product that waits for it. -/
theorem derives_join_product {product : Option Pending} {ts us : List Token} {e : Expr}
    (hproduct : PendingSpells .product Token.IsMultiplicative product ts)
    (h : Derives .signed us e) : Derives .product (ts ++ us) (Level.join product e) := by
  cases hproduct with
  | none => exact .ofSigned h
  | @some left a op hleft multiplicative =>
      have node := Derives.product hleft multiplicative h
      rw [← hleft.position_eq_leadPosition_append] at node
      simpa [Level.join] using node

/-- A product completes the sum that waits for it. -/
theorem derives_join_sum {sum : Option Pending} {ts us : List Token} {e : Expr}
    (hsum : PendingSpells .sum Token.IsAdditive sum ts) (h : Derives .product us e) :
    Derives .sum (ts ++ us) (Level.join sum e) := by
  cases hsum with
  | none => exact .ofProduct h
  | @some left a op hleft additive =>
      have node := Derives.sum hleft additive h
      rw [← hleft.position_eq_leadPosition_append] at node
      simpa [Level.join] using node

/-- An atom where an operand comes next leads to a reading that waits for an operator. -/
theorem spells_afterOperand {level : Level} {outer : List Level} {ts us vs : List Token}
    {e : Expr} (houter : OuterSpells outer ts) (hlevel : LevelSpells level us)
    (h : Derives .atom vs e) :
    Spells (afterOperand e level outer) (ts ++ us ++ vs) := by
  obtain ⟨hsum, hproduct, hsigns⟩ := hlevel
  have complete := derives_join_product hproduct (derives_sign hsigns (.ofAtom h))
  simpa [afterOperand, Level.complete] using Spells.operator houter hsum complete

/-! ### Soundness: every step keeps what a reading spells -/

/-- A token where an operand comes next. -/
theorem spells_operandStep {level : Level} {outer : List Level} {ts us : List Token}
    {t : Token} {next : Reading} (houter : OuterSpells outer ts)
    (hlevel : LevelSpells level us) (hstep : operandStep level outer t = .next next) :
    Spells next (ts ++ us ++ [t]) := by
  have atom_position : ¬ t.IsParen → t.position = Token.leadPosition [t] := fun notParen =>
    (Token.leadPosition_cons_of_not_isParen notParen []).symm
  have signed : t.IsAdditive →
      Spells (operand ⟨level.sum, level.product, (t.position, t.kind) :: level.signs⟩ outer)
        (ts ++ us ++ [t]) := by
    intro additive
    obtain @⟨_, _, signPart, hsum, hproduct, hsigns, allAdditive⟩ := hlevel
    have hsigns' : SignsSpell ((t.position, t.kind) :: level.signs) (signPart ++ [t]) := by
      refine ⟨by simp [hsigns], fun u mem => ?_⟩
      rcases List.mem_append.mp mem with mem | mem
      · exact allAdditive u mem
      · rw [List.mem_singleton.mp mem]
        exact additive
    have hlevel : LevelSpells ⟨level.sum, level.product,
        (t.position, t.kind) :: level.signs⟩ _ :=
      .mk hsum hproduct hsigns'
    simpa using Spells.operand houter hlevel
  -- the cases follow the kinds of tokens: literals and names, signs, an opening parenthesis
  unfold operandStep at hstep
  split at hstep
  case h_1 n content =>
      cases hstep
      rw [atom_position (by simp [Token.IsParen, content])]
      exact spells_afterOperand houter hlevel (.int content)
  case h_2 x content =>
      cases hstep
      rw [atom_position (by simp [Token.IsParen, content])]
      exact spells_afterOperand houter hlevel (.float content)
  case h_3 text content =>
      cases hstep
      rw [atom_position (by simp [Token.IsParen, content])]
      exact spells_afterOperand houter hlevel (.name content)
  case h_4 content =>
      cases hstep
      exact signed (Or.inl content)
  case h_5 content =>
      cases hstep
      exact signed (Or.inr content)
  case h_6 content =>
      cases hstep
      simpa using Spells.operand (OuterSpells.cons houter hlevel content) LevelSpells.start
  case h_7 => cases hstep

/-- A token where an operator comes next. -/
theorem spells_operatorStep {sum : Option Pending} {product : Expr} {outer : List Level}
    {ts sumPart us : List Token} {t : Token} {next : Reading} (houter : OuterSpells outer ts)
    (hsum : PendingSpells .sum Token.IsAdditive sum sumPart)
    (hproduct : Derives .product us product)
    (hstep : operatorStep sum product outer t = .next next) :
    Spells next (ts ++ sumPart ++ us ++ [t]) := by
  have multiplied : t.IsMultiplicative →
      Spells (operand ⟨sum, some (product, t.kind), []⟩ outer)
        (ts ++ sumPart ++ us ++ [t]) := by
    intro multiplicative
    have hlevel : LevelSpells ⟨sum, some (product, t.kind), []⟩ _ :=
      .mk hsum (.some hproduct multiplicative) .nil
    simpa using Spells.operand houter hlevel
  have added : t.IsAdditive →
      Spells (operand ⟨some (Level.join sum product, t.kind), none, []⟩ outer)
        (ts ++ sumPart ++ us ++ [t]) := by
    intro additive
    have hlevel : LevelSpells ⟨some (Level.join sum product, t.kind), none, []⟩ _ :=
      .mk (.some (derives_join_sum hsum hproduct) additive) .none .nil
    simpa using Spells.operand houter hlevel
  -- a `*` or `/`, a `+` or `-`, a closing parenthesis with one open, and then
  -- what ends the row
  unfold operatorStep at hstep
  split at hstep
  case h_1 content =>
      cases hstep
      exact multiplied (Or.inl content)
  case h_2 content =>
      cases hstep
      exact multiplied (Or.inr content)
  case h_3 content =>
      cases hstep
      exact added (Or.inl content)
  case h_4 content =>
      cases hstep
      exact added (Or.inr content)
  case h_5 level outer content =>
      cases hstep
      cases houter with
      | cons houter hlevel opening =>
          have atom := Derives.paren opening (derives_join_sum hsum hproduct) content
          simpa using spells_afterOperand houter hlevel atom
  case h_6 => cases hstep
  case h_7 => cases hstep

/-- **One step keeps what a reading spells.** -/
theorem Spells.step {reading next : Reading} {ts : List Token} {t : Token}
    (h : Spells reading ts) (hstep : reading.step t = .next next) :
    Spells next (ts ++ [t]) := by
  cases h with
  | operand houter hlevel => exact spells_operandStep houter hlevel hstep
  | operator houter hsum hproduct => exact spells_operatorStep houter hsum hproduct hstep

/-- A reading that is done has read a sum. -/
theorem Spells.derives_of_done {reading : Reading} {ts : List Token} {t : Token} {tree : Expr}
    (h : Spells reading ts) (hstep : reading.step t = .done tree) : Derives .sum ts tree := by
  cases h with
  | operand houter hlevel =>
      simp only [Reading.step, operandStep] at hstep
      split at hstep <;> cases hstep
  | operator houter hsum hproduct =>
      simp only [Reading.step, operatorStep] at hstep
      split at hstep <;> cases hstep
      cases houter
      simpa using derives_join_sum hsum hproduct

end Reading

/-! ## Completeness: a phrase is read wherever it stands -/

namespace Reading

/-- The reading after a row of tokens that all belong to the expression. -/
def after? : Reading → List Token → Option Reading
  | reading, [] => some reading
  | reading, t :: ts =>
    match reading.step t with
    | .next next => after? next ts
    | _ => none

theorem after?_cons_of_next {reading next : Reading} {t : Token}
    (h : reading.step t = .next next) (ts : List Token) :
    after? reading (t :: ts) = after? next ts := by
  simp [after?, h]

theorem after?_append (reading : Reading) (ts us : List Token) :
    after? reading (ts ++ us) = (after? reading ts).bind fun next => after? next us := by
  induction ts generalizing reading with
  | nil => rfl
  | cons t ts ih =>
      rw [List.cons_append]
      simp only [after?]
      split
      · exact ih _
      · rfl

/-- What reading a phrase of a stratum does, whatever has been read before it. -/
def Completes : Stratum → List Token → Expr → Prop
  | .sum, ts, e => ∀ outer, ∃ sum product,
      after? (operand Level.start outer) ts = some (operator sum product outer) ∧
        Level.join sum product = e
  | .product, ts, e => ∀ sum outer,
      after? (operand ⟨sum, none, []⟩ outer) ts = some (operator sum e outer)
  | .signed, ts, e | .atom, ts, e => ∀ level outer,
      after? (operand level outer) ts = some (afterOperand e level outer)

/-- A `+` or `-` after an operand makes the sum so far wait. -/
theorem step_operator_of_isAdditive {t : Token} (h : t.IsAdditive) (sum : Option Pending)
    (product : Expr) (outer : List Level) :
    (operator sum product outer).step t
      = .next (operand ⟨some (Level.join sum product, t.kind), none, []⟩ outer) := by
  rcases h with h | h <;> simp [step, operatorStep, h]

/-- A `*` or `/` after an operand makes the product so far wait. -/
theorem step_operator_of_isMultiplicative {t : Token} (h : t.IsMultiplicative)
    (sum : Option Pending) (product : Expr) (outer : List Level) :
    (operator sum product outer).step t
      = .next (operand ⟨sum, some (product, t.kind), []⟩ outer) := by
  rcases h with h | h <;> simp [step, operatorStep, h]

/-- A `+` or `-` where an operand comes next is a sign. -/
theorem step_operand_of_isAdditive {t : Token} (h : t.IsAdditive) (level : Level)
    (outer : List Level) :
    (operand level outer).step t
      = .next (operand ⟨level.sum, level.product, (t.position, t.kind) :: level.signs⟩
        outer) := by
  rcases h with h | h <;> simp [step, operandStep, h]

/-- **Every phrase of the grammar is read**, by induction on its derivation. -/
theorem completes_of_derives {s : Stratum} {ts : List Token} {e : Expr} (h : Derives s ts e) :
    Completes s ts e := by
  induction h with
  | @sum left right op a b hleft additive hright ihLeft ihRight =>
      intro outer
      obtain ⟨sum, product, reads, tree⟩ := ihLeft outer
      refine ⟨some (a, op.kind), b, ?_, ?_⟩
      · -- the sum on the left is complete once its operator comes, and waits for
        -- the right operand
        rw [after?_append, reads, Option.bind_some,
          after?_cons_of_next (step_operator_of_isAdditive additive sum product outer), tree]
        exact ihRight _ outer
      · rw [Level.join, hleft.position_eq_leadPosition_append]
  | ofProduct _ ih => exact fun outer => ⟨none, _, ih none outer, rfl⟩
  | @product left right op a b hleft multiplicative hright ihLeft ihRight =>
      intro sum outer
      rw [after?_append, ihLeft sum outer, Option.bind_some,
        after?_cons_of_next (step_operator_of_isMultiplicative multiplicative sum a outer),
        ihRight _ outer]
      simp only [afterOperand, Level.complete, Level.sign, List.foldl_nil, Level.join]
      rw [hleft.position_eq_leadPosition_append]
  | ofSigned _ ih => exact fun sum outer => ih ⟨sum, none, []⟩ outer
  | @sign op ts e additive _ ih =>
      intro level outer
      rw [after?_cons_of_next (step_operand_of_isAdditive additive level outer), ih _ outer,
        Token.leadPosition_cons_of_not_isParen additive.not_isParen]
      rfl
  | ofAtom _ ih => exact ih
  | int content =>
      intro level outer
      simp [after?, step, operandStep, content, leadPosition, Token.IsParen]
  | float content =>
      intro level outer
      simp [after?, step, operandStep, content, leadPosition, Token.IsParen]
  | name content =>
      intro level outer
      simp [after?, step, operandStep, content, leadPosition, Token.IsParen]
  | @paren opening closing ts e open_ _ close ih =>
      intro level outer
      -- what is pending outside is kept on the stack while the sum between the two is read
      obtain ⟨sum, product, reads, tree⟩ := ih (level :: outer)
      have opened : (operand level outer).step opening
          = .next (operand Level.start (level :: outer)) := by
        simp [step, operandStep, open_]
      have closed : (operator sum product (level :: outer)).step closing
          = .next (afterOperand (Level.join sum product) level outer) := by
        simp [step, operatorStep, close]
      rw [after?_cons_of_next opened, after?_append, reads, Option.bind_some,
        after?_cons_of_next closed, tree]
      rfl

end Reading

/-! ## Reading a whole row -/

namespace Expr

/-- Tokens that belong to the expression are read before the rest. -/
theorem readTokens_append_of_after? {source : String} {last : Token} {reading next : Reading}
    {ts : List Token} (h : reading.after? ts = some next) (length : Nat) (us : List Token) :
    readTokens source last reading length (ts ++ us)
      = readTokens source last next (length + ts.length) us := by
  induction ts generalizing reading length with
  | nil =>
      cases h
      rfl
  | cons t ts ih =>
      simp only [Reading.after?] at h
      split at h
      · rename_i following hstep
        rw [List.cons_append, readTokens]
        simp only [hstep]
        rw [ih h, List.length_cons, Nat.add_assoc, Nat.add_comm 1]
      · cases h

/-- What is read is the phrase before the token that ends it. -/
theorem derives_of_readTokens_ok {source : String} {last : Token} {reading : Reading}
    {length : Nat} {ts us : List Token} {parsed : Parsed} (hspells : reading.Spells ts)
    (h : readTokens source last reading length us = .ok parsed) :
    ∃ phrase rest, us = phrase ++ parsed.next :: rest ∧
      Derives .sum (ts ++ phrase) parsed.tree := by
  induction us generalizing reading length ts with
  | nil => cases h
  | cons u us ih =>
      rw [readTokens] at h
      split at h
      · rename_i next hstep
        obtain ⟨phrase, rest, rfl, derives⟩ := ih (hspells.step hstep) h
        exact ⟨u :: phrase, rest, by simp, by simpa using derives⟩
      · rename_i tree hstep
        cases h
        exact ⟨[], us, rfl, by simpa using hspells.derives_of_done hstep⟩
      · cases h

/-- Every fault of reading is one of the expression. -/
theorem readTokens_error {source : String} {last : Token} {reading : Reading} {length : Nat}
    {ts : List Token} {fault : Fault}
    (h : readTokens source last reading length ts = .error fault) :
    ∃ expected found, fault
      = .evaluation source (some (.unexpectedToken expected found)) := by
  induction ts generalizing reading length with
  | nil =>
      cases h
      exact ⟨_, _, rfl⟩
  | cons t ts ih =>
      rw [readTokens] at h
      split at h
      · exact ih h
      · cases h
      · cases h
        exact ⟨_, _, rfl⟩

/-- A row that ends is read from its first token on. -/
theorem parseStart_append_singleton (source : String) (body : List Token) (stop : Token) :
    parseStart source (body ++ [stop])
      = readTokens source stop (.operand Level.start []) 0
          (body ++ stop :: List.replicate (body.length + 1) stop) := by
  simp [parseStart]

section ClosedRow

variable {source : String} {body : List Token} {stop : Token}

/-- **Completeness.**  A row that the grammar derives is read with its tree. -/
theorem parseTokens_of_derives (hstop : stop.content = .endMark) {tree : Expr}
    (h : Derives .sum body tree) :
    parseTokens source (body ++ [stop]) = .ok ⟨tree, body.length, stop⟩ := by
  obtain ⟨sum, product, reads, rfl⟩ := Reading.completes_of_derives h []
  have done : (Reading.operator sum product []).step stop
      = .done (Level.join sum product) := by
    simp [Reading.step, Reading.operatorStep, hstop]
  have start : parseStart source (body ++ [stop])
      = .ok ⟨Level.join sum product, body.length, stop⟩ := by
    rw [parseStart_append_singleton, readTokens_append_of_after? reads, readTokens]
    simp [done]
  have kind : stop.kind = .endMark := by simp [Token.kind, hstop, TokenContent.kind]
  rw [parseTokens, start]
  simp [bind, Except.bind, kind, pure, Except.pure]

/-- The two rows before the first end mark of a row are the same. -/
theorem eq_of_append_endMark {ts us rest rest' : List Token} {t u : Token}
    (hts : ∀ x ∈ ts, x.content ≠ .endMark) (hus : ∀ x ∈ us, x.content ≠ .endMark)
    (ht : t.content = .endMark) (hu : u.content = .endMark)
    (h : ts ++ t :: rest = us ++ u :: rest') : ts = us := by
  have cut : ∀ {vs more : List Token} {v : Token}, (∀ x ∈ vs, x.content ≠ .endMark) →
      v.content = .endMark →
      (vs ++ v :: more).takeWhile (fun x => x.content ≠ .endMark) = vs := by
    intro vs more v hvs hv
    rw [List.takeWhile_append_of_pos (by simpa using hvs)]
    simp [hv]
  rw [← cut hts ht, h, cut hus hu]

/-- **Soundness.**  A row that is read is one that the grammar derives, with the same tree. -/
theorem derives_of_parseTokens_ok (hbody : ∀ t ∈ body, t.content ≠ .endMark)
    (hstop : stop.content = .endMark) {parsed : Parsed}
    (h : parseTokens source (body ++ [stop]) = .ok parsed) :
    Derives .sum body parsed.tree := by
  rw [parseTokens] at h
  cases hstart : parseStart source (body ++ [stop]) with
  | error fault =>
      rw [hstart] at h
      cases h
  | ok start =>
      simp only [hstart, bind, Except.bind] at h
      split at h
      · rename_i kind
        cases h
        rw [parseStart_append_singleton] at hstart
        obtain ⟨phrase, rest, row, derives⟩ :=
          derives_of_readTokens_ok (Reading.Spells.operand .nil .start) hstart
        have next : parsed.next.content = .endMark := by
          cases content : parsed.next.content <;> simp_all [Token.kind, TokenContent.kind]
        have same : body = phrase :=
          eq_of_append_endMark hbody derives.content_ne_endMark hstop next row
        rw [same]
        exact derives
      · cases h

/-- Every fault of a row that ends is one of the expression. -/
theorem parseTokens_error {fault : Fault}
    (h : parseTokens source (body ++ [stop]) = .error fault) :
    ∃ reason, fault = .evaluation source (some reason) := by
  rw [parseTokens] at h
  cases hstart : parseStart source (body ++ [stop]) with
  | error cause =>
      rw [hstart] at h
      cases h
      rw [parseStart_append_singleton] at hstart
      obtain ⟨expected, found, rfl⟩ := readTokens_error hstart
      exact ⟨_, rfl⟩
  | ok start =>
      simp only [hstart, bind, Except.bind] at h
      split at h
      · cases h
      · cases h
        exact ⟨_, rfl⟩

/-- **Reading accepts exactly the grammar, and builds its trees.**  A row of tokens closed by
its only end mark is read with a tree if and only if the grammar derives the tokens before the
end mark with that tree; every other such row is a fault of the expression. -/
theorem parseTokens_ok_iff_derives (source : String) (body : List Token) (stop : Token)
    (hbody : ∀ t ∈ body, t.content ≠ .endMark) (hstop : stop.content = .endMark) :
    (∀ tree, (∃ parsed, parseTokens source (body ++ [stop]) = .ok parsed ∧
      parsed.tree = tree) ↔
        Derives .sum body tree) ∧
      ((¬ ∃ tree, Derives .sum body tree) →
        ∃ reason, parseTokens source (body ++ [stop])
          = .error (.evaluation source (some reason))) := by
  refine ⟨fun tree => ⟨?_, ?_⟩, fun none => ?_⟩
  · rintro ⟨parsed, hparsed, rfl⟩
    exact derives_of_parseTokens_ok hbody hstop hparsed
  · intro derives
    exact ⟨_, parseTokens_of_derives hstop derives, rfl⟩
  · cases h : parseTokens source (body ++ [stop]) with
    | ok parsed => exact absurd ⟨_, derives_of_parseTokens_ok hbody hstop h⟩ none
    | error fault =>
        obtain ⟨reason, rfl⟩ := parseTokens_error h
        exact ⟨reason, rfl⟩

/-- The row `(2 - x) * 3`: the parentheses leave no node, and both operations
start at the `2`. -/
theorem derives_product_of_difference :
    Derives .sum
      [⟨.leftParen, 0, "("⟩, ⟨.int 2, 1, "2"⟩, ⟨.minus, 3, "-"⟩, ⟨.name "x", 5, "x"⟩,
        ⟨.rightParen, 6, ")"⟩, ⟨.star, 8, "*"⟩, ⟨.int 3, 10, "3"⟩]
      (.binary 1 .star (.binary 1 .minus (.literal 1 2) (.name 5 "x")) (.literal 10 3)) :=
  ((parseTokens_ok_iff_derives "(2 - x) * 3" _ ⟨.endMark, 11, ""⟩ (by decide) rfl).1 _).mp
    ⟨_, rfl, rfl⟩

end ClosedRow

end Expr

end SketchScreen
