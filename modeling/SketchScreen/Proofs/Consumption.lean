import SketchScreen.Proofs.Descent
import SketchScreen.Proofs.Viability

/-!
# Reading Ends at the First End Mark

Reading a row of tokens by recursive descent ends, if the row ends with an end mark.  The
index never moves back and never beyond the first end mark, every call that returns has taken
a token, and when the whole row is an expression the index is that of the first end mark: all
tokens before it have been used.  The tree and the faults are those of reading token by token.

## Main Definitions

- `EndedRow`: the tokens of a text around their first end mark.
- `EndedRow.Follows`: a call does what reading token by token does.
- `EndedRow.Calls`: what each call does from an index.
- `Descent.Progress`, `Descent.Agrees`: what a run leaves behind.

## Design Notes

The measure is what is left of the row up to the first end mark.  A call either takes a token,
and what is called then begins further on, or hands over at the same index to a call that
comes before it in the order atom, signed operand, operators, so `Calls` at an index follows
from `Calls` further on.

The two ways of reading meet at readings: what a reading has on its stack is what the
calls that have not returned yet still have to do.  A call at a reading therefore leads to
the reading in which its operand is complete, and which operand that is depends on how
tight its operators bind.
-/

namespace SketchScreen

/-! ## Kinds of tokens -/

namespace Token

variable {t : Token}

theorem kind_eq_sign_iff : t.kind = .minus ∨ t.kind = .plus ↔ t.IsAdditive := by
  unfold IsAdditive
  cases content : t.content <;> simp [kind, content, TokenContent.kind]

theorem kind_eq_rightParen_iff : t.kind = .rightParen ↔ t.content = .rightParen := by
  cases content : t.content <;> simp [kind, content, TokenContent.kind]

theorem precedence?_cases (t : Token) :
    Descent.precedence? t.kind = some 1 ∧ t.IsAdditive ∨
      Descent.precedence? t.kind = some 2 ∧ t.IsMultiplicative ∨
      Descent.precedence? t.kind = none := by
  unfold IsAdditive IsMultiplicative
  cases content : t.content <;> simp [kind, content, TokenContent.kind, Descent.precedence?]

end Token

namespace Reading

variable {t : Token}

/-- Inside parentheses, a token that is no operator and does not close them is impossible. -/
theorem step_operator_inside (h : Descent.precedence? t.kind = none)
    (ne : t.kind ≠ .rightParen) (sum : Option Pending) (product : Expr) (level : Level)
    (outer : List Level) :
    (operator sum product (level :: outer)).step t = .fail .closing := by
  cases content : t.content <;>
    simp_all [Token.kind, TokenContent.kind, Descent.precedence?, step, operatorStep]

/-- Outside of parentheses, a token that is no operator stands behind the expression. -/
theorem step_operator_outside (h : Descent.precedence? t.kind = none) (sum : Option Pending)
    (product : Expr) : (operator sum product []).step t = .done (Level.join sum product) := by
  cases content : t.content <;>
    simp_all [Token.kind, TokenContent.kind, Descent.precedence?, step, operatorStep]

end Reading

/-! ## Rows with an end mark -/

/-- The tokens of a text around their first end mark. -/
structure EndedRow where
  source : String
  body : List Token
  stop : Token
  rest : List Token
  body_ne : ∀ t ∈ body, t.content ≠ .endMark
  stop_eq : stop.content = .endMark

namespace EndedRow

/-- All tokens of the row. -/
def tokens (row : EndedRow) : List Token := row.body ++ row.stop :: row.rest

/-- The index of the first end mark. -/
def bound (row : EndedRow) : Nat := row.body.length

/-- A row with an end mark has a first one. -/
theorem exists_of_mem (source : String) {tokens : List Token} {mark : Token}
    (mem : mark ∈ tokens) (h : mark.content = .endMark) :
    ∃ row : EndedRow, row.source = source ∧ row.tokens = tokens ∧
      row.bound = tokens.findIdx fun t => t.content = .endMark := by
  induction tokens with
  | nil => cases mem
  | cons t tokens ih =>
      by_cases ht : t.content = .endMark
      · exact ⟨⟨source, [], t, tokens, by simp, ht⟩, rfl,
          rfl, by simp [bound, List.findIdx_cons, ht]⟩
      · have mem : mark ∈ tokens := by
          rcases List.mem_cons.mp mem with rfl | mem
          · exact absurd h ht
          · exact mem
        obtain ⟨row, -, rfl, place⟩ := ih mem
        have body_ne : ∀ u ∈ t :: row.body, u.content ≠ .endMark :=
          List.forall_mem_cons.mpr ⟨ht, row.body_ne⟩
        refine ⟨⟨source, t :: row.body, row.stop, row.rest, body_ne, row.stop_eq⟩, rfl,
          rfl, ?_⟩
        rw [List.findIdx_cons, ← place]
        simp [bound, ht]

variable {row : EndedRow} {index : Nat} {t : Token}

/-- Up to the first end mark there is a token at every index, and only there an end mark. -/
theorem exists_token (h : index ≤ row.bound) :
    ∃ t, row.tokens[index]? = some t ∧ (t.content = .endMark ↔ index = row.bound) := by
  rcases Nat.lt_or_eq_of_le h with lt | rfl
  · have inside : index < row.body.length := lt
    refine ⟨row.body[index], ?_, ?_⟩
    · rw [tokens, List.getElem?_append_left inside, List.getElem?_eq_getElem inside]
    · exact iff_of_false (row.body_ne _ (List.getElem_mem inside)) (Nat.ne_of_lt lt)
  · exact ⟨row.stop, by simp [tokens, bound], by simp [row.stop_eq]⟩

theorem content_eq_endMark_iff (h : index ≤ row.bound) (ht : row.tokens[index]? = some t) :
    t.content = .endMark ↔ index = row.bound := by
  obtain ⟨u, hu, mark⟩ := exists_token h
  obtain rfl : t = u := Option.some.inj (ht.symm.trans hu)
  exact mark

theorem lt_bound (h : index ≤ row.bound) (ht : row.tokens[index]? = some t)
    (ne : t.content ≠ .endMark) : index < row.bound :=
  Nat.lt_of_le_of_ne h ((content_eq_endMark_iff h ht).not.mp ne)

/-! ### Reading on token by token -/

/-- The outcome of reading on token by token from an index. -/
def read (row : EndedRow) (reading : Reading) (index : Nat) : Except Fault Parsed :=
  Expr.readTokens row.source row.stop reading index (row.tokens.drop index)

theorem drop_eq_cons (ht : row.tokens[index]? = some t) :
    row.tokens.drop index = t :: row.tokens.drop (index + 1) := by
  obtain ⟨bound, rfl⟩ := List.getElem?_eq_some_iff.mp ht
  exact List.drop_eq_getElem_cons bound

section Steps

variable {reading : Reading} (ht : row.tokens[index]? = some t)

include ht

theorem read_of_next {next : Reading} (h : reading.step t = .next next) :
    row.read reading index = row.read next (index + 1) := by
  rw [read, drop_eq_cons ht, Expr.readTokens, h]
  rfl

theorem read_of_done {tree : Expr} (h : reading.step t = .done tree) :
    row.read reading index = .ok ⟨tree, index, t⟩ := by
  rw [read, drop_eq_cons ht, Expr.readTokens, h]

theorem read_of_fail {expected : Expected} (h : reading.step t = .fail expected) :
    row.read reading index
      = .error (.evaluation row.source (some (.unexpectedToken expected t))) := by
  rw [read, drop_eq_cons ht, Expr.readTokens, h]

end Steps

/-- What stands behind the first end mark does not matter. -/
theorem readTokens_append_endMark (source : String) (last last' : Token) (reading : Reading)
    (length : Nat) (body : List Token) {stop : Token} (hstop : stop.content = .endMark)
    (more more' : List Token) :
    Expr.readTokens source last reading length (body ++ stop :: more)
      = Expr.readTokens source last' reading length (body ++ stop :: more') := by
  induction body generalizing reading length with
  | nil =>
      rw [List.nil_append, List.nil_append, Expr.readTokens, Expr.readTokens]
      cases step : reading.step stop with
      | next next => exact absurd step (Reading.step_endMark_ne_next hstop reading next)
      | done tree => rfl
      | fail expected => rfl
  | cons t body ih =>
      rw [List.cons_append, List.cons_append, Expr.readTokens, Expr.readTokens]
      split
      · exact ih _ _
      · rfl
      · rfl

theorem parseStart_eq_read {last : Token} (hlast : row.tokens.getLast? = some last) :
    Expr.parseStart row.source row.tokens = row.read (.operand Level.start []) 0 := by
  rw [Expr.parseStart, hlast]
  show Expr.readTokens row.source last _ 0
    (row.tokens ++ List.replicate row.tokens.length last) = _
  rw [read, List.drop_zero]
  generalize List.replicate row.tokens.length last = more
  rw [tokens, List.append_assoc, List.cons_append]
  exact readTokens_append_endMark _ _ _ _ _ _ row.stop_eq _ _

/-! ### Calls that follow it -/

/-- No operator at the index binds as tight as given. -/
def Loose (row : EndedRow) (precedence index : Nat) : Prop :=
  ∀ t p, row.tokens[index]? = some t → Descent.precedence? t.kind = some p → p < precedence

/-- What a call leaves behind, where reading on token by token has the given result: a tree
and an index at which a reading goes on to the same result, or the fault that is the result.
The index is beyond the base if the call returns, not before it if it fails, and in no case
behind the first end mark. -/
inductive Leaves (row : EndedRow) (base : Nat) (result : Except Fault Parsed)
    (after : Expr → Nat → Reading → Prop) : Except Fault Expr → Nat → Prop where
  | returned {tree : Expr} {stop : Nat} {next : Reading} :
      base < stop → stop ≤ row.bound → after tree stop next → result = row.read next stop →
      Leaves row base result after (.ok tree) stop
  | failed {fault : Fault} {stop : Nat} :
      base ≤ stop → stop ≤ row.bound → result = .error fault →
      Leaves row base result after (.error fault) stop

/-- From an index, a call ends and does what reading on token by token does: if it returns,
then at a reading of which `after` tells. -/
def Follows (row : EndedRow) (d : Nat → Descent Expr) (base : Nat) (reading : Reading)
    (index : Nat) (after : Expr → Nat → Reading → Prop) : Prop :=
  Descent.Ends d index (row.Leaves base (row.read reading index) after)

section Follows

variable {base : Nat} {reading : Reading} {after : Expr → Nat → Reading → Prop}

theorem follows_return {d : Descent Expr} {tree : Expr}
    (returns : d.runAt index = some (.ok tree, index)) (moved : base < index)
    (within : index ≤ row.bound) (h : after tree index reading) :
    row.Follows (fun _ => d) base reading index after :=
  Descent.ends_of_runAt returns (.returned moved within h rfl)

theorem follows_reject (kept : base ≤ index) (within : index ≤ row.bound)
    (ht : row.tokens[index]? = some t) {expected : Expected}
    (h : reading.step t = .fail expected) :
    row.Follows (fun _ => Descent.reject row.source row.tokens expected) base reading index
      after :=
  Descent.ends_of_runAt (Descent.runAt_reject ht expected)
    (.failed kept within (read_of_fail ht h))

theorem follows_current (ht : row.tokens[index]? = some t) {f : Token → Nat → Descent Expr}
    (h : row.Follows (f t) base reading index after) :
    row.Follows (fun depth => Descent.current row.tokens >>= fun t => f t depth) base
      reading index after :=
  .bind_of_ok (Descent.runAt_current ht) h

/-- Taking a token is a step of the reading. -/
theorem follows_advance (ht : row.tokens[index]? = some t) (ne : t.content ≠ .endMark)
    {next : Reading} (step : reading.step t = .next next) {f : Token → Nat → Descent Expr}
    (h : row.Follows (f t) base next (index + 1) after) :
    row.Follows (fun depth => Descent.advance row.tokens >>= fun t => f t depth) base
      reading index after := by
  refine .bind_of_ok (Descent.runAt_advance ht ne) ?_
  rw [read_of_next ht step]
  exact h

/-- A call that goes on after another, at whatever reading that one returns. -/
theorem Follows.bind {d : Nat → Descent Expr} {base' : Nat}
    {after' : Expr → Nat → Reading → Prop}
    (h : row.Follows d base' reading index after') (kept : base ≤ base')
    {f : Expr → Nat → Descent Expr}
    (next : ∀ tree stop reached, base' < stop → stop ≤ row.bound → after' tree stop reached →
      row.Follows (f tree) base reached stop after) :
    row.Follows (fun depth => d depth >>= fun tree => f tree depth) base reading index
      after := by
  refine Descent.Ends.bind h ?_ ?_
  · rintro tree stop ⟨moved, within, done, same⟩
    rw [same]
    exact next _ _ _ moved within done
  · intro fault stop left
    cases left with
    | failed moved within failed => exact .failed (Nat.le_trans kept moved) within failed

theorem Follows.call {d called : Nat → Descent Expr}
    (h : row.Follows called base reading index after)
    (eq : ∀ depth, d (depth + 1) = called depth) : row.Follows d base reading index after :=
  Descent.Ends.call h eq

end Follows

/-! ### What each call does -/

/-- A signed operand has been read. -/
def AfterSigned (level : Level) (outer : List Level) (tree : Expr) (_ : Nat)
    (next : Reading) : Prop :=
  next = .afterOperand tree level outer

/-- A whole product has been read. -/
def AfterProduct (row : EndedRow) (sum : Option Pending) (outer : List Level) (tree : Expr)
    (stop : Nat) (next : Reading) : Prop :=
  next = .operator sum tree outer ∧ row.Loose 2 stop

/-- A whole sum has been read. -/
def AfterSum (row : EndedRow) (outer : List Level) (tree : Expr) (stop : Nat)
    (next : Reading) : Prop :=
  ∃ sum product, next = .operator sum product outer ∧ Level.join sum product = tree ∧
    row.Loose 1 stop

/-- What each call does from an index.  A call for operators is named for what its operators
form: with the tightest operators left out it reads a factor. -/
structure Calls (row : EndedRow) (index : Nat) : Prop where
  unary : ∀ level outer, row.Follows (Descent.unary row.source row.tokens) index
    (.operand level outer) index (AfterSigned level outer)
  factor : ∀ minimum, 3 ≤ minimum → ∀ level outer,
    row.Follows (Descent.binary row.source row.tokens minimum) index
      (.operand level outer) index (AfterSigned level outer)
  product : ∀ sum outer, row.Follows (Descent.binary row.source row.tokens 2) index
    (.operand ⟨sum, none, []⟩ outer) index (row.AfterProduct sum outer)
  sum : ∀ minimum, minimum ≤ 1 → ∀ outer,
    row.Follows (Descent.binary row.source row.tokens minimum) index
      (.operand Level.start outer) index (row.AfterSum outer)
  climbProduct : ∀ base, base < index → ∀ left sum outer,
    row.Follows (Descent.climb row.source row.tokens 2 left) base
      (.operator sum left outer) index (row.AfterProduct sum outer)
  climbSum : ∀ minimum, minimum ≤ 1 → ∀ base, base < index → ∀ sum product outer,
    sum = none ∨ row.Loose 2 index →
    row.Follows (Descent.climb row.source row.tokens minimum (Level.join sum product)) base
      (.operator sum product outer) index (row.AfterSum outer)

theorem Loose.precedence?_eq_none (h : row.Loose 1 index) (ht : row.tokens[index]? = some t) :
    Descent.precedence? t.kind = none := by
  rcases t.precedence?_cases with ⟨one, -⟩ | ⟨two, -⟩ | none
  · exact absurd (h t 1 ht one) (by decide)
  · exact absurd (h t 2 ht two) (by decide)
  · exact none

theorem loose_of_precedence? (ht : row.tokens[index]? = some t) {precedence : Nat}
    (h : ∀ p, Descent.precedence? t.kind = some p → p < precedence) :
    row.Loose precedence index := by
  intro u p hu operator
  obtain rfl : t = u := Option.some.inj (ht.symm.trans hu)
  exact h p operator

/-- Where no operator binds tight enough, the left operand is all there is. -/
theorem follows_climb_of_loose {minimum base : Nat} (hindex : index ≤ row.bound)
    (loose : row.Loose minimum index) (left : Expr) (moved : base < index) {reading : Reading}
    {after : Expr → Nat → Reading → Prop} (h : after left index reading) :
    row.Follows (Descent.climb row.source row.tokens minimum left) base reading index
      after := by
  obtain ⟨t, ht, -⟩ := exists_token hindex
  have returned : row.Follows (fun _ => pure left) base reading index after :=
    follows_return rfl moved hindex h
  refine .call (follows_current ht ?_) (fun _ => by rw [Descent.climb])
  cases operator : Descent.precedence? t.kind with
  | none => simpa only [operator] using returned
  | some p => simpa only [operator, if_pos (loose t p ht operator)] using returned

/-- An operator that binds tight enough is taken, and its right operand read. -/
theorem climb_eq_of_precedence? {precedence minimum : Nat}
    (operator : Descent.precedence? t.kind = some precedence) (tight : minimum ≤ precedence)
    (left : Expr) {base : Nat} {reading : Reading} {after : Expr → Nat → Reading → Prop}
    (ht : row.tokens[index]? = some t)
    (h : row.Follows (fun depth => do
      let _ ← Descent.advance row.tokens
      let right ← Descent.binary row.source row.tokens (precedence + 1) depth
      Descent.climb row.source row.tokens minimum
        (.binary left.position t.kind left right) depth)
      base reading index after) :
    row.Follows (Descent.climb row.source row.tokens minimum left) base reading index
      after := by
  refine .call (follows_current ht ?_) (fun _ => by rw [Descent.climb])
  simpa only [operator, if_neg (Nat.not_lt.mpr tight)] using h

section Step

variable (hindex : index ≤ row.bound) (below : ∀ i, index < i → i ≤ row.bound → row.Calls i)

include hindex below

/-- A token that is no sign begins an atom. -/
theorem follows_primary (ht : row.tokens[index]? = some t) (notSign : ¬ t.IsAdditive)
    (level : Level) (outer : List Level) :
    row.Follows (Descent.primary row.source row.tokens) index (.operand level outer) index
      (AfterSigned level outer) := by
  have leaf : ∀ tree, t.content ≠ .endMark →
      (Reading.operand level outer).step t = .next (.afterOperand tree level outer) →
      row.Follows (fun _ => do let _ ← Descent.advance row.tokens; return tree) index
        (.operand level outer) index (AfterSigned level outer) :=
    fun tree ne step => follows_advance ht ne step
      (follows_return rfl (Nat.lt_succ_self _) (lt_bound hindex ht ne) rfl)
  refine .call (follows_current ht ?_) (fun _ => by rw [Descent.primary])
  cases content : t.content with
  | int n =>
      exact leaf _ (by simp [content]) (by simp [Reading.step, Reading.operandStep, content])
  | float x =>
      exact leaf _ (by simp [content]) (by simp [Reading.step, Reading.operandStep, content])
  | name text =>
      exact leaf _ (by simp [content]) (by simp [Reading.step, Reading.operandStep, content])
  | leftParen =>
      have ne : t.content ≠ .endMark := by simp [content]
      have opens : (Reading.operand level outer).step t
          = .next (.operand Level.start (level :: outer)) := by
        simp [Reading.step, Reading.operandStep, content]
      -- what stands between parentheses is a whole sum, and no operator follows it
      have inside := (below _ (Nat.lt_succ_self _) (lt_bound hindex ht ne)).sum 1
        (Nat.le_refl _) (level :: outer)
      refine follows_advance ht ne opens (inside.bind (Nat.le_succ _) ?_)
      rintro tree stop reached moved within ⟨sum, product, rfl, rfl, loose⟩
      obtain ⟨closing, hclosing, -⟩ := exists_token within
      refine follows_current hclosing ?_
      by_cases kind : closing.kind = .rightParen
      · have content := Token.kind_eq_rightParen_iff.mp kind
        have ne : closing.content ≠ .endMark := by simp [content]
        have closes : (Reading.operator sum product (level :: outer)).step closing
            = .next (.afterOperand (Level.join sum product) level outer) := by
          simp [Reading.step, Reading.operatorStep, content]
        simp only [if_pos kind]
        exact follows_advance hclosing ne closes
          (follows_return rfl (by omega) (lt_bound within hclosing ne) rfl)
      · simp only [if_neg kind]
        exact follows_reject (by omega) within hclosing
          (Reading.step_operator_inside (loose.precedence?_eq_none hclosing) kind ..)
  | plus => exact absurd (Or.inl content) notSign
  | minus => exact absurd (Or.inr content) notSign
  | star | slash | rightParen | endMark =>
      exact follows_reject (Nat.le_refl _) hindex ht
        (by simp [Reading.step, Reading.operandStep, content])

theorem follows_unary (level : Level) (outer : List Level) :
    row.Follows (Descent.unary row.source row.tokens) index (.operand level outer) index
      (AfterSigned level outer) := by
  obtain ⟨t, ht, -⟩ := exists_token hindex
  refine .call (follows_current ht ?_) (fun _ => by rw [Descent.unary])
  by_cases sign : t.kind = .minus ∨ t.kind = .plus
  · have additive := Token.kind_eq_sign_iff.mp sign
    have ne := additive.content_ne_endMark
    have operand := (below _ (Nat.lt_succ_self _) (lt_bound hindex ht ne)).unary
      ⟨level.sum, level.product, (t.position, t.kind) :: level.signs⟩ outer
    simp only [if_pos sign]
    refine follows_advance ht ne (Reading.step_operand_of_isAdditive additive level outer)
      (operand.bind (Nat.le_succ _) ?_)
    rintro tree stop reached moved within rfl
    exact follows_return rfl (Nat.lt_of_succ_lt moved) within rfl
  · simp only [if_neg sign]
    exact follows_primary hindex below ht (Token.kind_eq_sign_iff.not.mp sign) level outer

/-- Behind a `*` or `/` the product so far waits for a signed operand. -/
theorem follows_climb_of_isMultiplicative (ht : row.tokens[index]? = some t)
    (operator : Descent.precedence? t.kind = some 2) (multiplicative : t.IsMultiplicative)
    {minimum base : Nat} (hminimum : minimum ≤ 2) (hbase : base < index)
    {after : Expr → Nat → Reading → Prop} (left : Expr) (sum : Option Pending)
    (outer : List Level) (next : ∀ right stop, index < stop → stop ≤ row.bound →
      row.Follows (Descent.climb row.source row.tokens minimum
        (.binary left.position t.kind left right)) base
        (.operator sum (.binary left.position t.kind left right) outer) stop after) :
    row.Follows (Descent.climb row.source row.tokens minimum left) base
      (.operator sum left outer) index after := by
  have ne := multiplicative.content_ne_endMark
  have factor := (below _ (Nat.lt_succ_self _) (lt_bound hindex ht ne)).factor 3
    (Nat.le_refl _) ⟨sum, some (left, t.kind), []⟩ outer
  refine climb_eq_of_precedence? operator hminimum left ht (follows_advance ht ne
    (Reading.step_operator_of_isMultiplicative multiplicative ..) (factor.bind (by omega) ?_))
  rintro right stop reached moved within rfl
  exact next right stop (Nat.lt_of_succ_lt moved) within

theorem follows_climbProduct (base : Nat) (hbase : base < index) (left : Expr)
    (sum : Option Pending) (outer : List Level) :
    row.Follows (Descent.climb row.source row.tokens 2 left) base
      (.operator sum left outer) index (row.AfterProduct sum outer) := by
  obtain ⟨t, ht, -⟩ := exists_token hindex
  have ends : row.Loose 2 index →
      row.Follows (Descent.climb row.source row.tokens 2 left) base
      (.operator sum left outer) index (row.AfterProduct sum outer) := fun loose =>
    follows_climb_of_loose hindex loose left hbase ⟨rfl, loose⟩
  rcases t.precedence?_cases with ⟨operator, -⟩ | ⟨operator, multiplicative⟩ | operator
  · exact ends (loose_of_precedence? ht (by simp [operator]))
  · exact follows_climb_of_isMultiplicative hindex below ht operator multiplicative
      (Nat.le_refl _) hbase left sum outer fun right stop moved within =>
        (below stop moved within).climbProduct base (Nat.lt_trans hbase moved) _ sum outer
  · exact ends (loose_of_precedence? ht (by simp [operator]))

theorem follows_climbSum (minimum : Nat) (hminimum : minimum ≤ 1) (base : Nat)
    (hbase : base < index) (sum : Option Pending) (product : Expr) (outer : List Level)
    (hsum : sum = none ∨ row.Loose 2 index) :
    row.Follows (Descent.climb row.source row.tokens minimum (Level.join sum product)) base
      (.operator sum product outer) index (row.AfterSum outer) := by
  obtain ⟨t, ht, -⟩ := exists_token hindex
  rcases t.precedence?_cases with ⟨operator, additive⟩ | ⟨operator, multiplicative⟩ | operator
  · -- behind a `+` or `-` the sum so far waits for a product
    have ne := additive.content_ne_endMark
    have product' := (below _ (Nat.lt_succ_self _) (lt_bound hindex ht ne)).product
      (some (Level.join sum product, t.kind)) outer
    refine climb_eq_of_precedence? operator hminimum _ ht (follows_advance ht ne
      (Reading.step_operator_of_isAdditive additive ..) (product'.bind (by omega) ?_))
    rintro right stop reached moved within ⟨rfl, loose⟩
    exact (below stop (Nat.lt_of_succ_lt moved) within).climbSum minimum hminimum base
      (by omega) (some (Level.join sum product, t.kind)) right outer (Or.inr loose)
  · obtain rfl : sum = none := hsum.resolve_right fun loose =>
      absurd (loose t 2 ht operator) (by decide)
    exact follows_climb_of_isMultiplicative hindex below ht operator multiplicative
      (Nat.le_succ_of_le hminimum) hbase product none outer fun right stop moved within =>
        (below stop moved within).climbSum minimum hminimum base (Nat.lt_trans hbase moved)
          none _ outer (Or.inl rfl)
  · have loose : ∀ precedence, row.Loose precedence index := fun _ =>
      loose_of_precedence? ht (by simp [operator])
    exact follows_climb_of_loose hindex (loose minimum) _ hbase
      ⟨sum, product, rfl, rfl, loose 1⟩

/-- No operator binds tighter than a `*` or `/`, so a factor is a signed operand. -/
theorem follows_factor (minimum : Nat) (hminimum : 3 ≤ minimum) (level : Level)
    (outer : List Level) :
    row.Follows (Descent.binary row.source row.tokens minimum) index
      (.operand level outer) index (AfterSigned level outer) := by
  refine .call ((follows_unary hindex below level outer).bind (Nat.le_refl _) ?_)
    (fun _ => by rw [Descent.binary])
  rintro tree stop reached moved within rfl
  have loose : row.Loose minimum stop := fun t p _ operator =>
    Nat.lt_of_lt_of_le (Descent.precedence?_lt_three operator) hminimum
  exact follows_climb_of_loose within loose tree moved rfl

theorem follows_product (sum : Option Pending) (outer : List Level) :
    row.Follows (Descent.binary row.source row.tokens 2) index
      (.operand ⟨sum, none, []⟩ outer) index (row.AfterProduct sum outer) := by
  refine .call ((follows_unary hindex below _ outer).bind (Nat.le_refl _) ?_)
    (fun _ => by rw [Descent.binary])
  rintro tree stop reached moved within rfl
  exact (below stop moved within).climbProduct index moved tree sum outer

theorem follows_sum (minimum : Nat) (hminimum : minimum ≤ 1) (outer : List Level) :
    row.Follows (Descent.binary row.source row.tokens minimum) index
      (.operand Level.start outer) index (row.AfterSum outer) := by
  refine .call ((follows_unary hindex below _ outer).bind (Nat.le_refl _) ?_)
    (fun _ => by rw [Descent.binary])
  rintro tree stop reached moved within rfl
  exact (below stop moved within).climbSum minimum hminimum index moved none tree outer
    (Or.inl rfl)

end Step

/-- **From every index up to the first end mark the calls end and follow reading token by
token**, by induction on what is left of the row. -/
theorem calls (hindex : index ≤ row.bound) : row.Calls index := by
  induction left : row.bound - index using Nat.strongRecOn generalizing index with
  | _ n ih =>
      have below : ∀ i, index < i → i ≤ row.bound → row.Calls i :=
        fun i moved within => ih (row.bound - i) (by omega) within rfl
      exact {
        unary := follows_unary hindex below
        factor := follows_factor hindex below
        product := follows_product hindex below
        sum := follows_sum hindex below
        climbProduct := follows_climbProduct hindex below
        climbSum := follows_climbSum hindex below }

end EndedRow

/-! ## Progress -/

namespace Descent

/-- What a run from an index leaves behind: it has not moved back, nor beyond the bound; if
it returns, it has taken a token; and if it faults, then at a token that is impossible,
never for lack of one. -/
structure Progress (source : String) (bound index : Nat) (outcome : Except Fault Expr)
    (stop : Nat) : Prop where
  le : index ≤ stop
  le_bound : stop ≤ bound
  lt_of_ok : ∀ tree, outcome = .ok tree → index < stop
  fault : ∀ fault, outcome = .error fault →
    ∃ expected found, fault = .evaluation source (some (.unexpectedToken expected found))

/-- A run has the outcome of reading token by token: the same tree after as many
tokens, or the same fault. -/
def Agrees (tokens : List Token) (result : Except Fault Parsed) : Except Fault Expr →
    Nat → Prop
  | .ok tree, stop => ∃ next, tokens[stop]? = some next ∧ result = .ok ⟨tree, stop, next⟩
  | .error fault, _ => result = .error fault

theorem Progress.rejected {source : String} {bound index stop : Nat} {expected : Expected}
    {found : Token} (le : index ≤ stop) (le_bound : stop ≤ bound) :
    Progress source bound index
      (.error (.evaluation source (some (.unexpectedToken expected found)))) stop where
  le := le
  le_bound := le_bound
  lt_of_ok _ same := by cases same
  fault _ same := by
    cases same
    exact ⟨expected, found, rfl⟩

end Descent

namespace EndedRow

open Descent (Progress Agrees)

variable {row : EndedRow} {index : Nat}

theorem Leaves.progress {reading : Reading} {after : Expr → Nat → Reading → Prop}
    {outcome : Except Fault Expr} {stop : Nat}
    (h : row.Leaves index (row.read reading index) after outcome stop) :
    Progress row.source row.bound index outcome stop := by
  cases h with
  | returned moved within _ _ => exact ⟨Nat.le_of_lt moved, within, fun _ _ => moved, by simp⟩
  | failed kept within failed =>
      refine ⟨kept, within, by simp, fun fault same => ?_⟩
      cases same
      exact Expr.readTokens_error failed

theorem Follows.ends_progress {d : Nat → Descent Expr} {reading : Reading}
    {after : Expr → Nat → Reading → Prop} (h : row.Follows d index reading index after) :
    Descent.Ends d index (Progress row.source row.bound index) :=
  Descent.Ends.mono h fun _ _ => Leaves.progress

section Progress

variable (hindex : index ≤ row.bound)

include hindex

theorem ends_advance :
    ∃ t stop, (Descent.advance row.tokens).runAt index = some (.ok t, stop) ∧ index ≤ stop ∧
      stop ≤ row.bound := by
  obtain ⟨t, ht, -⟩ := exists_token hindex
  by_cases mark : t.content = .endMark
  · exact ⟨t, index, Descent.runAt_advance_endMark ht mark, Nat.le_refl _, hindex⟩
  · exact ⟨t, index + 1, Descent.runAt_advance ht mark, Nat.le_succ _,
      lt_bound hindex ht mark⟩

theorem ends_binary (minimum : Nat) :
    Descent.Ends (Descent.binary row.source row.tokens minimum) index
      (Progress row.source row.bound index) := by
  rcases (by omega : minimum ≤ 1 ∨ minimum = 2 ∨ 3 ≤ minimum) with loosest | rfl | tightest
  · exact ((calls hindex).sum minimum loosest []).ends_progress
  · exact ((calls hindex).product none []).ends_progress
  · exact ((calls hindex).factor minimum tightest Level.start []).ends_progress

theorem ends_unary :
    Descent.Ends (Descent.unary row.source row.tokens) index
      (Progress row.source row.bound index) :=
  ((calls hindex).unary Level.start []).ends_progress

theorem ends_primary :
    Descent.Ends (Descent.primary row.source row.tokens) index
      (Progress row.source row.bound index) := by
  obtain ⟨t, ht, -⟩ := exists_token hindex
  by_cases sign : t.IsAdditive
  · -- a sign is no atom, and nothing but `unary` would take it
    have rejected : Descent.Ends (fun _ =>
      Descent.reject row.source row.tokens .operand) index
        (Progress row.source row.bound index) :=
      Descent.ends_of_runAt (Descent.runAt_reject ht .operand)
        (.rejected (Nat.le_refl _) hindex)
    refine .call (.bind_of_ok (Descent.runAt_current ht) ?_)
      (fun _ => by rw [Descent.primary])
    rcases sign with content | content <;> simpa only [content] using rejected
  · exact (follows_primary hindex (fun _ _ within => calls within) ht sign Level.start
      []).ends_progress

end Progress

/-! ## From the beginning of a row -/

variable {last : Token} (hlast : row.tokens.getLast? = some last)

include hlast

/-- The expression that comes first is the one that reading token by token finds. -/
theorem ends_expression :
    Descent.Ends (Descent.expression row.source row.tokens) 0 fun outcome stop =>
      Progress row.source row.bound 0 outcome stop ∧
        Agrees row.tokens (Expr.parseStart row.source row.tokens) outcome stop := by
  have sum := (calls (Nat.zero_le row.bound)).sum 1 (Nat.le_refl _) []
  refine Descent.Ends.mono sum fun outcome stop left => ⟨left.progress, ?_⟩
  rw [parseStart_eq_read hlast]
  cases left with
  | returned moved within done same =>
      obtain ⟨sum, product, rfl, rfl, loose⟩ := done
      obtain ⟨t, ht, -⟩ := exists_token within
      have complete := Reading.step_operator_outside (loose.precedence?_eq_none ht)
        sum product
      exact ⟨t, ht, same.trans (read_of_done ht complete)⟩
  | failed _ _ failed => exact failed

/-- All tokens are read as they are token by token, and up to the first end mark. -/
theorem ends_whole :
    Descent.Ends (Descent.whole row.source row.tokens) 0 fun outcome stop =>
      Progress row.source row.bound 0 outcome stop ∧
      (∀ tree, outcome = .ok tree → stop = row.bound) ∧
        Agrees row.tokens (Expr.parseTokens row.source row.tokens) outcome stop := by
  refine Descent.Ends.bind (ends_expression hlast) ?_ ?_
  · rintro tree stop ⟨progress, t, ht, start⟩
    refine .bind_of_ok (Descent.runAt_current ht) ?_
    rw [Expr.parseTokens, start]
    simp only [bind, Except.bind]
    by_cases kind : t.kind = .endMark
    · have place := (content_eq_endMark_iff progress.le_bound ht).mp
        (Token.kind_eq_endMark_iff.mp kind)
      simp only [if_pos kind]
      exact Descent.ends_of_runAt rfl ⟨progress, fun _ _ => place, t, ht, rfl⟩
    · simp only [if_neg kind]
      exact Descent.ends_of_runAt (Descent.runAt_reject ht .operator)
        ⟨.rejected progress.le progress.le_bound, by simp, rfl⟩
  · rintro fault stop ⟨progress, start⟩
    refine ⟨progress, by simp, ?_⟩
    rw [Expr.parseTokens, start]
    rfl

end EndedRow

namespace Descent

/-- **Reading ends, and it uses every token up to the first end mark.**  Let a row of tokens
end with an end mark; it may hold others.  From every index up to the first of them, taking a
token and every call of `binary`, `unary` and `primary` end, with an index that is not before
the one they began at nor behind the first end mark; the calls that return have taken a token,
and those that fail name an impossible token.  So does reading from the beginning, which finds
the tree of `Expr.parseStart` or of `Expr.parseTokens`, or its fault; and if all tokens form
an expression, the index is that of the first end mark. -/
theorem whole_ends_at_endMark (source : String) (tokens : List Token) (last : Token)
    (hlast : tokens.getLast? = some last) (hend : last.content = .endMark) :
    let bound := tokens.findIdx fun t => t.content = .endMark
    (∀ index ≤ bound,
      (∃ t stop, (advance tokens).runAt index = some (.ok t, stop) ∧
        index ≤ stop ∧ stop ≤ bound) ∧
      (∀ minimum, Ends (binary source tokens minimum) index (Progress source bound index)) ∧
      Ends (unary source tokens) index (Progress source bound index) ∧
      Ends (primary source tokens) index (Progress source bound index)) ∧
    (Ends (expression source tokens) 0 fun outcome stop =>
      Progress source bound 0 outcome stop ∧
        Agrees tokens (Expr.parseStart source tokens) outcome stop) ∧
    Ends (whole source tokens) 0 fun outcome stop =>
      Progress source bound 0 outcome stop ∧ (∀ tree, outcome = .ok tree → stop = bound) ∧
        Agrees tokens (Expr.parseTokens source tokens) outcome stop := by
  obtain ⟨row, rfl, rfl, place⟩ :=
    EndedRow.exists_of_mem source (List.mem_of_getLast? hlast) hend
  simp only [← place]
  refine ⟨fun index hindex => ⟨?_, ?_, ?_, ?_⟩, ?_, ?_⟩
  · exact EndedRow.ends_advance hindex
  · exact EndedRow.ends_binary hindex
  · exact EndedRow.ends_unary hindex
  · exact EndedRow.ends_primary hindex
  · exact EndedRow.ends_expression hlast
  · exact EndedRow.ends_whole hlast

/-- In `-(x)` with a second end mark behind it, reading ends at the first. -/
theorem whole_ends_at_first_of_two :
    let tokens : List Token := [⟨.minus, 0, "-"⟩, ⟨.leftParen, 1, "("⟩, ⟨.name "x", 2, "x"⟩,
      ⟨.rightParen, 3, ")"⟩, ⟨.endMark, 4, ""⟩, ⟨.int 1, 5, "1"⟩, ⟨.endMark, 6, ""⟩]
    tokens.getLast? = some ⟨.endMark, 6, ""⟩ ∧
    (⟨.endMark, 6, ""⟩ : Token).content = .endMark ∧
      Ends (whole "-(x)" tokens) 0 fun outcome stop =>
        outcome = .ok (.unary 0 .minus (.name 2 "x")) ∧ stop = 4 := by
  intro tokens
  obtain ⟨-, -, ends⟩ := whole_ends_at_endMark "-(x)" tokens ⟨.endMark, 6, ""⟩ rfl rfl
  have parsed : Expr.parseTokens "-(x)" tokens
      = .ok ⟨.unary 0 .minus (.name 2 "x"), 4, ⟨.endMark, 4, ""⟩⟩ := rfl
  refine ⟨rfl, rfl, ends.mono ?_⟩
  rintro outcome stop ⟨-, -, agrees⟩
  cases outcome with
  | error fault => cases parsed.symm.trans agrees
  | ok tree =>
      obtain ⟨next, -, same⟩ := agrees
      cases parsed.symm.trans same
      exact ⟨rfl, rfl⟩

end Descent

end SketchScreen
