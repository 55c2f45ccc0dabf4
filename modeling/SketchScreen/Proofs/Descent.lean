import Mathlib.Logic.Basic
import SketchScreen.Expr.Parser

/-!
# Reading by Recursive Descent

`Expr.parseTokens` reads a row of tokens with a stack of what waits for an operand.  This
module reads it the other way: with one function for each way an expression can begin, which
call each other and share an index into the row.  Operators are climbed by their precedence.

## Main Definitions

- `Descent`: computations that move an index and may fault.
- `Descent.binary`, `Descent.climb`, `Descent.unary`, `Descent.primary`: the functions.
- `Descent.expression`, `Descent.whole`: the expression at the start of a row,
  and that of all its tokens.
- `Descent.Ends`: a computation ends, and what it leaves behind.

## Design Notes

Nothing in the functions themselves makes them end: behind the row the last token comes
again and again, so in a row that ended in a sign `unary` would call itself forever.  Each
function is therefore given for every depth to which calls may nest, a round of a loop
counted as a call, and it ends if from some depth on its outcome stays the same.  That this
happens is a statement to be proved.

A fault keeps the index at which it was found, so that statements about the
index cover failing runs.
-/

namespace SketchScreen

theorem Token.kind_eq_endMark_iff {t : Token} : t.kind = .endMark ↔ t.content = .endMark := by
  cases content : t.content <;> simp [kind, content, TokenContent.kind]

/-- A computation that moves an index along a row of tokens.  It may fault, which
keeps the index where it was then, and its calls may nest deeper than they are
allowed to, which is `none`. -/
abbrev Descent := ExceptT Fault (StateT Nat Option)

namespace Descent

/-! ## Reading by recursive descent -/

section Definitions

variable (source : String) (tokens : List Token)

/-- The token at the index; behind the row it is the last token again, which an
empty row lacks. -/
def current : Descent Token := do
  let index ← get
  match tokens[index]?.or tokens.getLast? with
  | some t => return t
  | none => throw .noTokens

/-- Takes a token; an end mark stays where it is. -/
def advance : Descent Token := do
  let t ← current tokens
  if t.kind = .endMark then return t
  else
    modify (· + 1)
    return t

/-- The fault at the token that comes next. -/
def reject (expected : Expected) : Descent Expr := do
  let t ← current tokens
  throw (.evaluation source (some (.unexpectedToken expected t)))

/-- How tight an operator binds. -/
def precedence? : TokenKind → Option Nat
  | .plus | .minus => some 1
  | .star | .slash => some 2
  | _ => none

/-- No call is allowed. -/
def tooDeep : Descent Expr := ExceptT.mk fun _ => none

mutual

/-- Operands with operators between them that bind at least as tight as given. -/
def binary (minimum : Nat) : (depth : Nat) → Descent Expr
  | 0 => tooDeep
  | depth + 1 => do
    let left ← unary depth
    climb minimum left depth

/-- Operators behind a left operand, each with its right operand. -/
def climb (minimum : Nat) (left : Expr) : (depth : Nat) → Descent Expr
  | 0 => tooDeep
  | depth + 1 => do
    let operator ← current tokens
    match precedence? operator.kind with
    | none => return left
    | some precedence =>
      if precedence < minimum then return left
      else
        let _ ← advance tokens
        let right ← binary (precedence + 1) depth
        climb minimum (.binary left.position operator.kind left right) depth

/-- An atom with the signs in front of it. -/
def unary : (depth : Nat) → Descent Expr
  | 0 => tooDeep
  | depth + 1 => do
    let t ← current tokens
    if t.kind = .minus ∨ t.kind = .plus then
      let operator ← advance tokens
      let operand ← unary depth
      return .unary operator.position operator.kind operand
    else primary depth

/-- A literal, a name, or an expression between parentheses. -/
def primary : (depth : Nat) → Descent Expr
  | 0 => tooDeep
  | depth + 1 => do
    let t ← current tokens
    match t.content with
    | .int n =>
      let _ ← advance tokens
      return .literal t.position (.int n)
    | .float x =>
      let _ ← advance tokens
      return .literal t.position (.float x)
    | .name text =>
      let _ ← advance tokens
      return .name t.position text
    | .leftParen =>
      let _ ← advance tokens
      let inner ← binary 1 depth
      let closing ← current tokens
      if closing.kind = .rightParen then
        let _ ← advance tokens
        return inner
      else reject source tokens .closing
    | _ => reject source tokens .operand

end

/-- The expression that comes next. -/
def expression (depth : Nat) : Descent Expr := binary source tokens 1 depth

/-- The expression that all tokens form. -/
def whole (depth : Nat) : Descent Expr := do
  let tree ← expression source tokens depth
  let t ← current tokens
  if t.kind = .endMark then return tree
  else reject source tokens .operator

end Definitions

/-- No operator binds tighter than a `*` or `/`. -/
theorem precedence?_lt_three {kind : TokenKind} {p : Nat} (h : precedence? kind = some p) :
    p < 3 := by
  cases kind <;> simp [precedence?] at h <;> omega

/-! ## Runs from an index -/

section Running

variable {α β : Type}

/-- The outcome of a computation from an index and the index it moves to, if its
calls may nest so deep. -/
def runAt (d : Descent α) (index : Nat) : Option (Except Fault α × Nat) :=
  (ExceptT.run d).run index

/-- From an index a computation ends: if its calls may nest deep enough, it leaves what is
asked for, and the same however much deeper they may. -/
def Ends (d : Nat → Descent α) (index : Nat) (post : Except Fault α → Nat → Prop) : Prop :=
  ∃ outcome stop, post outcome stop ∧
    ∃ enough, ∀ depth, enough ≤ depth → (d depth).runAt index = some (outcome, stop)

theorem runAt_bind (d : Descent α) (f : α → Descent β) (index : Nat) :
    (d >>= f).runAt index = (d.runAt index).bind fun r =>
      match r.1 with
      | .ok a => (f a).runAt r.2
      | .error fault => some (.error fault, r.2) := by
  show Option.bind (d.runAt index) _ = _
  congr 1
  funext r
  rcases r with ⟨_ | _, _⟩ <;> rfl

theorem runAt_bind_of_ok {d : Descent α} {index stop : Nat} {a : α}
    (h : d.runAt index = some (.ok a, stop)) (f : α → Descent β) :
    (d >>= f).runAt index = (f a).runAt stop := by
  rw [runAt_bind, h]
  rfl

variable {index stop : Nat} {post : Except Fault β → Nat → Prop}

/-- A computation without calls. -/
theorem ends_of_runAt {d : Descent β} {outcome : Except Fault β}
    (run : d.runAt index = some (outcome, stop)) (left : post outcome stop) :
    Ends (fun _ => d) index post :=
  ⟨outcome, stop, left, 0, fun _ _ => run⟩

theorem Ends.mono {d : Nat → Descent β} {weaker : Except Fault β → Nat → Prop}
    (h : Ends d index post)
    (implies : ∀ outcome stop, post outcome stop → weaker outcome stop) :
    Ends d index weaker := by
  obtain ⟨outcome, stop, left, deep⟩ := h
  exact ⟨outcome, stop, implies outcome stop left, deep⟩

/-- A call ends if what is called does. -/
theorem Ends.call {d called : Nat → Descent β} (h : Ends called index post)
    (eq : ∀ depth, d (depth + 1) = called depth) : Ends d index post := by
  obtain ⟨outcome, stop, left, enough, run⟩ := h
  refine ⟨outcome, stop, left, enough + 1, fun depth deep => ?_⟩
  obtain ⟨depth, rfl⟩ := Nat.exists_eq_succ_of_ne_zero (Nat.ne_zero_of_lt deep)
  exact (congrArg (runAt · index) (eq depth)).trans (run depth (Nat.le_of_succ_le_succ deep))

/-- A computation that goes on after one that ends. -/
theorem Ends.bind {d : Nat → Descent α} {f : α → Nat → Descent β}
    {middle : Except Fault α → Nat → Prop} (h : Ends d index middle)
    (ok : ∀ a stop, middle (.ok a) stop → Ends (f a) stop post)
    (error : ∀ fault stop, middle (.error fault) stop → post (.error fault) stop) :
    Ends (fun depth => d depth >>= fun a => f a depth) index post := by
  obtain ⟨outcome | outcome, stop, left, enough, run⟩ := h
  · refine ⟨.error outcome, stop, error outcome stop left, enough, fun depth deep => ?_⟩
    rw [runAt_bind, run depth deep]
    rfl
  · obtain ⟨outcome', stop', left', enough', run'⟩ := ok outcome stop left
    -- deep enough for both
    refine ⟨outcome', stop', left', max enough enough', fun depth deep => ?_⟩
    rw [runAt_bind_of_ok (run depth (Nat.le_trans (Nat.le_max_left ..) deep))]
    exact run' depth (Nat.le_trans (Nat.le_max_right ..) deep)

theorem Ends.bind_of_ok {d : Descent α} {a : α} (h : d.runAt index = some (.ok a, stop))
    {f : α → Nat → Descent β} (ends : Ends (f a) stop post) :
    Ends (fun depth => d >>= fun a => f a depth) index post := by
  obtain ⟨outcome, last, left, enough, run⟩ := ends
  exact ⟨outcome, last, left, enough, fun depth deep =>
    (runAt_bind_of_ok h _).trans (run depth deep)⟩

end Running

/-! ### Looking at tokens and taking them -/

section Tokens

variable {source : String} {tokens : List Token} {index : Nat} {t : Token}

theorem runAt_current (h : tokens[index]? = some t) :
    (current tokens).runAt index = some (.ok t, index) := by
  have here : (get : Descent Nat).runAt index = some (.ok index, index) := rfl
  rw [current, runAt_bind_of_ok here, h, Option.some_or]
  rfl

theorem runAt_advance (h : tokens[index]? = some t) (ht : t.content ≠ .endMark) :
    (advance tokens).runAt index = some (.ok t, index + 1) := by
  have ne := Token.kind_eq_endMark_iff.not.mpr ht
  rw [advance, runAt_bind_of_ok (runAt_current h), if_neg ne]
  rfl

theorem runAt_advance_endMark (h : tokens[index]? = some t) (ht : t.content = .endMark) :
    (advance tokens).runAt index = some (.ok t, index) := by
  rw [advance, runAt_bind_of_ok (runAt_current h), if_pos (Token.kind_eq_endMark_iff.mpr ht)]
  rfl

theorem runAt_reject (h : tokens[index]? = some t) (expected : Expected) :
    (reject source tokens expected).runAt index
      = some (.error (.evaluation source (some (.unexpectedToken expected t))), index) := by
  rw [reject, runAt_bind_of_ok (runAt_current h)]
  rfl

end Tokens

end Descent

end SketchScreen
