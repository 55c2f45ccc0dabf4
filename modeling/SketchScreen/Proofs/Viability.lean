import SketchScreen.Proofs.Grammar

/-!
# The First Impossible Token

A row of tokens that is no expression is rejected at one of its tokens.  That token is the
first at which all hope is lost: what stands before it is the beginning of an expression, and
with it there is none that begins so.

## Main Definitions

- `Reading.completion`: tokens that make an expression of what has been read.

## Design Notes

Reading goes on as long as it can, so a fault names the token at which a reading stops
(`readTokens_stops`).  Before it, every reading can be completed, and soundness makes a phrase
of the grammar of the completed row.  Behind it nothing helps: by completeness a phrase that
begins with the same tokens would have been read past the token.
-/

namespace SketchScreen

/-! ## Readings can be completed -/

namespace Reading

/-- A closing parenthesis for each of some that are open. -/
def closers (outer : List Level) : List Token :=
  List.replicate outer.length ⟨.rightParen, 0, ")"⟩

/-- Tokens that make an expression of what has been read: an operand where one comes next, and
then the closing parentheses that are missing. -/
def completion : Reading → List Token
  | operand _ outer => ⟨.int 0, 0, "0"⟩ :: closers outer
  | operator _ _ outer => closers outer

/-- Tokens that are read keep what a reading spells. -/
theorem Spells.after? {reading next : Reading} {ts us : List Token} (h : Spells reading ts)
    (reads : reading.after? us = some next) : Spells next (ts ++ us) := by
  induction us generalizing reading ts with
  | nil =>
      cases reads
      simpa using h
  | cons u us ih =>
      simp only [Reading.after?] at reads
      split at reads
      · rename_i following hstep
        simpa using ih (h.step hstep) reads
      · cases reads

/-- Closing what is open leads to the outermost level. -/
theorem after?_closers (sum : Option Pending) (product : Expr) (outer : List Level) :
    ∃ sum' product', after? (operator sum product outer) (closers outer)
      = some (operator sum' product' []) := by
  induction outer generalizing sum product with
  | nil => exact ⟨sum, product, rfl⟩
  | cons level outer ih => exact ih level.sum (level.complete (Level.join sum product))

theorem after?_completion (reading : Reading) :
    ∃ sum product, after? reading reading.completion = some (operator sum product []) := by
  cases reading with
  | operand level outer =>
      exact after?_closers level.sum (level.complete (.literal 0 (.int 0))) outer
  | operator sum product outer => exact after?_closers sum product outer

/-- **What has been read is the beginning of an expression.** -/
theorem Spells.exists_derives {reading : Reading} {ts : List Token} (h : Spells reading ts) :
    ∃ tree, Derives .sum (ts ++ reading.completion) tree := by
  obtain ⟨sum, product, reads⟩ := after?_completion reading
  have done : (Reading.operator sum product []).step ⟨.endMark, 0, ""⟩
      = .done (Level.join sum product) := rfl
  exact ⟨_, (h.after? reads).derives_of_done done⟩

/-! ## Where a reading stops -/

/-- An end mark is not read. -/
theorem step_endMark_ne_next {t : Token} (h : t.content = .endMark) (reading next : Reading) :
    reading.step t ≠ .next next := by
  cases reading with
  | operand level outer => simp [step, operandStep, h]
  | operator sum product outer => cases outer <;> simp [step, operatorStep, h]

/-- **No expression goes on with a token at which reading stops.** -/
theorem not_derives_of_stop {reading : Reading} {ts : List Token} {t : Token}
    (reads : after? (operand Level.start []) ts = some reading)
    (stops : ∀ next, reading.step t ≠ .next next) (rest : List Token) (tree : Expr) :
    ¬ Derives .sum (ts ++ t :: rest) tree := by
  intro derives
  obtain ⟨sum, product, through, -⟩ := completes_of_derives derives []
  rw [after?_append, reads, Option.bind_some, after?] at through
  split at through
  · rename_i next hstep
    exact stops next hstep
  · cases through

/-- A reading that fails at the end has not read an expression. -/
theorem not_derives_of_fail {reading : Reading} {ts : List Token} {t : Token}
    {expected : Expected} (reads : after? (operand Level.start []) ts = some reading)
    (h : t.content = .endMark) (fails : reading.step t = .fail expected) (tree : Expr) :
    ¬ Derives .sum ts tree := by
  intro derives
  obtain ⟨sum, product, through, -⟩ := completes_of_derives derives []
  obtain rfl : reading = operator sum product [] := Option.some.inj (reads.symm.trans through)
  simp [step, operatorStep, h] at fails

end Reading

namespace Expr

/-- **Reading a row that ends stops at one of its tokens.**  The tokens before it have been
read, and it either ends the expression or is impossible. -/
theorem readTokens_stops (source : String) (last : Token) (reading : Reading) (length : Nat)
    (body : List Token) {stop : Token} (hstop : stop.content = .endMark) (more : List Token) :
    ∃ before found behind reached, body ++ [stop] = before ++ found :: behind ∧
      reading.after? before = some reached ∧
      ((∃ tree, reached.step found = .done tree ∧
          readTokens source last reading length (body ++ stop :: more)
            = .ok ⟨tree, length + before.length, found⟩) ∨
        ∃ expected, reached.step found = .fail expected ∧
          readTokens source last reading length (body ++ stop :: more)
            = .error (.evaluation source (some (.unexpectedToken expected found)))) := by
  induction body generalizing reading length with
  | nil =>
      refine ⟨[], stop, [], reading, rfl, rfl, ?_⟩
      rw [List.nil_append, readTokens]
      cases hstep : reading.step stop with
      | next next => exact absurd hstep (Reading.step_endMark_ne_next hstop reading next)
      | done tree => exact Or.inl ⟨tree, rfl, rfl⟩
      | fail expected => exact Or.inr ⟨expected, rfl, rfl⟩
  | cons t body ih =>
      rw [List.cons_append, List.cons_append, readTokens]
      cases hstep : reading.step t with
      | next next =>
          obtain ⟨before, found, behind, reached, row, reads, outcome⟩ := ih next (length + 1)
          refine ⟨t :: before, found, behind, reached, by rw [row]; rfl, ?_, ?_⟩
          · rw [Reading.after?_cons_of_next hstep, reads]
          · rw [List.length_cons, Nat.add_comm before.length, ← Nat.add_assoc]
            exact outcome
      | done tree => exact ⟨[], t, _, reading, rfl, rfl, Or.inl ⟨tree, hstep, rfl⟩⟩
      | fail expected => exact ⟨[], t, _, reading, rfl, rfl, Or.inr ⟨expected, hstep, rfl⟩⟩

/-- **A row that is rejected is rejected at one token**, at which the reading of
those before it stops. -/
theorem exists_stop_of_parseTokens_error {source : String} {body : List Token} {stop : Token}
    (hstop : stop.content = .endMark) {fault : Fault}
    (h : parseTokens source (body ++ [stop]) = .error fault) :
    ∃ before found behind reached expected, body ++ [stop] = before ++ found :: behind ∧
      Reading.after? (.operand Level.start []) before = some reached ∧
      fault = .evaluation source (some (.unexpectedToken expected found)) ∧
      (∀ next, reached.step found ≠ .next next) ∧
      (found.content = .endMark → ∃ missing, reached.step found = .fail missing) := by
  obtain ⟨before, found, behind, reached, row, reads, outcome⟩ :=
    readTokens_stops source stop (.operand Level.start []) 0 body hstop
      (List.replicate (body.length + 1) stop)
  rcases outcome with ⟨tree, hstep, result⟩ | ⟨expected, hstep, result⟩
  · -- the expression is complete, so it is a token behind it that is at fault, and
    -- no end mark
    rw [parseTokens, parseStart_append_singleton, result] at h
    simp only [bind, Except.bind] at h
    split at h
    · cases h
    · rename_i kind
      cases h
      refine ⟨before, found, behind, reached, .operator, row, reads, rfl, by simp [hstep], ?_⟩
      exact fun content => absurd (congrArg TokenContent.kind content) kind
  · rw [parseTokens, parseStart_append_singleton, result] at h
    cases h
    exact ⟨before, found, behind, reached, expected, row, reads, rfl, by simp [hstep],
      fun _ => ⟨expected, hstep⟩⟩

/-- The hint of a fault at a token names the token and its offset. -/
theorem hints_unexpectedToken (source : String) (expected : Expected) (found : Token) :
    (Fault.evaluation source (some (.unexpectedToken expected found))).hints
      = ["expected " ++ expected.text ++ ", found " ++
          (if found.content = .endMark then "end of expression"
            else Text.quote found.lexeme) ++
          " at offset " ++ toString found.position] := by
  have hint : (ExprFault.unexpectedToken expected found).hint
      = "expected " ++ expected.text ++ ", found " ++ found.found ++ " at offset "
        ++ toString found.position := rfl
  have shown : found.found
      = if found.content = .endMark then "end of expression"
        else Text.quote found.lexeme := by
    rw [Token.found, Token.kind]
    cases found.content <;> simp [TokenContent.kind]
  rw [Fault.hints_evaluation source (by simp [hint]), hint, shown]

/-- **A fault names the first impossible token.**  If a row of tokens that ends with an end
mark is rejected, the fault names a token of the row, by its text or as the end of the
expression, and by its offset.  The tokens before it are the beginning of an expression, but
no expression begins with these and the token; and if it is an end mark, the tokens before it
are not an expression as they are. -/
theorem parseTokens_error_first_impossible (source : String) (tokens : List Token)
    (stop : Token) (hlast : tokens.getLast? = some stop) (hstop : stop.content = .endMark)
    (fault : Fault) (h : parseTokens source tokens = .error fault) :
    ∃ k expected found, tokens[k]? = some found ∧
      fault = .evaluation source (some (.unexpectedToken expected found)) ∧
      fault.hints = ["expected " ++ expected.text ++ ", found " ++
        (if found.content = .endMark then "end of expression" else Text.quote found.lexeme) ++
        " at offset " ++ toString found.position] ∧
      (∃ rest tree, Derives .sum (tokens.take k ++ rest) tree) ∧
      (∀ rest tree, ¬ Derives .sum (tokens.take (k + 1) ++ rest) tree) ∧
      (found.content = .endMark → ∀ tree, ¬ Derives .sum (tokens.take k) tree) := by
  obtain ⟨body, rfl⟩ := List.getLast?_eq_some_iff.mp hlast
  obtain ⟨before, found, behind, reached, expected, row, reads, rfl, stops, fails⟩ :=
    exists_stop_of_parseTokens_error hstop h
  have spells : reached.Spells before := by
    simpa using (Reading.Spells.operand .nil .start).after? reads
  have front : (before ++ found :: behind).take before.length = before := List.take_left
  have through : (before ++ found :: behind).take (before.length + 1)
      = before ++ [found] := by
    rw [List.take_append, List.take_of_length_le (Nat.le_succ _), Nat.add_sub_cancel_left]
    rfl
  refine ⟨before.length, expected, found, ?_, rfl, hints_unexpectedToken .., ?_, ?_, ?_⟩
  · rw [row, List.getElem?_append_right (Nat.le_refl _), Nat.sub_self,
      List.getElem?_cons_zero]
  · rw [row, front]
    exact ⟨_, spells.exists_derives⟩
  · rw [row, through]
    intro rest tree
    rw [List.append_assoc]
    exact Reading.not_derives_of_stop reads stops rest tree
  · rw [row, front]
    intro content
    obtain ⟨missing, failed⟩ := fails content
    exact Reading.not_derives_of_fail reads content failed

/-- In `(2 + ) * 3` the closing parenthesis is at fault: an operand could stand there, but
nothing helps once it has been read. -/
theorem parseTokens_error_first_impossible_closing :
    let tokens : List Token := [⟨.leftParen, 0, "("⟩, ⟨.int 2, 1, "2"⟩, ⟨.plus, 3, "+"⟩,
      ⟨.rightParen, 5, ")"⟩, ⟨.star, 7, "*"⟩, ⟨.int 3, 9, "3"⟩, ⟨.endMark, 10, ""⟩]
    let fault : Fault := .evaluation "(2 + ) * 3"
      (some (.unexpectedToken .operand ⟨.rightParen, 5, ")"⟩))
    parseTokens "(2 + ) * 3" tokens = .error fault ∧
      fault.hints = ["expected number, name or '(', found ')' at offset 5"] ∧
      (∃ rest tree, Derives .sum (tokens.take 3 ++ rest) tree) ∧
      ∀ rest tree, ¬ Derives .sum (tokens.take 4 ++ rest) tree := by
  intro tokens fault
  have rejected : parseTokens "(2 + ) * 3" tokens = .error fault := rfl
  obtain ⟨k, expected, found, place, same, hints, begins, impossible, -⟩ :=
    parseTokens_error_first_impossible _ tokens _ rfl rfl fault rejected
  obtain ⟨-, -, rfl⟩ : _ ∧ Expected.operand = expected ∧
      (⟨.rightParen, 5, ")"⟩ : Token) = found := by
    simpa only [fault, Fault.evaluation.injEq, Option.some.injEq,
      ExprFault.unexpectedToken.injEq]
      using same
  have distinct : tokens.Nodup := by decide
  have third : tokens[3]? = tokens[k]? := place.symm
  obtain rfl : 3 = k := (List.getElem?_inj (by decide) distinct).mp third
  exact ⟨rejected, by decide, begins, impossible⟩

end Expr

end SketchScreen
