import Mathlib.Data.List.Forall2
import SketchScreen.Command
import SketchScreen.Proofs.Run
import SketchScreen.Proofs.Writing

/-!
# Fitting Arguments

A call fits a command if it gives enough values and has a number wherever one is asked for.
Then every parameter gets what was given for it: a number as it is, a colour as it is
resolved, a text as it is written.  Otherwise the call is refused: for the number of its
values first, and then for the leftmost value that should be a number and is not.

## Main Definitions

- `Parameter.Accepts`: whether a value may be given for a parameter.
- `Command.given`: the parameters of a command with the values that a call gives for them.
- `BoundValue.Fits`: what a parameter gets for a value.

## Design Notes

Values are fitted from the left, and fitting stops at the first that is refused.  So a row of
values is either fitted as a whole, or falls apart at the value that is refused
(`bindValues_cases`).  Nothing else can go wrong as long as every value can be written: a text
of a value is asked for where a text is asked for, and where a value is refused.
-/

namespace SketchScreen

/-- Whether a value may be given for a parameter: for a number only a number may. -/
def Parameter.Accepts (p : Parameter) (value : Value) : Prop :=
  p.kind = .number → ∃ n, value = .number n

/-- What a parameter of a kind gets for a value. -/
def BoundValue.Fits (kind : ParamKind) (value : Value) (bound : BoundValue) : Prop :=
  match kind with
  | .number => ∃ n, value = .number n ∧ bound = .number n
  | .color => bound = .color value.toColor
  | .text => ∃ s, value.asText = .ok s ∧ bound = .text s

theorem Value.eq_number_of_number? {value : Value} {n : Number} (h : value.number? = some n) :
    value = .number n := by
  cases value with
  | number m =>
      cases h
      rfl
  | _ => cases h

namespace Command

variable {command : Command} {p : Parameter} {value : Value} {parameters : List Parameter}
  {values : List Value}

/-- The parameters of a command with the values that a call gives for them, those beyond left
out. -/
def given (command : Command) (values : List Value) : List (Parameter × Value) :=
  command.parameters.zip values

/-! ## One value -/

/-- A value that is fitted fits. -/
theorem fits_of_bindValue {first : p.kind.Carrier}
    (h : bindValue command p value = .ok first) :
    p.Accepts value ∧ BoundValue.Fits p.kind value (.ofCarrier p.kind first) := by
  obtain ⟨name, kind⟩ := p
  cases kind with
  | number =>
      cases found : value.number? with
      | none =>
          simp only [bindValue, found] at h
          obtain ⟨shown, -, refused⟩ := exists_of_bind_eq_ok h
          cases refused
      | some n =>
          simp only [bindValue, found] at h
          cases h
          have same := Value.eq_number_of_number? found
          exact ⟨fun _ => ⟨_, same⟩, _, same, rfl⟩
  | color =>
      cases h
      exact ⟨nofun, rfl⟩
  | text =>
      cases written : value.asText with
      | error fault =>
          simp only [bindValue, written] at h
          cases h
      | ok s =>
          simp only [bindValue, written] at h
          cases h
          exact ⟨nofun, _, written, rfl⟩

/-- **A value without long integers is fitted, or refused for not being a number.** -/
theorem bindValue_cases (within : value.IsWithin 1000) :
    (∃ first, bindValue command p value = .ok first) ∨
      ¬ p.Accepts value ∧ ∃ shown, value.shown = .ok shown ∧
        bindValue command p value = .error (.argumentType command.name p.name shown) := by
  obtain ⟨name, kind⟩ := p
  cases kind with
  | number =>
      cases found : value.number? with
      | some n =>
          refine Or.inl ⟨n, ?_⟩
          simp only [bindValue, found]
      | none =>
          obtain ⟨shown, written⟩ := within.exists_shown (by decide)
          refine Or.inr ⟨fun accepted => ?_, shown, written, ?_⟩
          · obtain ⟨n, rfl⟩ := accepted rfl
            cases found
          · simp only [bindValue, found, written]
            rfl
  | color => exact Or.inl ⟨_, rfl⟩
  | text =>
      obtain ⟨s, written⟩ := within.exists_asText (by decide)
      refine Or.inl ⟨s, ?_⟩
      simp only [bindValue, written]
      rfl

/-! ## Rows of values -/

/-- Values that are fitted fit, one by one. -/
theorem fits_of_bindValues {arguments : Arguments parameters}
    (h : bindValues command parameters values = .ok arguments) :
    (∀ pair ∈ parameters.zip values, pair.1.Accepts pair.2) ∧
      List.Forall₂ (fun pair bound => BoundValue.Fits pair.1.kind pair.2 bound)
        (parameters.zip values) (arguments.toList parameters) := by
  induction parameters generalizing values with
  | nil => exact ⟨List.forall_mem_nil _, .nil⟩
  | cons p parameters ih =>
      cases values with
      | nil => cases h
      | cons value values =>
          obtain ⟨first, fitted, h⟩ := exists_of_bind_eq_ok h
          obtain ⟨rest, others, h⟩ := exists_of_bind_eq_ok h
          cases h
          obtain ⟨accepted, fits⟩ := fits_of_bindValue fitted
          obtain ⟨allAccepted, allFit⟩ := ih others
          exact ⟨List.forall_mem_cons.mpr ⟨accepted, allAccepted⟩, .cons fits allFit⟩

/-- **Enough values without long integers are fitted, or fall apart at the first that is
refused.** -/
theorem bindValues_cases (enough : parameters.length ≤ values.length)
    (within : ∀ value ∈ values, value.IsWithin 1000) :
    (∃ arguments, bindValues command parameters values = .ok arguments) ∨
      ∃ before p value after shown, parameters.zip values = before ++ (p, value) :: after ∧
        (∀ pair ∈ before, pair.1.Accepts pair.2) ∧ ¬ p.Accepts value ∧
        value.shown = .ok shown ∧
        bindValues command parameters values
          = .error (.argumentType command.name p.name shown) := by
  induction parameters generalizing values with
  | nil => exact Or.inl ⟨(), rfl⟩
  | cons p parameters ih =>
      cases values with
      | nil => cases enough
      | cons value values =>
          obtain ⟨hvalue, hvalues⟩ := List.forall_mem_cons.mp within
          rw [bindValues]
          -- if the first value is fitted the rest decides; else nothing after it is looked at
          rcases @bindValue_cases command p value hvalue with
            ⟨first, fitted⟩ | ⟨refused, shown, written, fault⟩
          · rw [fitted]
            rcases ih (Nat.le_of_succ_le_succ enough) hvalues with
              ⟨rest, others⟩ | ⟨before, q, w, after, shown, split, accepted, refused,
                written, fault⟩
            · rw [others]
              exact Or.inl ⟨_, rfl⟩
            · refine Or.inr ⟨(p, value) :: before, q, w, after, shown,
                congrArg (_ :: ·) split, ?_, refused, written, ?_⟩
              · exact List.forall_mem_cons.mpr ⟨(fits_of_bindValue fitted).1, accepted⟩
              · rw [fault]
                rfl
          · rw [fault]
            exact Or.inr ⟨[], p, value, _, shown, rfl, List.forall_mem_nil _, refused,
              written, rfl⟩

/-- Values beyond the parameters make no difference. -/
theorem bindValues_append (enough : parameters.length ≤ values.length) (extra : List Value) :
    bindValues command parameters (values ++ extra)
      = bindValues command parameters values := by
  induction parameters generalizing values with
  | nil => rfl
  | cons p parameters ih =>
      cases values with
      | nil => cases enough
      | cons value values =>
          rw [List.cons_append, bindValues, bindValues, ih (Nat.le_of_succ_le_succ enough)]

/-! ## Calls -/

theorem length_given (enough : command.arity ≤ values.length) :
    (command.given values).length = command.arity := by
  rw [given, List.length_zip]
  exact Nat.min_eq_left enough

theorem bind_of_short (short : values.length < command.arity) :
    command.bind values = .error command.countFault := if_pos short

theorem bind_of_enough (enough : command.arity ≤ values.length) :
    command.bind values = bindValues command command.parameters values :=
  if_neg (Nat.not_lt.mpr enough)

/-- **The arguments of a call fit the values that were given.** -/
theorem fits_of_bind {arguments : Arguments command.parameters}
    (h : command.bind values = .ok arguments) :
    command.arity ≤ values.length ∧ (∀ pair ∈ command.given values, pair.1.Accepts pair.2) ∧
      List.Forall₂ (fun pair bound => BoundValue.Fits pair.1.kind pair.2 bound)
        (command.given values) (arguments.toList command.parameters) := by
  rcases Nat.lt_or_ge values.length command.arity with short | enough
  · rw [bind_of_short short] at h
    cases h
  · rw [bind_of_enough enough] at h
    exact ⟨enough, fits_of_bindValues h⟩

/-- **Calls are fitted exactly if they fit, and the first fault is reported.**  Let no integer
in the values of a call reach `2 ^ 1000`.  The values are fitted exactly if there are enough
of them and numbers wherever numbers are asked for, and then there is one argument for each
parameter, which is what was given for it.  If there are not enough values, this is reported
whatever they are; if there are, the report names the parameter of the leftmost value that
should be a number and is not. -/
theorem bind_reports_first_fault (command : Command) {values : List Value}
    (within : ∀ value ∈ values, value.IsWithin 1000) :
    ((∃ arguments, command.bind values = .ok arguments) ↔
      command.arity ≤ values.length ∧ ∀ pair ∈ command.given values, pair.1.Accepts pair.2) ∧
    (∀ arguments, command.bind values = .ok arguments →
      (arguments.toList command.parameters).length = command.arity ∧
        List.Forall₂ (fun pair bound => BoundValue.Fits pair.1.kind pair.2 bound)
          (command.given values) (arguments.toList command.parameters)) ∧
    (values.length < command.arity → command.bind values
      = .error (.argumentCount command.name command.arity command.parameterNames)) ∧
    (command.arity ≤ values.length →
      (¬ ∀ pair ∈ command.given values, pair.1.Accepts pair.2) →
      ∃ before p value after shown, command.given values = before ++ (p, value) :: after ∧
        (∀ pair ∈ before, pair.1.Accepts pair.2) ∧ ¬ p.Accepts value ∧
        value.shown = .ok shown ∧
        command.bind values = .error (.argumentType command.name p.name shown)) := by
  refine ⟨⟨?_, ?_⟩, ?_, bind_of_short, ?_⟩
  · rintro ⟨arguments, fitted⟩
    obtain ⟨enough, accepted, -⟩ := fits_of_bind fitted
    exact ⟨enough, accepted⟩
  · rintro ⟨enough, accepted⟩
    rw [bind_of_enough enough]
    rcases bindValues_cases enough within with
      fitted | ⟨before, p, value, after, -, split, -, refused, -⟩
    · exact fitted
    · refine absurd (accepted (p, value) ?_) refused
      rw [given, split]
      exact List.mem_append_right _ List.mem_cons_self
  · intro arguments fitted
    obtain ⟨enough, -, fits⟩ := fits_of_bind fitted
    exact ⟨fits.length_eq.symm.trans (length_given enough), fits⟩
  · intro enough notAccepted
    rw [bind_of_enough enough]
    rcases bindValues_cases enough within with ⟨arguments, fitted⟩ | apart
    · exact absurd (fits_of_bindValues fitted).1 notAccepted
    · exact apart

/-- Of three values that should be numbers and are none, the leftmost is reported: a text of
digits. -/
theorem bind_reports_first_fault_digits :
    let values : List Value :=
      [.number (.int 7), .text "12", .bool true, .null, .list [.number (.int (2 ^ 999))]]
    (∀ value ∈ values, value.IsWithin 1000) ∧ drawRect.arity ≤ values.length ∧
      (¬ ∀ pair ∈ drawRect.given values, pair.1.Accepts pair.2) ∧
      ∃ before p value after shown, drawRect.given values = before ++ (p, value) :: after ∧
        (∀ pair ∈ before, pair.1.Accepts pair.2) ∧ ¬ p.Accepts value ∧
        value.shown = .ok shown ∧
        drawRect.bind values = .error (.argumentType drawRect.name p.name shown) := by
  intro values
  have within : ∀ value ∈ values, value.IsWithin 1000 := by decide +kernel
  have enough : drawRect.arity ≤ values.length := by decide
  have notAccepted : ¬ ∀ pair ∈ drawRect.given values, pair.1.Accepts pair.2 := by
    intro accepted
    obtain ⟨n, same⟩ := accepted (.ofName "y", .text "12") (.tail _ (.head _)) rfl
    cases same
  obtain ⟨-, -, -, apart⟩ := bind_reports_first_fault drawRect within
  exact ⟨within, enough, notAccepted, apart enough notAccepted⟩

end Command

end SketchScreen
