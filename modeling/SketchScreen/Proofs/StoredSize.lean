import SketchScreen.Proofs.Check
import SketchScreen.Proofs.ExactValue

/-!
# Stored Sizes

A project stores the size of its screen as two numbers of any kind.  They are accepted exactly
if both are whole numbers in range, be they integers or floats, and the project then has that
size; but a side that is zero counts as not given, so the usual one takes its place.

## Main Definitions

- `Number.IsInfinite`, `Number.IsLong`: numbers whose conversion or whose text
  is a fault of numbers.
- `Project.IsSide`: a number that is equal to a side of a screen.
- `Project.given`: a stored side, or the usual one where it is zero.

## Design Notes

A stored side is converted to an integer first and compared with it then.  The conversion
rejects not-a-number like any other bad side, while an infinity stops it with a fault of
numbers (`side?_number`).  A rejected size is shown in the message, which fails in turn for
integers that are too long to be written (`eq_tooLongToWrite_of_sizeFault`).  Apart from these
two, whatever is not accepted is a fault of projects.
-/

namespace SketchScreen

/-! ## Numbers as integers -/

namespace Number

/-- An infinity of either sign. -/
def IsInfinite (n : Number) : Prop :=
  ∃ x negative, n = .float x ∧ Binary.ofFloat x = .infinite negative

/-- An integer that is too long to be written. -/
def IsLong (n : Number) : Prop := ∃ m, n = .int m ∧ ¬ IsShort m

theorem IsInfinite.value?_eq_none {n : Number} (h : n.IsInfinite) : n.value? = none := by
  obtain ⟨x, negative, rfl, infinite⟩ := h
  rw [value?, infinite]
  rfl

/-- **A number is equal to an integer by its value.** -/
theorem eq_int_iff (n : Number) (m : Int) : n.eq (.int m) = true ↔
    n.value? = some (m : ℚ) := by
  rw [eq, beq_iff_eq]
  cases value : n.value? with
  | some q => rw [compare?_int value, Option.some.injEq, compare_eq_iff_eq, Option.some.injEq]
  | none =>
      obtain ⟨x, rfl, noValue⟩ := eq_float_of_value?_eq_none value
      rw [compare?]
      cases view : Binary.ofFloat x with
      | nan => simp [Binary.compareInt]
      | infinite negative => cases negative <;> simp [Binary.compareInt]
      | finite negative mantissa exponent =>
          rw [view] at noValue
          cases noValue

/-- The integer part of a finite number is the integer that it is equal to, if
there is one. -/
theorem exists_truncate {n : Number} {q : ℚ} (value : n.value? = some q) :
    ∃ m, n.truncate = .ok m ∧ ∀ k : Int, q = k → m = k := by
  cases n with
  | int m =>
      cases value
      exact ⟨m, rfl, fun k same => by exact_mod_cast same⟩
  | float x =>
      rw [value?] at value
      cases view : Binary.ofFloat x with
      | nan =>
          rw [view] at value
          cases value
      | infinite negative =>
          rw [view] at value
          cases value
      | finite negative mantissa exponent =>
          rw [view] at value
          cases value
          have exact := Binary.fraction_eq negative mantissa exponent
          have positive : 0 < (Binary.fraction negative mantissa exponent).2 :=
            Nat.two_pow_pos _
          refine ⟨_, by rw [truncate, view], fun k same => ?_⟩
          rw [same] at exact
          have whole : (Binary.fraction negative mantissa exponent).1
              = k * (Binary.fraction negative mantissa exponent).2 := by exact_mod_cast exact
          show Int.tdiv _ _ = k
          rw [whole, Int.mul_tdiv_cancel _ (by omega)]

/-- A number without a value is an infinity or has no integer part at all. -/
theorem truncate_of_value?_eq_none {n : Number} (value : n.value? = none) :
    n.IsInfinite ∧ n.truncate = .error .infinityToInt ∨
      ¬ n.IsInfinite ∧ n.truncate = .error .nanToInt := by
  obtain ⟨x, rfl, noValue⟩ := eq_float_of_value?_eq_none value
  cases view : Binary.ofFloat x with
  | nan =>
      refine .inr ⟨?_, by rw [truncate, view]⟩
      rintro ⟨y, negative, ⟨⟩, infinite⟩
      cases view.symm.trans infinite
  | infinite negative => exact .inl ⟨⟨x, negative, rfl, view⟩, by rw [truncate, view]⟩
  | finite negative mantissa exponent =>
      rw [view] at noValue
      cases noValue

/-- Only an integer that is too long has no text. -/
theorem isLong_of_write {n : Number} {fault : NumberFault} (failed : n.write = .error fault) :
    n.IsLong ∧ fault = .tooLongToWrite := by
  cases n with
  | int m =>
      rw [write, writeInt] at failed
      split at failed
      · cases failed
      · rename_i long
        cases failed
        exact ⟨⟨m, rfl, fun short => long ((isShort_iff m).mp short)⟩, rfl⟩
  | float x => cases failed

end Number

namespace Project

open SketchScreen.Number (IsInfinite IsLong)

/-! ## One side -/

/-- A number that is equal to a side of a screen. -/
def IsSide (n : Number) (side : Int) : Prop :=
  n.value? = some (side : ℚ) ∧ 1 ≤ side ∧ side ≤ 1920

/-- A stored side, or the usual one if it is zero. -/
def given (usual : Int) (n : Number) : Number := if n.isZero then .int usual else n

variable {a b : Number} {w h : Int}

theorem isInteger_iff (n : Number) (m : Int) :
    isInteger (.number n) m = true ↔ n.value? = some (m : ℚ) :=
  Number.eq_int_iff n m

theorem isSide_iff {n : Number} {m : Int} :
    IsSide n m ↔ isInteger (.number n) m = true ∧ inRange m = true := by
  rw [IsSide, isInteger_iff, inRange_iff]

/-- **What is made of a side**: an infinity is a fault of numbers, and anything else is
converted to the integer that it is equal to, if there is one. -/
theorem side?_number (n : Number) :
    n.IsInfinite ∧ side? (.number n) = .error (.number .infinityToInt) ∨
      ¬ n.IsInfinite ∧ ∃ side, side? (.number n) = .ok side ∧
        ∀ m : Int, n.value? = some (m : ℚ) → side = some m := by
  have converted : (Value.number n).toInt = Fault.liftNumber n.truncate := rfl
  rw [side?, converted]
  cases value : n.value? with
  | some q =>
      obtain ⟨m, truncated, whole⟩ := Number.exists_truncate value
      rw [truncated]
      refine .inr ⟨fun infinite => ?_, some m, rfl, fun k same => ?_⟩
      · cases value.symm.trans infinite.value?_eq_none
      · exact congrArg some (whole k (Option.some.inj same))
  | none =>
      rcases Number.truncate_of_value?_eq_none value with
        ⟨infinite, truncated⟩ | ⟨finite, truncated⟩
      · rw [truncated]
        exact .inl ⟨infinite, rfl⟩
      · rw [truncated]
        exact .inr ⟨finite, none, rfl, fun m same => by cases same⟩

/-! ## Both sides -/

/-- Two sides are accepted. -/
theorem checkSize_of_isSide (hw : IsSide a w) (hh : IsSide b h) :
    checkSize (.number a) (.number b) = .ok (w, h) := by
  have converted : ∀ {n : Number} {m : Int}, IsSide n m →
      side? (.number n) = .ok (some m) := by
    intro n m side
    rcases side?_number n with ⟨infinite, -⟩ | ⟨-, found, converted, whole⟩
    · cases side.1.symm.trans infinite.value?_eq_none
    · rw [converted, whole m side.1]
  obtain ⟨whole, range⟩ := isSide_iff.mp hw
  obtain ⟨whole', range'⟩ := isSide_iff.mp hh
  simp only [checkSize, converted hw, converted hh, bind, Except.bind, whole, whole',
    range, range', Bool.and_self, Bool.not_true, Bool.false_eq_true, if_false, if_true]
  rfl

/-- What is accepted are two sides. -/
theorem isSide_of_checkSize (checked : checkSize (.number a) (.number b) = .ok (w, h)) :
    IsSide a w ∧ IsSide b h := by
  obtain ⟨⟨width, height⟩, widthRange, heightRange⟩ :=
    isInteger_and_inRange_of_checkSize checked
  exact ⟨isSide_iff.mpr ⟨width, widthRange⟩, isSide_iff.mpr ⟨height, heightRange⟩⟩

/-- The message about a size fails only if a side is too long to be written. -/
theorem eq_tooLongToWrite_of_sizeFault {α : Type} {fault : NumberFault}
    (failed : (sizeFault (.number a) (.number b) : Except ProjectFault α)
      = .error (.number fault)) :
    (a.IsLong ∨ b.IsLong) ∧ fault = .tooLongToWrite := by
  have shown : ∀ n : Number, (Value.number n).shown = n.write := fun n => by rw [Value.shown]
  rw [sizeFault, shown, shown] at failed
  split at failed
  · cases failed
  · rename_i long
    cases failed
    exact (Number.isLong_of_write long).imp_left .inl
  · rename_i long
    cases failed
    exact (Number.isLong_of_write long).imp_left .inr

/-- **Which sizes are a fault of numbers**: only those with an infinite side, or with one that
is too long to be written. -/
theorem number_of_checkSize {fault : NumberFault}
    (failed : checkSize (.number a) (.number b) = .error (.number fault)) :
    (a.IsInfinite ∨ b.IsInfinite) ∧ fault = .infinityToInt ∨
      (a.IsLong ∨ b.IsLong) ∧ fault = .tooLongToWrite := by
  have stopped : ∀ {n : Number}, side? (.number n) = .error (.number fault) →
      n.IsInfinite ∧ fault = .infinityToInt := by
    intro n failed
    rcases side?_number n with ⟨infinite, stopped⟩ | ⟨-, found, converted, -⟩
    · cases stopped.symm.trans failed
      exact ⟨infinite, rfl⟩
    · cases converted.symm.trans failed
  rcases error_or_exists_of_bind_eq_error failed with failed | ⟨first, -, failed⟩
  · exact .inl ((stopped failed).imp_left .inl)
  · cases first with
    | none => exact .inr (eq_tooLongToWrite_of_sizeFault failed)
    | some w' =>
        rcases error_or_exists_of_bind_eq_error failed with failed | ⟨second, -, failed⟩
        · exact .inl ((stopped failed).imp_left .inr)
        · cases second with
          | none => exact .inr (eq_tooLongToWrite_of_sizeFault failed)
          | some h' =>
              simp only at failed
              split at failed
              · exact .inr (eq_tooLongToWrite_of_sizeFault failed)
              · split at failed <;> cases failed

/-- An infinite width is a fault of numbers. -/
theorem checkSize_of_isInfinite (infinite : a.IsInfinite) (height : Value) :
    checkSize (.number a) height = .error (.number .infinityToInt) := by
  rcases side?_number a with ⟨-, stopped⟩ | ⟨finite, -⟩
  · rw [checkSize, stopped]
    rfl
  · exact absurd infinite finite

/-! ## Projects -/

variable {pairs : List (Value × Value)} {code : String}

theorem fieldOr_number {name : String} {n : Number} (usual : Int)
    (stored : Value.field? name pairs = some (.number n)) :
    fieldOr name (.number (.int usual)) pairs = .number (given usual n) := by
  rw [fieldOr, stored, given]
  show (if (!n.isZero) = true then _ else _) = _
  cases n.isZero <;> rfl

theorem fieldOr_text {name : String} (stored : Value.field? name pairs = some (.text code)) :
    fieldOr name (.text "") pairs = .text code := by
  rw [fieldOr, stored]
  show (if (!code.isEmpty) = true then _ else _) = _
  cases empty : code.isEmpty with
  | true => rw [String.isEmpty_iff.mp empty]; rfl
  | false => rfl

/-- The project that a map with a sketch and two numbers stores. -/
theorem ofValue_of_stored (hcode : Value.field? "code" pairs = some (.text code))
    (hwidth : Value.field? "width" pairs = some (.number a))
    (hheight : Value.field? "height" pairs = some (.number b)) :
    ofValue (.map pairs)
      = (checkSize (.number (given defaultWidth a)) (.number (given defaultHeight b))).map
        fun size =>
          ⟨code, size.1, size.2, (Value.field? "timestamp" pairs).getD .null,
            pairs.filter fun pair => !isOwnKey pair.1⟩ := by
  rw [ofValue, fieldOr_number defaultWidth hwidth, fieldOr_number defaultHeight hheight,
    fieldOr_text hcode]
  cases checkSize (.number (given defaultWidth a)) (.number (given defaultHeight b)) <;> rfl

/-- A side that is put in for a zero is neither infinite nor too long, so these are
told by the stored one. -/
theorem of_given {usual : Int} (short : Number.IsShort usual) {n : Number} :
    ((given usual n).IsInfinite → n.IsInfinite) ∧ ((given usual n).IsLong → n.IsLong) := by
  rw [given]
  split
  · refine ⟨?_, ?_⟩
    · rintro ⟨x, negative, same, -⟩
      cases same
    · rintro ⟨m, ⟨⟩, long⟩
      exact absurd short long
  · exact ⟨id, id⟩

theorem given_of_isInfinite (usual : Int) {n : Number} (infinite : n.IsInfinite) :
    given usual n = n := by
  have nonzero : n.isZero ≠ true := by
    intro zero
    cases infinite.value?_eq_none.symm.trans ((Number.eq_int_iff n 0).mp zero)
  rw [given, if_neg nonzero]

/-- **Which stored sizes are accepted.**  Take any map that stores a text as its sketch and a
number of any kind for each side, and put the usual side in place of one that is zero.  The
map is accepted exactly if both numbers are whole and in range, and the project then has that
sketch and that size.  In every other case it is rejected, with a fault of projects if no
stored side is infinite or too long to be written; an infinite width is a fault of numbers. -/
theorem ofValue_of_stored_size (hcode : Value.field? "code" pairs = some (.text code))
    (hwidth : Value.field? "width" pairs = some (.number a))
    (hheight : Value.field? "height" pairs = some (.number b)) :
    (∀ w h, (∃ project, ofValue (.map pairs) = .ok project ∧ project.code = code ∧
        project.width = w ∧ project.height = h) ↔
      IsSide (given defaultWidth a) w ∧ IsSide (given defaultHeight b) h) ∧
    ((∀ w h, ¬ (IsSide (given defaultWidth a) w ∧ IsSide (given defaultHeight b) h)) →
      ∃ fault, ofValue (.map pairs) = .error fault ∧
        (¬ (a.IsInfinite ∨ b.IsInfinite) → ¬ (a.IsLong ∨ b.IsLong) →
          ∀ cause, fault ≠ .number cause)) ∧
    (a.IsInfinite → ofValue (.map pairs) = .error (.number .infinityToInt)) := by
  have usualWidth := @of_given defaultWidth (Number.isShort_of_natAbs_lt (by decide)) a
  have usualHeight := @of_given defaultHeight (Number.isShort_of_natAbs_lt (by decide)) b
  rw [ofValue_of_stored hcode hwidth hheight]
  refine ⟨fun w h => ⟨?_, ?_⟩, fun rejected => ?_, fun infinite => ?_⟩
  · rintro ⟨project, accepted, -, rfl, rfl⟩
    cases checked : checkSize (.number (given defaultWidth a))
      (.number (given defaultHeight b)) with
    | error fault =>
        rw [checked] at accepted
        cases accepted
    | ok size =>
        rw [checked] at accepted
        cases accepted
        exact isSide_of_checkSize checked
  · rintro ⟨width, height⟩
    rw [checkSize_of_isSide width height]
    exact ⟨_, rfl, rfl, rfl, rfl⟩
  · cases checked : checkSize (.number (given defaultWidth a))
      (.number (given defaultHeight b)) with
    | error fault =>
        refine ⟨fault, rfl, ?_⟩
        rintro finite short cause rfl
        rcases number_of_checkSize checked with ⟨infinite, -⟩ | ⟨long, -⟩
        · exact finite (infinite.imp usualWidth.1 usualHeight.1)
        · exact short (long.imp usualWidth.2 usualHeight.2)
    | ok size => exact absurd (isSide_of_checkSize checked) (rejected size.1 size.2)
  · rw [given_of_isInfinite _ infinite, checkSize_of_isInfinite infinite]
    rfl

/-- A whole float and an integer. -/
theorem ofValue_of_stored_size_whole_float :
    let pairs : List (Value × Value) := [(.text "code", .text "x"),
      (.text "width", .number (.float 240.0)), (.text "height", .number (.int 1920))]
    Value.field? "code" pairs = some (.text "x") ∧
      Value.field? "width" pairs = some (.number (.float 240.0)) ∧
      Value.field? "height" pairs = some (.number (.int 1920)) ∧
      ∃ project, ofValue (.map pairs) = .ok project ∧ project.code = "x" ∧
        project.width = 240 ∧
        project.height = 1920 := by
  intro pairs
  have hcode : Value.field? "code" pairs = some (.text "x") := rfl
  have hwidth : Value.field? "width" pairs = some (.number (.float 240.0)) := rfl
  have hheight : Value.field? "height" pairs = some (.number (.int 1920)) := rfl
  have whole : (Number.float 240.0).eq (.int 240) = true := by decide +kernel
  have nonzero : (Number.float 240.0).isZero = false := by decide +kernel
  have width : IsSide (given defaultWidth (.float 240.0)) 240 := by
    rw [given, nonzero]
    exact ⟨(Number.eq_int_iff _ _).mp whole, by decide⟩
  have height : IsSide (given defaultHeight (.int 1920)) 1920 := ⟨rfl, by decide⟩
  exact ⟨hcode, hwidth, hheight,
    ((ofValue_of_stored_size hcode hwidth hheight).1 240 1920).mpr ⟨width, height⟩⟩

/-- A width of zero is accepted although no screen has it, and an infinite one is rejected
with a fault that is none of projects. -/
theorem not_forall_stored_size_checked :
    (¬ ∀ (pairs : List (Value × Value)) (code : String) (a b : Number),
      Value.field? "code" pairs = some (.text code) →
      Value.field? "width" pairs = some (.number a) →
      Value.field? "height" pairs = some (.number b) →
      (∃ project, ofValue (.map pairs) = .ok project) →
      ∃ w h, IsSide a w ∧ IsSide b h) ∧
    ¬ ∀ (pairs : List (Value × Value)) (code : String) (a b : Number),
      Value.field? "code" pairs = some (.text code) →
      Value.field? "width" pairs = some (.number a) →
      Value.field? "height" pairs = some (.number b) →
      ∀ fault, ofValue (.map pairs) = .error fault → ∀ cause, fault ≠ .number cause := by
  constructor
  · intro checked
    obtain ⟨w, h, ⟨value, low, -⟩, -⟩ := checked [(.text "code", .text "x"),
      (.text "width", .number (.int 0)),
      (.text "height", .number (.int 10))] "x" (.int 0) (.int 10)
      rfl rfl rfl ⟨⟨"x", 240, 10, .null, []⟩, rfl⟩
    have zero : (0 : Int) = w := by exact_mod_cast Option.some.inj value
    omega
  · intro checked
    have infinite : (Number.float Number.Binary.infinity).IsInfinite :=
      ⟨_, false, rfl, by decide +kernel⟩
    have rejected := @ofValue_of_stored (.float Number.Binary.infinity) (.int 10)
      [(.text "code", .text "x"), (.text "width", .number (.float Number.Binary.infinity)),
        (.text "height", .number (.int 10))] "x" rfl rfl rfl
    rw [given_of_isInfinite _ infinite, checkSize_of_isInfinite infinite] at rejected
    exact checked _ "x" _ _ rfl rfl rfl _ rejected .infinityToInt rfl

end Project

end SketchScreen
