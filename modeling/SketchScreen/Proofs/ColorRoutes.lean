import Mathlib.Data.Nat.Digits.Defs
import SketchScreen.Proofs.Composition
import SketchScreen.Proofs.Resolution
import SketchScreen.Proofs.Script

/-!
# Routes to a Colour

A colour may be written as a hexadecimal number, as such a number between quotes, as the name
of a colour, or as a variable that was declared with any of these.  Each way of writing goes
through readers of its own, and all of them paint the same colour.

## Main Definitions

- `HexLiteral`: a hexadecimal number of any length, with its text and its value.
- `Argument.IsPiece`: a text that is one argument of a call, in whatever line the call stands.
- `Sketch.Paints`: lines below a sketch that fill the screen with a colour.
- `Sketch.IsVariable`: a name under which a variable can be declared and called.

## Design Notes

The value of a hexadecimal number is that of its digits in Mathlib, so that none of the
readers is taken for the measure of the others.

A variable whose name has the form of a colour name is never looked up by a call; the call
takes the name for that of a colour, and an unknown one for white.  The routes through
variables exclude such names.
-/

namespace SketchScreen

open SketchScreen.Text

/-! ## Hexadecimal numbers -/

/-- A hexadecimal number: its mark, of either case, and its digits. -/
structure HexLiteral where
  mark : Char
  digits : List Char
  isMark : mark = 'x' ∨ mark = 'X'
  nonempty : digits ≠ []
  isHexDigit : ∀ c ∈ digits, isHexDigit c = true

/-- The number of a row of digits, the first of which counts most. -/
theorem Text.ofDigits_eq (base : Nat) (digits : List Nat) :
    ofDigits base digits = Nat.ofDigits base digits.reverse := by
  rw [Nat.ofDigits_eq_foldr, List.foldr_reverse, ofDigits]
  congr 1
  funext total digit
  rw [Nat.cast_id, Nat.mul_comm, Nat.add_comm]

namespace HexLiteral

variable (n : HexLiteral)

/-- The text of a number. -/
def text : List Char := '0' :: n.mark :: n.digits

/-- The number that the digits denote. -/
def value : Nat := Nat.ofDigits 16 (n.digits.map hexValue).reverse

theorem ofDigits_digits : ofDigits 16 (n.digits.map hexValue) = n.value :=
  Text.ofDigits_eq 16 _

theorem takeWhile_digits : n.digits.takeWhile Text.isHexDigit = n.digits :=
  List.takeWhile_eq_self_iff.mpr n.isHexDigit

theorem isWord_of_mem {c : Char} (mem : c ∈ n.text) : isWord c = true := by
  rcases List.mem_cons.mp mem with rfl | mem
  · decide
  · rcases List.mem_cons.mp mem with rfl | mem
    · rcases n.isMark with mark | mark <;> rw [mark] <;> decide
    · exact isWord_of_isHexDigit (n.isHexDigit c mem)

theorem hasHexMark_text : hasHexMark n.text = true := by
  rcases n.isMark with mark | mark <;> simp [text, hasHexMark, mark]

/-! ## Three readers -/

/-- The tokens of a hexadecimal number. -/
theorem spells_text : Lexeme.Spells n.text (.int n.value) := by
  have length : Lexeme.hexLength n.text = n.text.length := by
    have letter : (n.mark == 'x' || n.mark == 'X') = true := by
      rcases n.isMark with mark | mark <;> rw [mark] <;> rfl
    obtain ⟨digit, digits, split⟩ := List.exists_cons_of_ne_nil n.nonempty
    rw [text, Lexeme.hexLength, if_pos letter, n.takeWhile_digits, split]
    rfl
  have number : Lexeme.hexNumber n.text = n.value := n.ofDigits_digits
  rw [← number]
  exact .hex (List.cons_ne_nil _ _) length

/-- Expressions read a hexadecimal number. -/
theorem evaluate_text (lookup : Lookup) :
    evaluate lookup (String.ofList n.text) = .ok (.int n.value) := by
  have trimmed : IsTrimmed n.text :=
    .of_isWord (List.cons_ne_nil _ _) fun c => n.isWord_of_mem
  rw [evaluate_of_trim_eq lookup trimmed.trim_eq]
  exact Expr.evalText_literal lookup n.spells_text

/-- Arguments take the digits behind the mark. -/
theorem readHex?_text : Argument.readHex? n.text = some n.value := by
  have digits : (n.text.drop 2).takeWhile Text.isHexDigit = n.digits := n.takeWhile_digits
  rw [Argument.readHex?, digits]
  split
  · exact absurd ‹_› n.nonempty
  · exact congrArg some n.ofDigits_digits

/-- A hexadecimal number stands for itself as an argument, whatever the variables are. -/
theorem resolve_text (lookup : Lookup) :
    Argument.resolve lookup n.text = .ok (.number (.int n.value)) := by
  have quoted : Argument.isQuoted n.text = false :=
    Argument.isQuoted_of_all_isWord fun c => n.isWord_of_mem
  have color : Color.nameStart.toList.isPrefixOf n.text = false := by
    simp [Color.nameStart, text, List.isPrefixOf_cons_cons]
  rw [Argument.resolve, quoted, color, n.hasHexMark_text, n.readHex?_text]
  rfl

end HexLiteral

/-! ## Texts as colours -/

namespace Number

theorem settingDigit?_of_isHexDigit {c : Char} (h : isHexDigit c = true) :
    settingDigit? 16 c = some (hexValue c) := by
  have ascii : ∀ k < 128, isHexDigit (Char.ofNat k) = true →
      settingDigit? 16 (Char.ofNat k) = some (hexValue (Char.ofNat k)) := by decide +kernel
  have small : c.toNat < 128 := by
    have := toNat_of_isHexDigit h
    omega
  rw [← Char.ofNat_toNat c] at h ⊢
  exact ascii _ (by simpa using small) h

theorem dropUnderscore_of_notMem {cs : List Char} (absent : '_' ∉ cs)
    (value? : Char → Option Nat) : dropUnderscore value? cs = cs := by
  unfold dropUnderscore
  split
  · exact absurd List.mem_cons_self absent
  · rfl

theorem takeSpaced_of_isHexDigit {cs : List Char} (h : ∀ c ∈ cs, isHexDigit c = true) :
    takeSpaced (settingDigit? 16) cs = (cs.map hexValue, []) := by
  induction cs with
  | nil => rw [takeSpaced, List.map_nil]
  | cons c cs ih =>
      obtain ⟨first, rest⟩ := List.forall_mem_cons.mp h
      have absent : '_' ∉ cs := fun mem => absurd (rest _ mem) (by decide)
      rw [takeSpaced, settingDigit?_of_isHexDigit first, dropUnderscore_of_notMem absent,
        ih rest, List.map_cons]

theorem trimSetting_of_isWord {cs : List Char} (word : ∀ c ∈ cs, isWord c = true) :
    trimSetting cs = cs := by
  have kept : ∀ ds : List Char, (∀ c ∈ ds, isWord c = true) →
      ds.dropWhile isSettingSpace = ds := by
    intro ds word
    cases ds with
    | nil => rfl
    | cons d ds =>
        have space : isSettingSpace d = false := by
          rw [isSettingSpace, isSpace_eq_false_of_isWord (word d List.mem_cons_self),
            Bool.false_and]
        rw [List.dropWhile_cons, space]
        rfl
  rw [trimSetting, kept cs word,
    kept cs.reverse fun c mem => word c (List.mem_reverse.mp mem), List.reverse_reverse]

end Number

theorem Color.ofRgb565_emod (v : Int) : ofRgb565 (v % 65536) = ofRgb565 v := by
  rw [ofRgb565, ofRgb565, Int.emod_emod_of_dvd v (dvd_refl _)]

namespace HexLiteral

variable (n : HexLiteral)

theorem readHexInt?_text : Number.readHexInt? (String.ofList n.text) = some n.value := by
  have absent : '_' ∉ n.digits := fun mem => absurd (n.isHexDigit _ mem) (by decide)
  have nonempty : (n.digits.map hexValue).isEmpty = false := by
    simpa using n.nonempty
  rw [Number.readHexInt?, String.toList_ofList,
    Number.trimSetting_of_isWord fun c => n.isWord_of_mem]
  simp only [text, Number.dropUnderscore_of_notMem absent,
    Number.takeSpaced_of_isHexDigit n.isHexDigit, nonempty, n.ofDigits_digits]
  rfl

/-- The text of a number has the colour of the number. -/
theorem toColor_text :
    Value.toColor (.text (String.ofList n.text)) = Color.ofRgb565 n.value := by
  have unnamed : Color.constant? (String.ofList n.text) = none := by
    cases constant : Color.constant? (String.ofList n.text) with
    | none => rfl
    | some code =>
        have named := Color.isName_of_constant? constant
        simp [Color.isName, Color.nameStart, text, List.isPrefixOf_cons_cons] at named
  show Value.colorOfText _ = _
  rw [Value.colorOfText, unnamed, String.toList_ofList, n.hasHexMark_text, n.readHexInt?_text]
  rfl

end HexLiteral

/-- Decimal digits have their value in expressions. -/
theorem evaluate_decimalDigits {k : Nat} (small : k < 100000) (lookup : Lookup) :
    evaluate lookup (String.ofList (Number.decimalDigits k)) = .ok (.int k) := by
  have trimmed : IsTrimmed (Number.decimalDigits k) :=
    .of_isWord (Number.decimalDigits_ne_nil k) fun c => Number.isWord_of_mem_decimalDigits
  have short : Number.IsShort k := Number.isShort_of_natAbs_lt small
  rw [evaluate_of_trim_eq lookup trimmed.trim_eq]
  exact Expr.evalText_literal lookup (.decimalDigits short)

section Constants

variable {name : String} {code : Nat} (constant : Color.constant? name = some code)

include constant

theorem Color.isIdentifier_of_constant? : Text.isName name.toList = true := by
  have names : ∀ entry ∈ constants, Text.isName entry.1.toList = true := by decide
  exact names (name, code) (mem_constants constant)

theorem Color.toColor_of_constant? : Value.toColor (.text name) = ofRgb565 code := by
  show Value.colorOfText name = _
  rw [Value.colorOfText, constant]

/-- The name of a colour has its value in expressions, unless a variable hides it. -/
theorem evaluate_of_constant? {lookup : Lookup} (hidden : lookup name = none) :
    evaluate lookup name = .ok (.int code) := by
  let x : Identifier := ⟨name.toList, Color.isIdentifier_of_constant? constant⟩
  have trimmed : IsTrimmed name.toList := .of_isWord x.ne_nil fun _ => x.isWord_of_mem
  have value := Expr.evalText_name lookup x.isName
  rw [← evaluate_of_trim_eq lookup trimmed.trim_eq, String.ofList_toList,
    Lookup.value?, hidden, constant] at value
  exact value

/-- The name of a colour stands for itself as an argument. -/
theorem Argument.resolve_of_constant? (lookup : Lookup) :
    resolve lookup name.toList = .ok (.text name) := by
  have resolved : resolve lookup name.toList = .ok (.text (String.ofList name.toList)) :=
    Operand.resolve_write lookup (.color ⟨name.toList,
      Color.isIdentifier_of_constant? constant⟩ (Color.isName_of_constant? constant))
  rwa [String.ofList_toList] at resolved

end Constants

/-! ## Arguments that stand alone -/

namespace Argument

variable {cs : List Char} {lookup : Lookup} {value : Argument}

/-- A text that is one argument of a call, in whatever line the call stands. -/
structure IsPiece (cs : List Char) : Prop where
  inert : Source.IsInert cs
  passes : Passes cs
  trimmed : IsTrimmed cs

theorem IsPiece.word (nonempty : cs ≠ []) (word : ∀ c ∈ cs, isWord c = true)
    (sizeless : ¬ Source.IsSizeWord cs) : IsPiece cs where
  inert := .word word sizeless
  passes := .of_all_isOrdinary fun c mem => isOrdinary_of_isWord (word c mem)
  trimmed := .of_isWord nonempty word

theorem IsPiece.quoted {mark : Char} (quote : Source.isQuote mark = true)
    (word : ∀ c ∈ cs, isWord c = true) (sizeless : ¬ Source.IsSizeWord cs) :
    IsPiece (mark :: (cs ++ [mark])) := by
  have plain : ∀ c ∈ cs, c ≠ mark ∧ c ≠ '\\' ∧ c ≠ '\n' := by
    intro c mem
    refine ⟨?_, ne_of_isWord (word c mem) (by decide), ne_of_isWord (word c mem) (by decide)⟩
    rintro rfl
    rw [Source.isQuote_eq_false_of_isWord (word c mem)] at quote
    cases quote
  have visible : isSpace mark = false := by
    simp only [Source.isQuote, Bool.or_eq_true, beq_iff_eq] at quote
    rcases quote with rfl | rfl <;> decide
  refine ⟨.quoted quote plain ?_, .quoted quote fun c mem =>
    ⟨(plain c mem).1, (plain c mem).2.1⟩, ?_⟩
  · rw [Source.wordRuns_of_all_isWord word]
    exact List.forall_mem_singleton.mpr sizeless
  · exact (IsTrimmed.singleton visible).append (.singleton visible) cs

/-- A text that stands alone is the only argument. -/
theorem IsPiece.readAll (h : IsPiece cs) (resolved : resolve lookup cs = .ok value) :
    readAll lookup (String.ofList cs) = .ok [value] := by
  have cut : split cs = [cs] := by
    have whole := @split_intercalate [cs] (by simpa using h.passes.stays)
      (by simpa using h.trimmed.isBlank_eq_false)
    rw [List.map_singleton, h.trimmed.trim_eq] at whole
    simpa using whole
  rw [Argument.readAll, String.toList_ofList, cut, List.mapM_cons, resolved]
  rfl

/-- A quoted text stands for what is between the quotes. -/
theorem resolve_quoted {mark : Char} (quote : Source.isQuote mark = true) (lookup : Lookup)
    (cs : List Char) :
    resolve lookup (mark :: (cs ++ [mark])) = .ok (.text (String.ofList cs)) := by
  have quoted : isQuoted (mark :: (cs ++ [mark])) = true := by
    rw [isQuoted, List.head?_cons, Option.any_some, quote]
  rw [resolve, if_pos quoted, unquote]
  simp

/-- The name of a variable stands for its value, unless it has the form of a colour name. -/
theorem resolve_variable {name : Identifier}
    (other : Color.nameStart.toList.isPrefixOf name.text = false) {x : Number}
    (declared : lookup (String.ofList name.text) = some x) :
    resolve lookup name.text = .ok (.number x) := by
  have resolved := Operand.resolve_write lookup (.reference name other)
  rw [Operand.value, declared] at resolved
  exact resolved

/-- Decimal digits stand alone. -/
theorem isPiece_decimalDigits (k : Nat) : IsPiece (Number.decimalDigits k) where
  inert := Formula.isInert_decimalDigits k
  passes := .of_all_isOrdinary fun _ mem =>
    isOrdinary_of_isWord (Number.isWord_of_mem_decimalDigits mem)
  trimmed := .of_isWord (Number.decimalDigits_ne_nil k) fun _ =>
    Number.isWord_of_mem_decimalDigits

end Argument

namespace HexLiteral

variable (n : HexLiteral)

theorem not_isSizeWord : ¬ Source.IsSizeWord n.text := by
  rintro (same | same)
  · exact absurd (List.cons.inj same).1 (by decide)
  · exact absurd (List.cons.inj same).1 (by decide)

theorem isPiece : Argument.IsPiece n.text :=
  .word (List.cons_ne_nil _ _) (fun _ => n.isWord_of_mem) n.not_isSizeWord

theorem isPiece_quoted {mark : Char} (quote : Source.isQuote mark = true) :
    Argument.IsPiece (mark :: (n.text ++ [mark])) :=
  .quoted quote (fun _ => n.isWord_of_mem) n.not_isSizeWord

end HexLiteral

/-- The name of a colour stands alone. -/
theorem Color.isPiece_of_constant? {name : String} {code : Nat}
    (constant : constant? name = some code) : Argument.IsPiece name.toList := by
  let x : Identifier := ⟨name.toList, isIdentifier_of_constant? constant⟩
  have named := isName_of_constant? constant
  refine .word x.ne_nil (fun _ => x.isWord_of_mem) ?_
  rintro (same | same)
  · rw [isName, same] at named
    cases named
  · rw [isName, same] at named
    cases named

/-! ## Steps -/

theorem Scope.lookup_declare (kind name : String) (value : Number) (scope : Scope) :
    (declare kind name value scope).lookup name = some value := by
  induction scope with
  | nil => simp [declare, lookup, get?]
  | cons v scope ih =>
      rw [declare]
      split
      · simp [lookup, get?]
      · rename_i other
        rw [lookup, get?, List.find?_cons, Bool.eq_false_iff.mpr other]
        exact ih

namespace Machine

variable {σ : Type} {surface : Surface σ} {machine : Machine σ}

/-- A declaration whose expression has a value changes nothing but the variable. -/
theorem step_declaration {kind name expression : String} {x : Number} (line : Nat)
    (valued : evaluate machine.context.scope.lookup expression = .ok x) :
    machine.step surface line (.declaration kind name expression)
      = { machine with context := machine.context.declare kind name x } := by
  rw [step, execute, declare, valued]
  rfl

/-- **Filling the screen** draws it in the colour of the argument. -/
theorem surface_step_fillScreen {cs : List Char} (piece : Argument.IsPiece cs)
    {value : Argument}
    (resolved : Argument.resolve machine.context.scope.lookup cs = .ok value) (line : Nat) :
    (machine.step surface line (.call "fillScreen" (String.ofList cs))).surface
      = (surface.drawShape (.screen value.toValue.toColor) machine.surface).1 := by
  have executed : machine.execute surface (.call "fillScreen" (String.ofList cs))
      = machine.draw (surface.drawShape (.screen value.toValue.toColor)) := by
    rw [execute, piece.readAll resolved]
    rfl
  rw [step, executed, draw]
  rcases surface.drawShape (.screen value.toValue.toColor) machine.surface
    with ⟨state, _ | fault⟩
  · rfl
  · rfl

end Machine

/-! ## Sketches with more lines -/

namespace Sketch

variable {σ : Type} {surface : Surface σ} {width height : Int} {before : String} {state : σ}

/-- A sketch with more lines below it. -/
def below (before : String) (lines : List (List Char)) : String :=
  before ++ "\n" ++ String.ofList (Source.joinLines lines)

/-- The word for filling the screen. -/
def fillWord : Script.Word := ⟨"fillScreen".toList, by decide, List.all_eq_true.mp rfl⟩

/-- The line that fills the screen. -/
def fillLine (argument : List Char) : List Char := Statement.callLine fillWord argument

/-- Lines below a sketch that fill the screen with a colour: whatever the sketch has left on
the surface, the surface is then asked to draw the whole screen in that colour. -/
def Paints (surface : Surface σ) (width height : Int) (before : String) (state : σ)
    (lines : List (List Char)) (color : Color) : Prop :=
  ∃ done whole, run surface (.int width) (.int height) before state = .ok done ∧
    run surface (.int width) (.int height) (below before lines) state = .ok whole ∧
    whole.surface = (surface.drawShape (.screen color) done.surface).1

/-- A name under which a variable can be declared and called. -/
structure IsVariable (name : Identifier) : Prop where
  /-- It has not the form of a colour name, which calls do not look up. -/
  uncolored : Color.nameStart.toList.isPrefixOf name.text = false
  /-- It is no word for the size of the screen, which is replaced before
  anything is declared. -/
  sizeless : ¬ Source.IsSizeWord name.text

/-- Lines below a sketch go on where the sketch has ended. -/
theorem exists_run_below (hwidth : Number.IsShort width) (hheight : Number.IsShort height)
    (surface : Surface σ) (before : String) (state : σ) {lines : List (List Char)}
    (nonempty : lines ≠ []) (inert : ∀ line ∈ lines, Source.IsInert line) :
    ∃ done whole first, run surface (.int width) (.int height) before state = .ok done ∧
      run surface (.int width) (.int height) (below before lines) state = .ok whole ∧
      (runStatements surface done (ofLines first lines)).surface = whole.surface := by
  have written : Source.writtenLines width height (String.ofList (Source.joinLines lines))
      = lines := by
    rw [Source.writtenLines, String.toList_ofList,
      Source.splitLines_joinLines nonempty fun line mem => (inert line mem).oneLine]
    have same : lines.map (Source.written width height) = lines.map id :=
      List.map_congr_left fun line mem =>
        Source.written_eq_self (inert line mem).words width height
    rw [same, List.map_id]
  have statements : ofLines 1 (Source.writtenLines width height (below before lines))
      = ofLines 1 (Source.writtenLines width height before)
          ++ ofLines (1 + (Source.writtenLines width height before).length) lines := by
    rw [below, writtenLines_append, written, ofLines_append]
  -- the two runs differ in the text that is quoted in reports, which does not
  -- reach the surface
  have matched := runStatements_matches (.refl surface)
    (begin_matches width height before (below before lines) state)
    (ofLines 1 (Source.writtenLines width height (below before lines)))
  refine ⟨_, _, 1 + (Source.writtenLines width height before).length,
    run_eq_ofLines hwidth hheight surface before state,
    run_eq_ofLines hwidth hheight surface (below before lines) state, ?_⟩
  rw [← runStatements_append, ← statements]
  exact matched.surface

section Lines

variable {cs : List Char} (piece : Argument.IsPiece cs)

include piece

theorem isInert_fillLine : Source.IsInert (fillLine cs) :=
  Statement.isInert_callLine (by decide) piece.inert

theorem ofLine?_fillLine :
    Statement.ofLine? (fillLine cs) = some (.call "fillScreen" (String.ofList cs)) :=
  Statement.ofLine?_callLine (by decide) piece.inert

/-- **An argument paints its colour.** -/
theorem paints_fillLine (hwidth : Number.IsShort width) (hheight : Number.IsShort height)
    {value : Argument} (resolved : ∀ lookup, Argument.resolve lookup cs = .ok value)
    {color : Color} (same : value.toValue.toColor = color) :
    Paints surface width height before state [fillLine cs] color := by
  obtain ⟨done, whole, first, ran, ran', ended⟩ :=
    exists_run_below hwidth hheight surface before state (List.cons_ne_nil _ _)
      (List.forall_mem_singleton.mpr (isInert_fillLine piece))
  refine ⟨done, whole, ran, ran', ?_⟩
  rw [← ended, ofLines_cons_of_some (ofLine?_fillLine piece), ← same]
  exact Machine.surface_step_fillScreen piece (resolved _) first

/-- **A variable paints the colour of its value.** -/
theorem paints_variable (hwidth : Number.IsShort width) (hheight : Number.IsShort height)
    {kind : String} (known : kind ∈ Statement.typeKeywords) {name : Identifier}
    (free : IsVariable name) {x : Number}
    (valued : ∀ done, run surface (.int width) (.int height) before state = .ok done →
      evaluate done.context.scope.lookup (String.ofList cs) = .ok x) {color : Color}
    (same : Color.ofNumber x = color) :
    Paints surface width height before state
      [Statement.declarationLine kind name cs, fillLine name.text] color := by
  have called : Argument.IsPiece name.text :=
    .word name.ne_nil (fun c => name.isWord_of_mem) free.sizeless
  obtain ⟨done, whole, first, ran, ran', ended⟩ :=
    exists_run_below hwidth hheight surface before state (List.cons_ne_nil _ _)
      (List.forall_mem_cons.mpr
        ⟨Statement.isInert_declarationLine known free.sizeless piece.inert,
          List.forall_mem_singleton.mpr (isInert_fillLine called)⟩)
  let declared : Machine σ :=
    { done with context := done.context.declare kind (String.ofList name.text) x }
  have resolved : Argument.resolve declared.context.scope.lookup name.text
      = .ok (.number x) :=
    Argument.resolve_variable free.uncolored (Scope.lookup_declare _ _ _ _)
  refine ⟨done, whole, ran, ran', ?_⟩
  rw [← ended, ofLines_cons_of_some
      (Statement.ofLine?_declarationLine known free.sizeless piece.trimmed piece.inert),
    ofLines_cons_of_some (ofLine?_fillLine called), runStatements_cons,
    Machine.step_declaration first (valued done ran), ← same]
  exact @Machine.surface_step_fillScreen σ surface declared _ called _ resolved (first + 1)

end Lines

/-- **All routes to a colour agree.**  Take a hexadecimal number of any length.  Expressions,
the reader of digits and arguments all read the same number from it, and its text, the number
and its low 16 bits have the same colour.  Below any sketch, and on any surface, filling the
screen with the number, with the number between quotes of either kind, or with a variable that
was declared with the number or with its low 16 bits, under any name that can be declared and
called, paints that colour.  In the same way the name of a colour and a variable that was
declared with it paint the same, unless the sketch has given the name to a variable. -/
theorem color_routes_agree (n : HexLiteral) (lookup : Lookup) (surface : Surface σ)
    (hwidth : Number.IsShort width) (hheight : Number.IsShort height) (before : String)
    (state : σ) :
    (evaluate lookup (String.ofList n.text) = .ok (.int n.value) ∧
      Argument.readHex? n.text = some n.value ∧
      Argument.resolve lookup n.text = .ok (.number (.int n.value)) ∧
      Value.toColor (.text (String.ofList n.text)) = Color.ofRgb565 n.value ∧
      Value.toColor (.number (.int n.value)) = Color.ofRgb565 n.value ∧
      Value.toColor (.number (.int (n.value % 65536 : Nat))) = Color.ofRgb565 n.value) ∧
    (Paints surface width height before state [fillLine n.text] (Color.ofRgb565 n.value) ∧
      (∀ mark, Source.isQuote mark = true →
        Paints surface width height before state [fillLine (mark :: (n.text ++ [mark]))]
          (Color.ofRgb565 n.value)) ∧
      ∀ kind ∈ Statement.typeKeywords, ∀ name, IsVariable name →
        (∀ m : HexLiteral, m.value = n.value ∨ m.value = n.value % 65536 →
          Paints surface width height before state
            [Statement.declarationLine kind name m.text, fillLine name.text]
            (Color.ofRgb565 n.value)) ∧
        Paints surface width height before state
          [Statement.declarationLine kind name (Number.decimalDigits (n.value % 65536)),
            fillLine name.text] (Color.ofRgb565 n.value)) ∧
    ∀ color code, Color.constant? color = some code →
      Paints surface width height before state [fillLine color.toList] (Color.ofRgb565 code) ∧
      ((∀ done, run surface (.int width) (.int height) before state = .ok done →
          done.context.scope.lookup color = none) →
        ∀ kind ∈ Statement.typeKeywords, ∀ name, IsVariable name →
          Paints surface width height before state
            [Statement.declarationLine kind name color.toList, fillLine name.text]
            (Color.ofRgb565 code)) := by
  have low : Color.ofRgb565 (n.value % 65536 : Nat) = Color.ofRgb565 n.value := by
    rw [Int.natCast_mod]
    exact Color.ofRgb565_emod _
  refine ⟨⟨n.evaluate_text lookup, n.readHex?_text, n.resolve_text lookup, n.toColor_text,
    rfl, low⟩,
    ⟨?_, ?_, ?_⟩, ?_⟩
  · exact paints_fillLine n.isPiece hwidth hheight n.resolve_text rfl
  · intro mark quote
    exact paints_fillLine (n.isPiece_quoted quote) hwidth hheight
      (fun lookup => Argument.resolve_quoted quote lookup n.text) n.toColor_text
  · intro kind known name free
    constructor
    · intro m same
      refine paints_variable m.isPiece hwidth hheight known free (fun _ _ =>
        m.evaluate_text _) ?_
      show Color.ofRgb565 m.value = Color.ofRgb565 n.value
      rcases same with same | same
      · rw [same]
      · rw [same, low]
    · exact paints_variable (Argument.isPiece_decimalDigits _) hwidth hheight known free
        (fun _ _ => evaluate_decimalDigits (by omega) _) low
  · intro color code constant
    have piece := Color.isPiece_of_constant? constant
    refine ⟨paints_fillLine piece hwidth hheight (Argument.resolve_of_constant? constant)
      (Color.toColor_of_constant? constant), ?_⟩
    intro hidden kind known name free
    have valued : ∀ done, run surface (.int width) (.int height) before state = .ok done →
        evaluate done.context.scope.lookup (String.ofList color.toList)
          = .ok (.int code) := by
      intro done ran
      rw [String.ofList_toList]
      exact evaluate_of_constant? constant (hidden done ran)
    exact paints_variable piece hwidth hheight known free valued rfl

/-- A number of 17 bits, and a name. -/
theorem color_routes_agree_red :
    let n : HexLiteral := ⟨'X', "1f800".toList, .inr rfl, by decide, List.all_eq_true.mp rfl⟩
    let m : HexLiteral := ⟨'x', "F800".toList, .inl rfl, by decide, List.all_eq_true.mp rfl⟩
    let x : Identifier := ⟨['x'], by decide⟩
    let paints := Paints (Surface.recording 240 320) 240 320 "" []
    Number.IsShort 240 ∧ Number.IsShort 320 ∧ IsVariable x ∧ m.value = n.value % 65536 ∧
      Color.ofRgb565 n.value = ⟨255, 0, 0⟩ ∧
      paints [fillLine "\'0X1f800\'".toList] (Color.ofRgb565 n.value) ∧
      paints ["uint16_t x = 0xF800;".toList, fillLine x.text] (Color.ofRgb565 n.value) ∧
      paints ["int x = TFT_RED;".toList, fillLine x.text] (Color.ofRgb565 0xF800) := by
  intro n m x paints
  have hwidth : Number.IsShort 240 := by decide
  have hheight : Number.IsShort 320 := by decide
  have free : IsVariable x := ⟨by decide, by decide⟩
  have low : m.value = n.value % 65536 := by decide
  obtain ⟨-, ⟨-, quoted, declared⟩, named⟩ := color_routes_agree n .empty
    (Surface.recording 240 320) hwidth hheight "" []
  have hidden : ∀ done,
      run (Surface.recording 240 320) (.int 240) (.int 320) "" [] = .ok done →
      done.context.scope.lookup "TFT_RED" = none := by
    intro done ran
    rw [run_eq_ofLines hwidth hheight] at ran
    cases ran
    rfl
  refine ⟨hwidth, hheight, free, low, by decide +kernel, quoted _ rfl, ?_, ?_⟩
  · exact (declared "uint16_t" (by decide) x free).1 m (.inr low)
  · exact (named "TFT_RED" 0xF800 rfl).2 hidden "int" (by decide) x free

/-- A variable with a name like that of a colour is not looked up. -/
theorem not_forall_declared_variable_paints :
    ¬ ∀ (n : HexLiteral) (name : Identifier), ¬ Source.IsSizeWord name.text →
      Paints (Surface.recording 240 320) 240 320 "" []
        [Statement.declarationLine "uint16_t" name n.text, fillLine name.text]
        (Color.ofRgb565 n.value) := by
  intro agree
  let n : HexLiteral := ⟨'x', "F800".toList, .inl rfl, by decide, List.all_eq_true.mp rfl⟩
  let name : Identifier := ⟨"TFT_X".toList, by decide⟩
  obtain ⟨done, whole, ran, ran', painted⟩ := agree n name (by decide)
  have nothing : (run (Surface.recording 240 320) (.int 240) (.int 320) "" []).map
      Machine.surface = .ok [] := by decide +kernel
  have white : (run (Surface.recording 240 320) (.int 240) (.int 320)
      (below "" [Statement.declarationLine "uint16_t" name n.text, fillLine name.text])
        []).map Machine.surface = .ok [.fillRect 0 0 240 320 .white] := by decide +kernel
  rw [ran] at nothing
  rw [ran'] at white
  rw [Except.ok.inj white, Except.ok.inj nothing] at painted
  exact absurd painted (by decide +kernel)

end Sketch

end SketchScreen
