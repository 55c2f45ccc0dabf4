import SketchScreen.Proofs.Source
import SketchScreen.Proofs.Spacing

/-!
# Writing the Size into Expressions

The size of the screen may reach an expression in two ways: its words are replaced by digits
before the expression is read, or they are looked up as names while it is evaluated.  Where
the second way gives a value, the first gives the same.

## Main Definitions

- `TokenContent.ofInt`: the contents of the tokens that write an integer out.
- `TokenContent.withSize`: what becomes of a token once the size is written.
- `Token.Becomes`: tokens that others become once the size is written.
- `Expr.Refines`: a tree that has the value of another wherever that has one.

## Design Notes

A word for the size is never a part of a literal, so it is replaced only where it is a name,
and a name ends at boundaries (`Token.Spaced`).  There its digits join nothing.

A negative size turns one name into two tokens.  The grammar derives both as a signed operand
where it derived an atom, and signs bind tighter than everything around them; so atoms are the
only stratum that does not keep its place (`Stratum.loosened`).
-/

namespace SketchScreen

open SketchScreen.Text

/-! ## Contents of tokens -/

namespace TokenContent

/-- The contents of the tokens that write an integer out. -/
def ofInt (n : Int) : List TokenContent :=
  if n < 0 then [.minus, .int n.natAbs] else [.int n.natAbs]

/-- What becomes of a token once the size of the screen is written. -/
def withSize (width height : Int) : TokenContent → List TokenContent
  | .name text =>
    if text.toList = Source.widthWord then ofInt width
    else if text.toList = Source.heightWord then ofInt height
    else [.name text]
  | content => [content]

/-- Operators and parentheses stay as they are. -/
theorem withSize_of_isOperand_eq_false {content : TokenContent}
    (h : content.isOperand = false) (width height : Int) :
    withSize width height content = [content] := by
  cases content with
  | name text => cases h
  | _ => rfl

end TokenContent

/-! ## Texts -/

namespace Source

open Token (IsBoundary Spaced)
open Lexeme (Spells)

variable {width height : Int}

/-- A boundary cuts a text into two parts that know nothing of each other. -/
theorem written_append (cs : List Char) {rest : List Char} (h : IsBoundary rest) :
    written width height (cs ++ rest) = written width height cs
      ++ written width height rest :=
  mapWords_append cs fun c mem => (h c mem).1

theorem isBoundary_written {cs : List Char} (h : IsBoundary cs) :
    IsBoundary (written width height cs) := by
  cases cs with
  | nil => exact .nil
  | cons c cs =>
      obtain ⟨word, point⟩ := h c rfl
      rw [written_cons word]
      exact .cons word point _

theorem written_name {text : List Char} (h : isName text = true) :
    written width height text
      = sizeWord (Number.intDigits width) (Number.intDigits height) text := by
  have nonempty : text ≠ [] := by
    rintro rfl
    cases h
  exact mapWordsFrom_of_all_isWord (fun c => Lexeme.isWord_of_isName h) [] (Or.inr nonempty)

/-- A text without a capital `H` holds no word for the size. -/
theorem written_of_notMem {cs : List Char} (h : 'H' ∉ cs) : written width height cs = cs := by
  refine written_eq_self (fun run mem => ?_) width height
  rintro (rfl | rfl)
  · exact h (mem_of_mem_wordRuns mem (by decide))
  · exact h (mem_of_mem_wordRuns mem (by decide))

/-- **Literals keep their text.** -/
theorem written_hex {text : List Char} (nonempty : text ≠ [])
    (length : Lexeme.hexLength text = text.length) : written width height text = text := by
  obtain ⟨mark, digits, rfl, letter, hex⟩ := Lexeme.eq_of_hexLength_eq_length nonempty length
  refine written_of_notMem fun mem => ?_
  have : 'H' ∈ digits := by
    rcases letter with rfl | rfl <;> simpa using mem
  exact absurd (hex _ this) (by decide)

theorem written_number {text : List Char} (length : Number.numberLength text = text.length) :
    written width height text = text := by
  refine written_of_notMem fun mem => ?_
  rcases Number.isDigit_or_mem_of_numberLength_eq length mem with digit | other
  · exact absurd digit (by decide)
  · exact absurd other (by decide)

/-- The digits of an integer and its sign are tokens of their own before a boundary. -/
theorem spaced_intDigits {n : Int} (short : Number.IsShort n) {rest : List Char}
    {row : List TokenContent} (boundary : IsBoundary rest) (h : Spaced rest row) :
    Spaced (Number.intDigits n ++ rest) (TokenContent.ofInt n ++ row) := by
  have digits : Spaced (Number.decimalDigits n.natAbs ++ rest) (.int n.natAbs :: row) :=
    .operand (.decimalDigits short) boundary h
  unfold Number.intDigits TokenContent.ofInt
  split
  · exact .operator rfl digits
  · exact digits

/-- **A spaced text stays spaced when the size is written into it**, each of its tokens
with what becomes of it. -/
theorem spaced_written (hwidth : Number.IsShort width) (hheight : Number.IsShort height)
    {cs : List Char} {row : List TokenContent} (h : Spaced cs row) :
    Spaced (written width height cs) (row.flatMap (TokenContent.withSize width height)) := by
  induction h with
  | nil => exact .nil
  | blank space _ ih =>
      rw [written_cons (isWord_eq_false_of_isSpace space)]
      exact .blank space ih
  | operator operator _ ih =>
      rw [written_cons (TokenContent.isWord_eq_false_of_ofOperator? operator).1,
        List.flatMap_cons, TokenContent.withSize_of_isOperand_eq_false
          (TokenContent.isOperand_of_ofOperator? operator).1]
      exact .operator operator ih
  | @operand text rest content row spells boundary _ ih =>
      have boundary' : IsBoundary (written width height rest) := isBoundary_written boundary
      rw [written_append text boundary, List.flatMap_cons]
      cases spells with
      | hex nonempty length =>
          rw [written_hex nonempty length]
          exact .operand (.hex nonempty length) boundary' ih
      | @number value nonempty hex length read =>
          have same : (Lexeme.ofNumber value).withSize width height
              = [Lexeme.ofNumber value] := by
            cases value <;> rfl
          rw [written_number length, same]
          exact .operand (.number nonempty hex length read) boundary' ih
      | name name =>
          -- a name is a word as a whole, so it is replaced or kept as one
          rw [written_name name, sizeWord, TokenContent.withSize, String.toList_ofList]
          split
          · exact spaced_intDigits hwidth boundary' ih
          · split
            · exact spaced_intDigits hheight boundary' ih
            · exact .operand (.name name) boundary' ih

end Source

/-! ## Trees -/

/-- The stratum of a phrase once the size is written: what was an atom may have a sign. -/
def Stratum.loosened : Stratum → Stratum
  | .atom => .signed
  | s => s

namespace Expr

variable {lookup : Lookup}

/-- A tree that has the value of another wherever that has one. -/
def Refines (lookup : Lookup) (e e' : Expr) : Prop :=
  ∀ source source' value, e.eval source lookup = .ok value →
    e'.eval source' lookup = .ok value

theorem Refines.literal (position position' : Nat) (value : Number) :
    Refines lookup (.literal position value) (.literal position' value) :=
  fun _ _ _ h => h

theorem Refines.name (position position' : Nat) (text : String) :
    Refines lookup (.name position text) (.name position' text) := by
  intro source source' value h
  rw [eval] at h ⊢
  split at h
  · exact h
  · cases h

theorem Refines.unary {e e' : Expr} (h : Refines lookup e e') (position position' : Nat)
    (operator : TokenKind) :
    Refines lookup (.unary position operator e) (.unary position' operator e') := by
  intro source source' value result
  cases operand : e.eval source lookup with
  | error fault => simp [eval, bind, Except.bind, operand] at result
  | ok inner =>
      simp only [eval, bind, Except.bind, operand] at result
      simp only [eval, bind, Except.bind, h source source' inner operand]
      unfold applyUnary at result ⊢
      split <;> simp_all

theorem Refines.binary {a a' b b' : Expr} (ha : Refines lookup a a')
    (hb : Refines lookup b b') (position position' : Nat) (operator : TokenKind) :
    Refines lookup (.binary position operator a b) (.binary position' operator a' b') := by
  intro source source' value result
  cases left : a.eval source lookup with
  | error fault => simp [eval, bind, Except.bind, left] at result
  | ok x =>
      cases right : b.eval source lookup with
      | error fault => simp [eval, bind, Except.bind, left, right] at result
      | ok y =>
          simp only [eval, bind, Except.bind, left, right] at result
          simp only [eval, bind, Except.bind, ha source source' x left,
            hb source source' y right]
          unfold applyBinary at result ⊢
          split <;> simp_all

/-- A name is refined by the integer that it is bound to, written with its sign. -/
theorem exists_derives_ofInt {text : String} {n : Int} (bound : lookup text = some (.int n))
    (position : Nat) {us : List Token}
    (contents : us.map Token.content = TokenContent.ofInt n) :
    ∃ e, Derives .signed us e ∧ Refines lookup (.name position text) e := by
  have valued : ∀ {source value}, eval source lookup (.name position text) = .ok value →
      value = .int n := by
    intro source value h
    rw [eval, Lookup.value?, bound] at h
    cases h
    rfl
  unfold TokenContent.ofInt at contents
  split at contents
  · rename_i negative
    obtain ⟨op, rest, rfl, minus, tail⟩ := List.map_eq_cons_iff.mp contents
    obtain ⟨t, rest, rfl, literal, tail⟩ := List.map_eq_cons_iff.mp tail
    obtain rfl := List.map_eq_nil_iff.mp tail
    refine ⟨_, .sign (Or.inr minus) (.ofAtom (.int literal)),
      fun source source' value h => ?_⟩
    have same : -(n.natAbs : Int) = n := by omega
    rw [valued h]
    simp only [eval, bind, Except.bind, Token.kind, minus, TokenContent.kind, applyUnary,
      Number.neg, same]
  · rename_i natural
    obtain ⟨t, rest, rfl, literal, tail⟩ := List.map_eq_cons_iff.mp contents
    obtain rfl := List.map_eq_nil_iff.mp tail
    refine ⟨_, .ofAtom (.int literal), fun source source' value h => ?_⟩
    have same : (n.natAbs : Int) = n := by omega
    rw [valued h, eval, same]

end Expr

namespace Token

/-- Tokens that others become once the size is written. -/
def Becomes (width height : Int) (ts us : List Token) : Prop :=
  us.map content = (ts.map content).flatMap (TokenContent.withSize width height)

namespace Becomes

variable {width height : Int} {ts us : List Token}

theorem eq_nil (h : Becomes width height [] us) : us = [] :=
  List.map_eq_nil_iff.mp h

/-- Two rows become two rows. -/
theorem append {left right : List Token} (h : Becomes width height (left ++ right) us) :
    ∃ left' right', us = left' ++ right' ∧ Becomes width height left left' ∧
      Becomes width height right right' := by
  rw [Becomes, List.map_append, List.flatMap_append] at h
  exact List.map_eq_append_iff.mp h

/-- What is no operand stays what it is. -/
theorem cons {op : Token} (other : op.content.isOperand = false)
    (h : Becomes width height (op :: ts) us) :
    ∃ op' us', us = op' :: us' ∧ op'.content = op.content ∧ Becomes width height ts us' := by
  rw [Becomes, List.map_cons, List.flatMap_cons,
    TokenContent.withSize_of_isOperand_eq_false other] at h
  exact List.map_eq_cons_iff.mp h

end Becomes

end Token

section Bound

variable {lookup : Lookup} {width height : Int}
  (boundWidth : lookup "WIDTH" = some (.int width))
  (boundHeight : lookup "HEIGHT" = some (.int height))

include boundWidth boundHeight

/-- **A phrase with the size written into it is a phrase with the same value**, by
induction on its derivation. -/
theorem Derives.exists_refines {s : Stratum} {ts us : List Token} {e : Expr}
    (h : Derives s ts e) (becomes : Token.Becomes width height ts us) :
    ∃ e', Derives s.loosened us e' ∧ Expr.Refines lookup e e' := by
  induction h generalizing us with
  | @sum left right op a b _ additive _ ihLeft ihRight =>
      obtain ⟨left', rest, rfl, hleft, hrest⟩ := becomes.append
      obtain ⟨op', right', rfl, same, hright⟩ := hrest.cons additive.isOperand_eq_false
      obtain ⟨a', derives, refines⟩ := ihLeft hleft
      obtain ⟨b', derives', refines'⟩ := ihRight hright
      refine ⟨_, .sum derives (by rwa [Token.IsAdditive, same]) derives', ?_⟩
      rw [Token.kind_eq_of_content_eq same]
      exact refines.binary refines' _ _ _
  | @product left right op a b _ multiplicative _ ihLeft ihRight =>
      obtain ⟨left', rest, rfl, hleft, hrest⟩ := becomes.append
      obtain ⟨op', right', rfl, same, hright⟩ := hrest.cons multiplicative.isOperand_eq_false
      obtain ⟨a', derives, refines⟩ := ihLeft hleft
      obtain ⟨b', derives', refines'⟩ := ihRight hright
      refine ⟨_, .product derives (by rwa [Token.IsMultiplicative, same]) derives', ?_⟩
      rw [Token.kind_eq_of_content_eq same]
      exact refines.binary refines' _ _ _
  | ofProduct _ ih =>
      obtain ⟨e', derives, refines⟩ := ih becomes
      exact ⟨e', .ofProduct derives, refines⟩
  | ofSigned _ ih =>
      obtain ⟨e', derives, refines⟩ := ih becomes
      exact ⟨e', .ofSigned derives, refines⟩
  | ofAtom _ ih => exact ih becomes
  | @sign op ts e additive _ ih =>
      obtain ⟨op', us, rfl, same, rest⟩ := becomes.cons additive.isOperand_eq_false
      obtain ⟨e', derives, refines⟩ := ih rest
      refine ⟨_, .sign (by rwa [Token.IsAdditive, same]) derives, ?_⟩
      rw [Token.kind_eq_of_content_eq same]
      exact refines.unary _ _ _
  | @int t n content =>
      rw [Token.Becomes, List.map_singleton, content] at becomes
      obtain ⟨t', rfl, same⟩ := List.map_eq_singleton_iff.mp becomes
      exact ⟨_, .ofAtom (.int same), .literal _ _ _⟩
  | @float t x content =>
      rw [Token.Becomes, List.map_singleton, content] at becomes
      obtain ⟨t', rfl, same⟩ := List.map_eq_singleton_iff.mp becomes
      exact ⟨_, .ofAtom (.float same), .literal _ _ _⟩
  | @name t text content =>
      -- the one place where a token may become two, and an atom a signed operand
      rw [Token.Becomes, List.map_singleton, content, List.flatMap_singleton,
        TokenContent.withSize] at becomes
      split at becomes
      · rename_i word
        obtain rfl : text = "WIDTH" := String.toList_injective word
        exact Expr.exists_derives_ofInt boundWidth _ becomes
      · split at becomes
        · rename_i word
          obtain rfl : text = "HEIGHT" := String.toList_injective word
          exact Expr.exists_derives_ofInt boundHeight _ becomes
        · obtain ⟨t', rfl, same⟩ := List.map_eq_singleton_iff.mp becomes
          exact ⟨_, .ofAtom (.name same), .name _ _ _⟩
  | @paren opening closing ts e open_ _ close ih =>
      obtain ⟨opening', us, rfl, sameOpen, rest⟩ := becomes.cons (by rw [open_]; rfl)
      obtain ⟨inner, last, rfl, inside, rest⟩ := rest.append
      obtain ⟨closing', last, rfl, sameClose, rest⟩ := rest.cons (by rw [close]; rfl)
      obtain rfl := rest.eq_nil
      obtain ⟨e', derives, refines⟩ := ih inside
      exact ⟨e', .ofAtom (.paren (sameOpen.trans open_) derives (sameClose.trans close)),
        refines⟩

/-- **The size of the screen may be written or looked up.**  Where an expression has a
value with the words for the size bound to two integers, it has the same value after
these are written into it. -/
theorem evaluate_substitute (hwidth : Number.IsShort width) (hheight : Number.IsShort height)
    {source : String} {value : Number} (h : evaluate lookup source = .ok value) :
    ∃ text, Source.substitute (.int width) (.int height) source = .ok text ∧
      evaluate lookup text = .ok value := by
  refine ⟨_, Source.substitute_int hwidth hheight source, ?_⟩
  obtain ⟨tree, parsed, valued⟩ := exists_parse_of_evaluate_ok h
  obtain ⟨ts, spaced, derives⟩ := Expr.spaced_of_parse parsed
  rw [trimString, String.toList_ofList, Token.Spaced.trim_iff] at spaced
  have written := Source.spaced_written hwidth hheight spaced
  rw [← Token.Spaced.trim_iff] at written
  obtain ⟨tree', parsed', valued'⟩ := Expr.parse_of_spaced written fun us contents =>
    derives.exists_refines boundWidth boundHeight contents
  rw [evaluate, Expr.evalText, trimString, String.toList_ofList, parsed']
  exact valued' _ _ _ valued

end Bound

/-- A screen of negative width: its minus joins no operator in front of it. -/
theorem evaluate_substitute_negative_width :
    ∃ text, Source.substitute (.int (-5)) (.int 240) "2*WIDTH-HEIGHT" = .ok text ∧
      evaluate (fun name => if name = "WIDTH" then some (.int (-5)) else
        if name = "HEIGHT" then some (.int 240) else none) text = .ok (.int (-250)) :=
  evaluate_substitute (by decide) (by decide) (by decide) (by decide) (by decide +kernel)

end SketchScreen
