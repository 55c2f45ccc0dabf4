import Mathlib.Data.List.Induction
import Mathlib.Data.Nat.Find
import SketchScreen.Argument
import SketchScreen.Source

/-!
# Two Scans of Quoted Texts

The search for comments and the scan of an argument list both have to know which characters
stand inside a quoted text, and each keeps its own account of backslashes.  Inside a quoted
text the search lets a backslash take the next character with it; the scan takes no quote for
a mark that has a backslash just before it, wherever it stands.  The two part where a quote
opens or closes a text for the search directly behind a backslash, and nowhere else.

## Main Definitions

- `Source.Search`, `Source.searchAt`: the search for comments, one character at a time.
- `Argument.scanAt`: the scan of an argument list after some characters.
- `Source.TurnsBehindBackslash`: a quote that opens or closes a text behind a backslash.
- `Source.Search.Agrees`: a search and a scan that stand at the same place of the same text.

## Design Notes

`commentOffset?` reads a backslash together with the character behind it.  `Search` keeps the
backslash in its state instead, so both scans take one step for every character and can be
compared step by step; that the search finds the same comments is `commentOffset?_eq_find?`.
-/

namespace SketchScreen

namespace Source

/-! ## The search for comments, one character at a time -/

/-- Where a search for comments stands. -/
structure Search where
  /-- The quote of the text that the search is inside of. -/
  quote : Option Char
  /-- Whether a backslash takes the next character with it. -/
  escaped : Bool
deriving DecidableEq, Repr

namespace Search

/-- The search of a line that has not begun. -/
def start : Search := ⟨none, false⟩

/-- The search after a character. -/
def advance (s : Search) (c : Char) : Search :=
  match s.quote with
  | none => ⟨if isQuote c then some c else none, false⟩
  | some mark =>
    if s.escaped then ⟨some mark, false⟩
    else if c == '\\' then ⟨some mark, true⟩
    else if c == mark then ⟨none, false⟩
    else ⟨some mark, false⟩

/-- The first comment of a text that a search goes on with. -/
def comment? (s : Search) (cs : List Char) : Option Nat :=
  (List.range cs.length).find? fun n =>
    ((cs.take n).foldl advance s).quote.isNone && ['/', '/'].isPrefixOf (cs.drop n)

theorem comment?_cons (s : Search) (c : Char) (cs : List Char) :
    s.comment? (c :: cs) =
      if s.quote.isNone && ['/', '/'].isPrefixOf (c :: cs) then some 0
      else ((s.advance c).comment? cs).map (· + 1) := by
  rw [comment?, List.length_cons, List.range_succ_eq_map, List.find?_cons, List.find?_map]
  simp only [List.take_zero, List.foldl_nil, List.drop_zero]
  split
  · rename_i found
    rw [if_pos found]
  · rename_i found
    rw [if_neg (by simp [found])]
    rfl

/-- A character at which no comment starts is passed over. -/
theorem map_comment?_cons {s next : Search} {c : Char} {cs : List Char}
    (here : (s.quote.isNone && ['/', '/'].isPrefixOf (c :: cs)) = false)
    (step : s.advance c = next) (offset : Nat) :
    (s.comment? (c :: cs)).map (offset + ·) = (next.comment? cs).map (offset + 1 + ·) := by
  rw [comment?_cons, here, step, if_neg (by simp), Option.map_map]
  congr 1
  funext n
  simp only [Function.comp]
  omega

/-- **The search finds what `commentOffset?` finds.** -/
theorem commentOffset?_eq_map_comment? (offset : Nat) (quote : Option Char) (cs : List Char) :
    commentOffset? offset quote cs = (comment? ⟨quote, false⟩ cs).map (offset + ·) := by
  fun_induction commentOffset? offset quote cs with
  | case1 => rfl
  | case2 offset quote c =>
      have here : ((Search.mk quote false).quote.isNone && ['/', '/'].isPrefixOf [c])
          = false := by
        simp [List.isPrefixOf]
      rw [map_comment?_cons here rfl]
      rfl
  | case3 offset c next rest mark backslash ih =>
      -- the backslash takes the next character with it, which is two steps of the search
      have first : (Search.mk (some mark) false).advance c = ⟨some mark, true⟩ := by
        simp [advance, backslash]
      have second : (Search.mk (some mark) true).advance next = ⟨some mark, false⟩ := rfl
      rw [ih, map_comment?_cons rfl first, map_comment?_cons rfl second]
  | case4 offset c next rest mark backslash closing ih =>
      have step : (Search.mk (some mark) false).advance c = ⟨none, false⟩ := by
        simp [advance, backslash, closing]
      rw [ih, map_comment?_cons rfl step]
  | case5 offset c next rest mark backslash closing ih =>
      have step : (Search.mk (some mark) false).advance c = ⟨some mark, false⟩ := by
        simp [advance, backslash, closing]
      rw [ih, map_comment?_cons rfl step]
  | case6 offset c next rest opening ih =>
      have slash : c ≠ '/' := by
        rintro rfl
        cases opening
      have here : ((Search.mk none false).quote.isNone
          && ['/', '/'].isPrefixOf (c :: next :: rest)) = false := by
        simp [List.isPrefixOf, Ne.symm slash]
      have step : (Search.mk none false).advance c = ⟨some c, false⟩ := by
        simp [advance, opening]
      rw [ih, map_comment?_cons here step]
  | case7 offset c next rest plain mark =>
      simp only [Bool.and_eq_true, beq_iff_eq] at mark
      obtain ⟨rfl, rfl⟩ := mark
      rw [comment?_cons]
      rfl
  | case8 offset c next rest plain mark ih =>
      have here : ((Search.mk none false).quote.isNone
          && ['/', '/'].isPrefixOf (c :: next :: rest)) = false := by
        rw [Bool.eq_false_iff]
        intro found
        simp only [Option.isNone_none, Bool.true_and, List.isPrefixOf, Bool.and_true,
          Bool.and_eq_true, beq_iff_eq] at found
        exact mark (by simp [← found.1, ← found.2])
      have step : (Search.mk none false).advance c = ⟨none, false⟩ := by
        simp [advance, plain]
      rw [ih, map_comment?_cons here step]

end Search

/-- The search for comments after the first characters of a line. -/
def searchAt (cs : List Char) (n : Nat) : Search :=
  (cs.take n).foldl Search.advance Search.start

/-- Whether a comment starts at an offset: its mark, outside of quoted texts. -/
def commentAt (cs : List Char) (n : Nat) : Bool :=
  (searchAt cs n).quote.isNone && ['/', '/'].isPrefixOf (cs.drop n)

/-- A line is cut at the first comment that the search comes across. -/
theorem commentOffset?_eq_find? (cs : List Char) :
    commentOffset? 0 none cs = (List.range cs.length).find? (commentAt cs) := by
  rw [Search.commentOffset?_eq_map_comment?]
  simp only [Nat.zero_add, Option.map_id']
  rfl

/-- A quote that opens or closes a text for the search, directly behind a backslash. -/
def TurnsBehindBackslash (cs : List Char) (n : Nat) : Prop :=
  (cs.take n).getLast? = some '\\' ∧ (searchAt cs (n + 1)).quote ≠ (searchAt cs n).quote

instance (cs : List Char) (n : Nat) : Decidable (TurnsBehindBackslash cs n) :=
  inferInstanceAs (Decidable (_ ∧ _))

end Source

/-! ## The scan of an argument list -/

namespace Argument

/-- The scan of an argument list after its first characters. -/
def scanAt (cs : List Char) (n : Nat) : Scan :=
  (cs.take n).foldl Scan.advance Scan.start

theorem Scan.advance_previous (s : Scan) (c : Char) : (s.advance c).previous = some c := by
  unfold advance
  split
  · split <;> rfl
  · split <;> rfl

/-- A character that is no mark leaves the scan inside or outside of a text. -/
theorem Scan.advance_quote_of_marks_eq_false {s : Scan} {c : Char} (h : s.marks c = false) :
    (s.advance c).quote = s.quote := by
  rw [advance, if_neg (by simp [h])]
  split
  · rename_i outside
    exact (Option.isNone_iff_eq_none.mp outside).symm
  · rfl

/-- A mark opens a text, and closes the text that it has opened. -/
theorem Scan.advance_quote_of_marks {s : Scan} {c : Char} (h : s.marks c = true) :
    (s.advance c).quote = match s.quote with
      | none => some c
      | some mark => if c == mark then none else some mark := by
  rw [advance, if_pos h]
  split <;> simp_all

/-- The scan keeps the last character. -/
theorem scanAt_previous (cs : List Char) (n : Nat) :
    (scanAt cs n).previous = (cs.take n).getLast? := by
  unfold scanAt
  rcases List.eq_nil_or_concat (cs.take n) with empty | ⟨before, c, last⟩
  · rw [empty]
    rfl
  · rw [last, List.concat_eq_append, List.foldl_append, List.foldl_cons, List.foldl_nil,
      Scan.advance_previous, List.getLast?_concat]

end Argument

/-! ## The two side by side -/

namespace Source

open Argument (Scan scanAt)

namespace Search

/-- A search and a scan that stand at the same place of the same text. -/
structure Agrees (s : Search) (t : Scan) : Prop where
  quote : s.quote = t.quote
  mark : ∀ mark ∈ s.quote, isQuote mark = true
  escaped : s.escaped = true → s.quote.isSome = true ∧ t.previous = some '\\'

theorem Agrees.start : Agrees start Scan.start :=
  ⟨rfl, by simp [Search.start], by simp [Search.start]⟩

variable {s : Search} {t : Scan}

theorem advance_of_quote_eq_none (h : s.quote = none) (c : Char) :
    s.advance c = ⟨if isQuote c then some c else none, false⟩ := by
  rw [advance, h]

theorem advance_of_quote_eq_some {mark : Char} (h : s.quote = some mark) (c : Char) :
    s.advance c =
      if s.escaped then ⟨some mark, false⟩
      else if c == '\\' then ⟨some mark, true⟩
      else if c == mark then ⟨none, false⟩
      else ⟨some mark, false⟩ := by
  rw [advance, h]

theorem Agrees.advance_outside (h : Agrees s t) (outside : s.quote = none) {c : Char}
    (turn : t.previous = some '\\' → (s.advance c).quote = s.quote) :
    Agrees (s.advance c) (t.advance c) := by
  rw [advance_of_quote_eq_none outside] at turn ⊢
  by_cases opening : isQuote c = true
  · have marks : t.marks c = true := by
      rw [Scan.marks, opening, Bool.true_and, bne_iff_ne]
      intro previous
      have same := turn previous
      rw [if_pos opening, outside] at same
      cases same
    refine ⟨?_, by simp [opening], by simp⟩
    rw [Scan.advance_quote_of_marks marks, ← h.quote, outside, if_pos opening]
  · have marks : t.marks c = false := by simp [Scan.marks, opening]
    refine ⟨?_, by simp [opening], by simp⟩
    rw [Scan.advance_quote_of_marks_eq_false marks, ← h.quote, outside, if_neg opening]

theorem Agrees.advance_inside (h : Agrees s t) {mark : Char} (inside : s.quote = some mark)
    {c : Char} (turn : t.previous = some '\\' → (s.advance c).quote = s.quote) :
    Agrees (s.advance c) (t.advance c) := by
  have isMark : isQuote mark = true := h.mark mark inside
  have kept : t.marks c = false → (t.advance c).quote = some mark := fun marks => by
    rw [Scan.advance_quote_of_marks_eq_false marks, ← h.quote, inside]
  rw [advance_of_quote_eq_some inside] at turn ⊢
  by_cases escaped : s.escaped = true
  · have previous := (h.escaped escaped).2
    rw [if_pos escaped]
    refine ⟨(kept (by simp [Scan.marks, previous])).symm, by simp [isMark], by simp⟩
  · rw [if_neg escaped] at turn ⊢
    by_cases backslash : c = '\\'
    · subst backslash
      refine ⟨(kept (by simp [Scan.marks, isQuote])).symm, by simp [isMark], fun _ => ?_⟩
      exact ⟨rfl, Scan.advance_previous t _⟩
    · rw [if_neg (by simp [backslash])] at turn ⊢
      by_cases closing : c = mark
      · subst closing
        have marks : t.marks c = true := by
          rw [Scan.marks, isMark, Bool.true_and, bne_iff_ne]
          intro previous
          have same := turn previous
          simp [inside] at same
        refine ⟨?_, by simp, by simp⟩
        rw [Scan.advance_quote_of_marks marks, ← h.quote, inside]
        simp
      · rw [if_neg (by simp [closing])]
        refine ⟨?_, by simp [isMark], by simp⟩
        by_cases marks : t.marks c = true
        · rw [Scan.advance_quote_of_marks marks, ← h.quote, inside]
          simp [closing]
        · exact (kept (by simpa using marks)).symm

/-- **One step keeps the two together**, unless it is a quote behind a backslash. -/
theorem Agrees.advance (h : Agrees s t) {c : Char}
    (turn : t.previous = some '\\' → (s.advance c).quote = s.quote) :
    Agrees (s.advance c) (t.advance c) := by
  cases place : s.quote with
  | none => exact h.advance_outside place turn
  | some mark => exact h.advance_inside place turn

/-- **A quote behind a backslash sets the two apart.** -/
theorem Agrees.isSome_ne (h : Agrees s t) {c : Char} (previous : t.previous = some '\\')
    (turn : (s.advance c).quote ≠ s.quote) :
    (s.advance c).quote.isSome ≠ (t.advance c).quote.isSome := by
  have marks : t.marks c = false := by simp [Scan.marks, previous]
  rw [Scan.advance_quote_of_marks_eq_false marks, ← h.quote]
  cases place : s.quote with
  | none =>
      rw [place] at turn
      rw [Option.isSome_iff_ne_none.mpr turn]
      simp
  | some mark =>
      -- inside a text the search either goes on in it or leaves it
      have outside : (s.advance c).quote = none := by
        rw [advance_of_quote_eq_some place] at turn ⊢
        rw [place] at turn
        split at turn
        · exact absurd rfl turn
        · split at turn
          · exact absurd rfl turn
          · split at turn
            · simp_all
            · exact absurd rfl turn
      simp [outside]

end Search

/-- One more character. -/
theorem searchAt_succ (cs : List Char) (n : Nat) :
    searchAt cs (n + 1) = cs[n]?.toList.foldl Search.advance (searchAt cs n) := by
  rw [searchAt, searchAt, List.take_add_one, List.foldl_append]

theorem scanAt_succ (cs : List Char) (n : Nat) :
    scanAt cs (n + 1) = cs[n]?.toList.foldl Scan.advance (scanAt cs n) := by
  rw [scanAt, scanAt, List.take_add_one, List.foldl_append]

/-- **A run without a quote behind a backslash keeps the two together.** -/
theorem agrees_of_forall_not_turns {cs : List Char} {n : Nat}
    (h : ∀ i < n, ¬ TurnsBehindBackslash cs i) : (searchAt cs n).Agrees (scanAt cs n) := by
  induction n with
  | zero => exact .start
  | succ n ih =>
      have before := ih fun i less => h i (Nat.lt_succ_of_lt less)
      have last := h n (Nat.lt_succ_self n)
      rw [TurnsBehindBackslash, searchAt_succ] at last
      rw [searchAt_succ, scanAt_succ]
      cases char : cs[n]? with
      | none => exact before
      | some c =>
          rw [char] at last
          refine before.advance fun previous => ?_
          rw [Argument.scanAt_previous] at previous
          by_contra turn
          exact last ⟨previous, turn⟩

/-- A quote behind a backslash sets them apart, at the first place where there is one. -/
theorem exists_isSome_ne_of_turns {cs : List Char} {n : Nat}
    (h : ∃ i, i < n ∧ TurnsBehindBackslash cs i) :
    ∃ i ≤ n, (searchAt cs i).quote.isSome ≠ (scanAt cs i).quote.isSome := by
  -- up to the first such quote the two are together, so its step can be compared
  obtain ⟨less, previous, turn⟩ := Nat.find_spec h
  have earliest : ∀ i < Nat.find h, ¬ TurnsBehindBackslash cs i := fun i before turns =>
    Nat.find_min h before ⟨Nat.lt_trans before less, turns⟩
  have together := agrees_of_forall_not_turns earliest
  refine ⟨Nat.find h + 1, less, ?_⟩
  rw [searchAt_succ] at turn ⊢
  rw [scanAt_succ]
  rw [← Argument.scanAt_previous] at previous
  cases char : cs[Nat.find h]? with
  | none =>
      rw [char] at turn
      exact absurd rfl turn
  | some c =>
      rw [char] at turn
      exact together.isSome_ne previous turn

/-! ### Commas and parentheses -/

/-- A comma separates arguments only outside of quoted texts. -/
theorem Search.Agrees.separates_iff {s : Search} {t : Scan} (h : s.Agrees t) :
    t.separates ',' = true ↔ s.quote = none ∧ t.depth = 0 := by
  have marks : t.marks ',' = false := by simp [Scan.marks, isQuote]
  simp [Scan.separates, marks, h.quote]

/-- A parenthesis counts only outside of quoted texts. -/
theorem Search.Agrees.depth_ne_iff {s : Search} {t : Scan} (h : s.Agrees t) {c : Char}
    (paren : c = '(' ∨ c = ')') : (t.advance c).depth ≠ t.depth ↔ s.quote = none := by
  have marks : t.marks c = false := by
    rcases paren with rfl | rfl <;> simp [Scan.marks, isQuote]
  rw [Scan.advance, if_neg (by simp [marks]), h.quote]
  cases t.quote with
  | none =>
      refine iff_of_true ?_ rfl
      rcases paren with rfl | rfl
      · show t.depth + 1 ≠ t.depth
        omega
      · show t.depth - 1 ≠ t.depth
        omega
  | some mark => simp

/-- **The search for comments and the scan of arguments agree on what is quoted**, up to a
place of a text, exactly if no quote before it opens or closes a text for the search behind a
backslash.  Then a comma or a parenthesis counts for the scan only where the search is
outside of quoted texts, and outside of them it always counts.  The comment is the first one
that the search comes across. -/
theorem quoted_agree_iff (cs : List Char) (n : Nat) :
    ((∀ i ≤ n, (searchAt cs i).quote.isSome = (scanAt cs i).quote.isSome) ↔
        ∀ i < n, ¬ TurnsBehindBackslash cs i) ∧
      ((∀ i < n, ¬ TurnsBehindBackslash cs i) → ∀ i ≤ n,
        ((scanAt cs i).separates ',' = true ↔
          (searchAt cs i).quote = none ∧ (scanAt cs i).depth = 0) ∧
        ∀ c, c = '(' ∨ c = ')' →
          (((scanAt cs i).advance c).depth ≠ (scanAt cs i).depth ↔
            (searchAt cs i).quote = none)) ∧
      commentOffset? 0 none cs = (List.range cs.length).find? (commentAt cs) := by
  have together : (∀ i < n, ¬ TurnsBehindBackslash cs i) → ∀ i ≤ n,
      (searchAt cs i).Agrees (scanAt cs i) := fun straight i le =>
    agrees_of_forall_not_turns fun j less => straight j (Nat.lt_of_lt_of_le less le)
  refine ⟨⟨fun agree i less turns => ?_, fun straight i le => ?_⟩, fun straight i le => ?_,
    commentOffset?_eq_find? cs⟩
  · obtain ⟨j, le, ne⟩ := exists_isSome_ne_of_turns ⟨i, less, turns⟩
    exact ne (agree j le)
  · rw [(together straight i le).quote]
  · have agrees := together straight i le
    exact ⟨agrees.separates_iff, fun c paren => agrees.depth_ne_iff paren⟩

/-- The line `"a\"b", 'c' // d`, in which the quote behind the backslash belongs
to the text. -/
theorem quoted_agree_escaped_quote :
    ∀ i ≤ 15, (searchAt "\"a\\\"b\", 'c' // d".toList i).quote.isSome
      = (scanAt "\"a\\\"b\", 'c' // d".toList i).quote.isSome :=
  (quoted_agree_iff _ 15).1.mpr (by decide)

/-- Behind an escaped backslash the two part: the text `"\\"` is closed for the search, and
the comma after it still inside a text for the scan. -/
theorem not_forall_quoted_agree :
    ¬ ∀ (cs : List Char) (i : Nat), (∀ n, commentOffset? 0 none cs = some n → i ≤ n) →
      (searchAt cs i).quote.isSome = (scanAt cs i).quote.isSome := by
  intro agree
  have comma := agree "\"\\\\\",".toList 4 (by decide)
  exact absurd comma (by decide)

end Source

end SketchScreen
