import SketchScreen.Proofs.Quoting
import SketchScreen.Proofs.Source

/-!
# Pieces of Argument Lists

An argument list is cut at its separators and nowhere else: with commas between them, its
pieces are the list again.  The other way round, arguments that hold no separator of their own
are cut apart again however they are set off from the commas between them.

## Main Definitions

- `Argument.Scan.separatesAt`: the offsets at which a scan comes across a separator.
- `Argument.IsWhole`: a text that is one argument when it stands alone.
- `Argument.Field`: such a text with blanks around it.
- `Argument.Scan.IsTop`, `Argument.Passes`: texts that leave a scan at the top
  level where it was.
- `Argument.Stays`: texts that do so but for a backslash at their end.

## Design Notes

Cutting an argument list keeps a state from one character to the next.  `Passes` says of
a text that whatever surrounds it, a scan that enters it at the top level leaves it
there, so what a quoted text holds, be it commas, parentheses or quotes of the other
kind, stays within its argument.

A text may end with a backslash, which would keep a quote behind it from opening a text.  No
quote comes directly behind an argument, so `Stays` allows for it; but texts that stay cannot
be put together, and those that pass can.
-/

namespace SketchScreen.Argument

open SketchScreen.Text

/-! ## Separators -/

namespace Scan

/-- Whether a scan that goes on with a text comes across a separator at an
offset of the text. -/
def separatesAt (s : Scan) (cs : List Char) (n : Nat) : Bool :=
  cs[n]?.any ((cs.take n).foldl advance s).separates

@[simp] theorem separatesAt_nil (s : Scan) (n : Nat) : s.separatesAt [] n = false := rfl

@[simp] theorem separatesAt_cons_zero (s : Scan) (c : Char) (cs : List Char) :
    s.separatesAt (c :: cs) 0 = s.separates c := rfl

@[simp] theorem separatesAt_cons_succ (s : Scan) (c : Char) (cs : List Char) (n : Nat) :
    s.separatesAt (c :: cs) (n + 1) = (s.advance c).separatesAt cs n := rfl

theorem eq_comma_of_separates {s : Scan} {c : Char} (h : s.separates c = true) : c = ',' := by
  simp only [separates, Bool.and_eq_true, beq_iff_eq] at h
  exact h.1.2

end Scan

/-- The first piece begins with what has been read of it. -/
theorem exists_piecesFrom_eq_cons (s : Scan) (piece cs : List Char) :
    ∃ more others, piecesFrom s piece cs = (piece.reverse ++ more) :: others := by
  induction cs generalizing s piece with
  | nil => exact ⟨[], [], by simp [piecesFrom]⟩
  | cons c cs ih =>
      unfold piecesFrom
      split
      · exact ⟨[], _, by rw [List.append_nil]⟩
      · obtain ⟨more, others, found⟩ := ih (s.advance c) (c :: piece)
        exact ⟨c :: more, others, by simp [found]⟩

/-- A list is longer than its first pieces are, commas between them included. -/
theorem length_head_le_length_intercalate {first : List Char} {others : List (List Char)} :
    first.length ≤ ([','].intercalate (first :: others)).length := by
  cases others with
  | nil => simp
  | cons second others => simp [List.intercalate_cons_cons]

/-- **Nothing is lost**: with commas between them, the pieces are the text. -/
theorem intercalate_piecesFrom (s : Scan) (piece cs : List Char) :
    [','].intercalate (piecesFrom s piece cs) = piece.reverse ++ cs := by
  induction cs generalizing s piece with
  | nil => simp [piecesFrom]
  | cons c cs ih =>
      unfold piecesFrom
      split
      · rename_i separates
        obtain ⟨more, others, found⟩ := exists_piecesFrom_eq_cons (s.advance c) [] cs
        have joined := ih (s.advance c) []
        rw [found] at joined ⊢
        rw [List.intercalate_cons_cons, joined, Scan.eq_comma_of_separates separates]
        simp
      · rw [ih, List.reverse_cons, List.append_assoc, List.singleton_append]

/-- **The cuts are the separators**: a scan comes across a separator exactly where some of the
pieces, but not all of them, make up the text before. -/
theorem separatesAt_iff_piecesFrom (s : Scan) (piece cs : List Char) (n : Nat) :
    s.separatesAt cs n = true ↔ ∃ front back, front ≠ [] ∧ back ≠ [] ∧
      piecesFrom s piece cs = front ++ back ∧
      [','].intercalate front = piece.reverse ++ cs.take n := by
  induction cs generalizing s piece n with
  | nil =>
      refine iff_of_false (by simp) ?_
      rintro ⟨front, back, hfront, hback, cut, -⟩
      have length := congrArg List.length cut
      simp only [piecesFrom, List.length_cons, List.length_nil, List.length_append] at length
      have := List.length_pos_iff.mpr hfront
      have := List.length_pos_iff.mpr hback
      omega
  | cons c cs ih =>
      unfold piecesFrom
      split
      · rename_i separates
        have comma := Scan.eq_comma_of_separates separates
        cases n with
        | zero =>
            refine iff_of_true (by simpa using separates)
              ⟨[piece.reverse], _, by simp, ?_, rfl, by simp⟩
            obtain ⟨more, others, found⟩ := exists_piecesFrom_eq_cons (s.advance c) [] cs
            simp [found]
        | succ n =>
            rw [Scan.separatesAt_cons_succ, ih (s.advance c) []]
            constructor
            · rintro ⟨front, back, hfront, hback, cut, joined⟩
              obtain ⟨first, others, rfl⟩ := List.exists_cons_of_ne_nil hfront
              refine ⟨piece.reverse :: first :: others, back, by simp,
                hback, by simp [cut], ?_⟩
              rw [List.intercalate_cons_cons, joined, comma]
              simp
            · rintro ⟨front, back, hfront, hback, cut, joined⟩
              obtain ⟨first, others, rfl⟩ := List.exists_cons_of_ne_nil hfront
              obtain ⟨rfl, rest⟩ := List.cons_eq_cons.mp cut
              -- the piece that ends here is not all of the text before the later offset
              cases others with
              | nil => simp at joined
              | cons second others =>
                  refine ⟨second :: others, back, by simp, hback, rest, ?_⟩
                  rw [List.intercalate_cons_cons, comma] at joined
                  simpa using joined
      · rename_i separates
        cases n with
        | zero =>
            refine iff_of_false (by simpa using separates) ?_
            rintro ⟨front, back, hfront, -, cut, joined⟩
            obtain ⟨first, others, rfl⟩ := List.exists_cons_of_ne_nil hfront
            obtain ⟨more, _, found⟩ := exists_piecesFrom_eq_cons (s.advance c) (c :: piece) cs
            rw [found] at cut
            obtain ⟨rfl, -⟩ := List.cons_eq_cons.mp cut
            have length := @length_head_le_length_intercalate
              ((c :: piece).reverse ++ more) others
            rw [joined] at length
            simp at length
        | succ n => simp [ih (s.advance c) (c :: piece)]

/-- Every piece is trimmed, and only the last one may be dropped. -/
theorem trimPieces_concat (kept : List (List Char)) (last : List Char) :
    trimPieces (kept ++ [last]) = kept.map trim ++ if isBlank last then []
      else [trim last] := by
  induction kept with
  | nil => rfl
  | cons piece kept ih =>
      rw [List.cons_append, trimPieces, ih, List.map_cons, List.cons_append]
      simp

/-! ## Scans at the top level -/

/-- A scan outside of texts and parentheses, with no backslash just before. -/
structure Scan.IsTop (s : Scan) : Prop where
  quote : s.quote = none
  depth : s.depth = 0
  previous : s.previous ≠ some '\\'

theorem Scan.IsTop.start : Scan.start.IsTop := ⟨rfl, rfl, by simp [Scan.start]⟩

/-- A text that a scan enters and leaves at the top level, and that holds no
separator there. -/
def Passes (cs : List Char) : Prop :=
  ∀ s : Scan, s.IsTop → ∃ t : Scan, t.IsTop ∧
    ∀ piece rest, piecesFrom s piece (cs ++ rest) = piecesFrom t (cs.reverse ++ piece) rest

/-- A character that is neither a mark nor a separator. -/
def IsOrdinary (c : Char) : Prop :=
  Source.isQuote c = false ∧ c ≠ '\\' ∧ c ≠ ',' ∧ c ≠ '(' ∧ c ≠ ')'

instance (c : Char) : Decidable (IsOrdinary c) :=
  inferInstanceAs (Decidable (_ ∧ _))

theorem isOrdinary_of_isWord {c : Char} (h : isWord c = true) : IsOrdinary c :=
  ⟨Source.isQuote_eq_false_of_isWord h, ne_of_isWord h (by decide),
    ne_of_isWord h (by decide), ne_of_isWord h (by decide), ne_of_isWord h (by decide)⟩

theorem isOrdinary_of_isSpace {c : Char} (h : isSpace c = true) : IsOrdinary c :=
  ⟨Source.isQuote_eq_false_of_isSpace h, ne_of_isSpace h (by decide),
    ne_of_isSpace h (by decide), ne_of_isSpace h (by decide), ne_of_isSpace h (by decide)⟩

/-- Outside of texts an ordinary character changes nothing but what comes before
the next one. -/
theorem IsOrdinary.advance_eq {s : Scan} {c : Char} (h : IsOrdinary c)
    (quote : s.quote = none) :
    s.advance c = ⟨some c, none, s.depth⟩ ∧ s.separates c = false := by
  obtain ⟨noQuote, -, comma, opening, closing⟩ := h
  have mark : s.marks c = false := by simp [Scan.marks, noQuote]
  simp [Scan.advance, Scan.separates, mark, quote, comma, opening, closing]

namespace Passes

theorem nil : Passes [] := fun s top => ⟨s, top, fun _ _ => rfl⟩

theorem append {cs ds : List Char} (h : Passes cs) (h' : Passes ds) : Passes (cs ++ ds) := by
  intro s top
  obtain ⟨t, top, passed⟩ := h s top
  obtain ⟨u, top, passed'⟩ := h' t top
  refine ⟨u, top, fun piece rest => ?_⟩
  rw [List.append_assoc, passed, passed', List.reverse_append, List.append_assoc]

theorem singleton {c : Char} (h : IsOrdinary c) : Passes [c] := by
  intro s top
  obtain ⟨advanced, separator⟩ := h.advance_eq top.quote
  refine ⟨s.advance c, ?_, fun piece rest => by simp [piecesFrom, separator]⟩
  rw [advanced]
  exact ⟨rfl, top.depth, by simpa using h.2.1⟩

theorem of_all_isOrdinary {cs : List Char} (h : ∀ c ∈ cs, IsOrdinary c) : Passes cs := by
  induction cs with
  | nil => exact nil
  | cons c cs ih =>
      rw [List.forall_mem_cons] at h
      exact (singleton h.1).append (ih h.2)

end Passes

/-- Inside of quotes nothing separates, until the quote that closes. -/
theorem piecesFrom_quoted {mark : Char} {cs : List Char}
    (isQuote : Source.isQuote mark = true) (plain : ∀ c ∈ cs, c ≠ mark ∧ c ≠ '\\') {s : Scan}
    (quote : s.quote = some mark) (previous : s.previous ≠ some '\\')
    (piece rest : List Char) :
    piecesFrom s piece (cs ++ mark :: rest)
      = piecesFrom ⟨some mark, none, s.depth⟩ (mark :: (cs.reverse ++ piece)) rest := by
  induction cs generalizing s piece with
  | nil =>
      have closes : s.marks mark = true := by simp [Scan.marks, isQuote, previous]
      simp [piecesFrom, Scan.separates, Scan.advance, closes, quote]
  | cons c cs ih =>
      rw [List.forall_mem_cons] at plain
      obtain ⟨⟨noQuote, noBackslash⟩, plain⟩ := plain
      have separator : s.separates c = false := by simp [Scan.separates, quote]
      -- the other quote counts as a mark too, but only the quote that opened a text closes it
      have inside : (s.advance c).quote = some mark ∧ (s.advance c).depth = s.depth ∧
          (s.advance c).previous = some c := by
        unfold Scan.advance
        split
        · simp [quote, noQuote]
        · simp [quote]
      have last : (s.advance c).previous ≠ some '\\' := by
        rw [inside.2.2]
        simpa using noBackslash
      have following := ih plain inside.1 last (c :: piece)
      rw [inside.2.1] at following
      simp [piecesFrom, separator, following]

/-- A quoted text passes as a whole, whatever it holds. -/
theorem Passes.quoted {mark : Char} {cs : List Char} (isQuote : Source.isQuote mark = true)
    (plain : ∀ c ∈ cs, c ≠ mark ∧ c ≠ '\\') : Passes (mark :: (cs ++ [mark])) := by
  have noBackslash := Source.ne_backslash_of_isQuote isQuote
  intro s top
  refine ⟨⟨some mark, none, 0⟩, ⟨rfl, rfl, by simp [noBackslash]⟩, fun piece rest => ?_⟩
  have opens : s.marks mark = true := by simp [Scan.marks, isQuote, top.previous]
  have separator : s.separates mark = false := by simp [Scan.separates, opens]
  have opened : s.advance mark = ⟨some mark, some mark, 0⟩ := by
    simp [Scan.advance, opens, top.quote, top.depth]
  rw [List.cons_append, List.append_assoc, piecesFrom, separator, opened]
  show piecesFrom _ _ (cs ++ mark :: rest) = _
  rw [piecesFrom_quoted isQuote plain rfl (by simp [noBackslash])]
  simp

/-- A text that a scan enters at the top level and leaves outside of texts and parentheses,
and that holds no separator there. -/
def Stays (cs : List Char) : Prop :=
  ∀ s : Scan, s.IsTop → ∃ t : Scan, t.quote = none ∧ t.depth = 0 ∧
    ∀ piece rest, piecesFrom s piece (cs ++ rest) = piecesFrom t (cs.reverse ++ piece) rest

theorem Passes.stays_append {cs ds : List Char} (h : Passes cs) (h' : Stays ds) :
    Stays (cs ++ ds) := by
  intro s top
  obtain ⟨t, top, passed⟩ := h s top
  obtain ⟨u, quote, depth, stayed⟩ := h' t top
  refine ⟨u, quote, depth, fun piece rest => ?_⟩
  rw [List.append_assoc, passed, stayed, List.reverse_append, List.append_assoc]

theorem Passes.stays {cs : List Char} (h : Passes cs) : Stays cs := by
  have nothing : Stays [] := fun s top => ⟨s, top.quote, top.depth, fun _ _ => rfl⟩
  simpa using h.stays_append nothing

/-- Blanks behind a text keep a scan where it was. -/
theorem Stays.append_blank {cs gap : List Char} (h : Stays cs) (blank : isBlank gap = true) :
    Stays (cs ++ gap) := by
  rw [isBlank, List.all_eq_true] at blank
  intro s top
  obtain ⟨t, quote, depth, stayed⟩ := h s top
  clear h top
  induction gap generalizing cs t with
  | nil => exact ⟨t, quote, depth, by simpa using stayed⟩
  | cons c gap ih =>
      rw [List.forall_mem_cons] at blank
      obtain ⟨advanced, separator⟩ := (isOrdinary_of_isSpace blank.1).advance_eq quote
      have following : ∀ piece rest, piecesFrom s piece (cs ++ [c] ++ rest)
          = piecesFrom (t.advance c) ((cs ++ [c]).reverse ++ piece) rest := by
        intro piece rest
        simp [stayed, piecesFrom, separator]
      have ended := ih blank.2 (t.advance c) (by rw [advanced]) (by rw [advanced, depth])
        following
      simpa using ended

/-! ## Joining texts -/

/-- The pieces of texts that stay, with commas between them. -/
theorem piecesFrom_intercalate {s : Scan} (top : s.IsTop) (piece first : List Char)
    {texts : List (List Char)} (hfirst : Stays first) (h : ∀ cs ∈ texts, Stays cs) :
    piecesFrom s piece ([','].intercalate (first :: texts))
      = (piece.reverse ++ first) :: texts := by
  obtain ⟨t, quote, depth, stayed⟩ := hfirst s top
  induction texts generalizing s piece first t with
  | nil =>
      have whole := stayed piece []
      rw [List.append_nil] at whole
      simp [whole, piecesFrom]
  | cons second texts ih =>
      rw [List.forall_mem_cons] at h
      have separator : t.separates ',' = true := by
        simp [Scan.separates, Scan.marks, Source.isQuote, quote, depth]
      -- the comma itself is what stands before the next text, and no backslash
      have after : (t.advance ',').IsTop := by
        simp only [Scan.advance, Scan.marks, Source.isQuote, quote]
        exact ⟨rfl, by simp [depth], by simp⟩
      obtain ⟨u, quote', depth', stayed'⟩ := h.1 _ after
      rw [List.intercalate_cons_cons, List.append_assoc, stayed, List.singleton_append,
        piecesFrom, if_pos separator, ih after [] second h.1 h.2 u quote' depth' stayed']
      simp

/-- Pieces that are not blank are all kept. -/
theorem trimPieces_eq_map {pieces : List (List Char)}
    (h : ∀ piece ∈ pieces, isBlank piece = false) :
    trimPieces pieces = pieces.map trim := by
  rcases List.eq_nil_or_concat pieces with rfl | ⟨kept, last, rfl⟩
  · rfl
  · rw [List.concat_eq_append] at h ⊢
    rw [trimPieces_concat, h last (by simp), List.map_append]
    rfl

/-- **Texts that stay are cut apart again.** -/
theorem split_intercalate {texts : List (List Char)} (h : ∀ cs ∈ texts, Stays cs)
    (filled : ∀ cs ∈ texts, isBlank cs = false) :
    split ([','].intercalate texts) = texts.map trim := by
  cases texts with
  | nil => rfl
  | cons first texts =>
      rw [List.forall_mem_cons] at h
      rw [split, pieces, piecesFrom_intercalate .start [] first h.1 h.2]
      exact trimPieces_eq_map filled

/-! ## Texts that are arguments when they stand alone -/

/-- A text that starts and ends with no blank and in which a scan of its own finds no
separator, to end outside of texts and parentheses. -/
structure IsWhole (cs : List Char) : Prop where
  trimmed : IsTrimmed cs
  unseparated : ∀ n < cs.length, Scan.start.separatesAt cs n = false
  quote : (scanAt cs cs.length).quote = none
  depth : (scanAt cs cs.length).depth = 0

/-- A text without separators belongs to one piece. -/
theorem piecesFrom_append {s : Scan} {cs : List Char}
    (h : ∀ n < cs.length, s.separatesAt cs n = false) (piece rest : List Char) :
    piecesFrom s piece (cs ++ rest)
      = piecesFrom (cs.foldl Scan.advance s) (cs.reverse ++ piece) rest := by
  induction cs generalizing s piece with
  | nil => rfl
  | cons c cs ih =>
      have first : s.separates c = false := h 0 (by simp)
      have others : ∀ n < cs.length, (s.advance c).separatesAt cs n = false :=
        fun n less => h (n + 1) (by simpa using less)
      rw [List.cons_append, piecesFrom, first, if_neg (by simp), ih others]
      simp

/-- Of what came before, a scan at the top level keeps nothing that matters to
the next character. -/
theorem Scan.IsTop.advance_eq {s : Scan} (h : s.IsTop) (c : Char) :
    s.advance c = Scan.start.advance c ∧ s.separates c = Scan.start.separates c := by
  have free : (s.previous != some '\\') = true := by simpa using h.previous
  have marks : s.marks c = Scan.start.marks c := by
    rw [Scan.marks, Scan.marks, free]
    rfl
  simp [Scan.advance, Scan.separates, marks, h.quote, h.depth, Scan.start]

/-- **A text that is whole alone is whole in a list.** -/
theorem IsWhole.stays {cs : List Char} (h : IsWhole cs) : Stays cs := by
  intro s top
  obtain ⟨c, cs, rfl⟩ := List.exists_cons_of_ne_nil h.trimmed.ne_nil
  obtain ⟨advance, separates⟩ := top.advance_eq c
  have unseparated : ∀ n < (c :: cs).length, s.separatesAt (c :: cs) n = false := by
    intro n less
    have alone := h.unseparated n less
    cases n with
    | zero => exact separates.trans alone
    | succ n => rwa [Scan.separatesAt_cons_succ, advance]
  have same : (c :: cs).foldl Scan.advance s = scanAt (c :: cs) (c :: cs).length := by
    rw [scanAt, List.take_length, List.foldl_cons, List.foldl_cons, advance]
  refine ⟨_, ?_, ?_, piecesFrom_append unseparated⟩
  · rw [same, h.quote]
  · rw [same, h.depth]

/-- A text that is one argument, with blanks around it. -/
structure Field where
  before : List Char
  text : List Char
  behind : List Char
  blank_before : isBlank before = true
  whole : IsWhole text
  blank_behind : isBlank behind = true

namespace Field

/-- The text of a field with the blanks around it. -/
def write (field : Field) : List Char := field.before ++ (field.text ++ field.behind)

/-- The text of a list of fields. -/
def writeAll (fields : List Field) : List Char := [','].intercalate (fields.map write)

theorem stays_write (field : Field) : Stays field.write := by
  have gap : Passes field.before := .of_all_isOrdinary fun c mem =>
    isOrdinary_of_isSpace (List.all_eq_true.mp field.blank_before c mem)
  exact gap.stays_append (field.whole.stays.append_blank field.blank_behind)

theorem trim_write (field : Field) : trim field.write = field.text :=
  field.whole.trimmed.trim_blank_append field.blank_before field.blank_behind

theorem isBlank_write (field : Field) : isBlank field.write = false := by
  have text := field.whole.trimmed.isBlank_eq_false
  simp_all [write, isBlank]

/-- **Fields are cut apart again**, and the blanks around them are trimmed. -/
theorem split_writeAll (fields : List Field) : split (writeAll fields) = fields.map text := by
  have stays : ∀ cs ∈ fields.map write, Stays cs := by
    simpa using fun field _ => stays_write field
  have filled : ∀ cs ∈ fields.map write, isBlank cs = false := by
    simpa using fun field _ => isBlank_write field
  rw [writeAll, split_intercalate stays filled, List.map_map]
  exact List.map_congr_left fun field _ => field.trim_write

end Field

/-- **An argument list is cut at its separators, and nothing else of it is lost.**  Texts that
are whole alone are cut apart again, whatever blanks stand around the commas between them.
And whatever the list: joined by commas, its pieces are the list, all of them are trimmed, and
only a blank one at the end is dropped; a separator stands exactly where some of the pieces
make up the list before it. -/
theorem split_writeAll_and_intercalate_pieces :
    (∀ fields : List Field, split (Field.writeAll fields) = fields.map Field.text) ∧
      ∀ cs : List Char, ∃ kept last, pieces cs = kept ++ [last] ∧
        [','].intercalate (kept ++ [last]) = cs ∧
        split cs = kept.map trim ++ (if isBlank last then [] else [trim last]) ∧
        ∀ n, cs[n]?.any (scanAt cs n).separates = true ↔
          ∃ front back, front ≠ [] ∧ back ≠ [] ∧ kept ++ [last] = front ++ back ∧
            [','].intercalate front = cs.take n := by
  refine ⟨Field.split_writeAll, fun cs => ?_⟩
  obtain ⟨more, others, found⟩ := exists_piecesFrom_eq_cons Scan.start [] cs
  have nonempty : pieces cs ≠ [] := by
    rw [pieces, found]
    exact List.cons_ne_nil _ _
  have parts := List.dropLast_append_getLast nonempty
  refine ⟨(pieces cs).dropLast, (pieces cs).getLast nonempty, parts.symm, ?_, ?_, fun n => ?_⟩
  · rw [parts]
    exact intercalate_piecesFrom Scan.start [] cs
  · rw [← trimPieces_concat, parts, split]
  · rw [parts]
    exact separatesAt_iff_piecesFrom Scan.start [] cs n

/-- The list `"a,(" ,max(1, 2)\ , ),(`: a quoted comma and parenthesis, a backslash at
the end of an argument, and a comma that is below the top level because a parenthesis
closes before one opens. -/
theorem split_writeAll_unbalanced :
    split "\"a,(\" ,max(1, 2)\\ , ),(".toList
      = ["\"a,(\"".toList, "max(1, 2)\\".toList, "),(".toList] :=
  split_writeAll_and_intercalate_pieces.1
    [⟨[], "\"a,(\"".toList, [' '], rfl,
        ⟨⟨⟨'"', rfl, by decide⟩, '"', rfl, by decide⟩, by decide, by decide, by decide⟩, rfl⟩,
      ⟨[], "max(1, 2)\\".toList, [' '], rfl,
        ⟨⟨⟨'m', rfl, by decide⟩, '\\', rfl, by decide⟩, by decide, by decide, by decide⟩,
        rfl⟩,
      ⟨[' '], "),(".toList, [], rfl,
        ⟨⟨⟨')', rfl, by decide⟩, '(', rfl, by decide⟩, by decide, by decide, by decide⟩, rfl⟩]

end SketchScreen.Argument
