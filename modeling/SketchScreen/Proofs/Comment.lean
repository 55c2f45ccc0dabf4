import SketchScreen.Proofs.Composition
import SketchScreen.Proofs.Quoting

/-!
# Comments Behind Code

A comment behind the code of a line reaches nothing: whatever quotes, backslashes, semicolons,
calls or words for the size it holds, the sketch runs as it does without it.

## Main Definitions

- `Source.IsBare`: a line whose code ends outside of quoted texts and has no comment.
- `Source.withComment`: a line with a comment behind it.
- `Source.replaceLine`: a text with another line in the place of one.
- `Source.Search.pass?`: the search for comments after a text in which it finds none.
- `Source.IsNeutral`: a character that the search takes no notice of.
- `Machine.remains`: what a run leaves behind, without the texts that its reports quote.

## Design Notes

The comment is dropped only after the size has been written into the line and the line has
been trimmed, so neither may change where the search finds it.  Both put characters in or take
them away that the search takes no notice of: a word is replaced by digits, with a sign
perhaps, and a backslash takes the first of them with it as it took the first letter of the
word (`pass?_mapWordsFrom`).
-/

namespace SketchScreen

open SketchScreen.Text

namespace Source

/-! ## Characters that the search takes no notice of -/

/-- A character that is neither a quote, nor a backslash, nor part of a comment mark. -/
def IsNeutral (c : Char) : Prop := isQuote c = false ∧ c ≠ '\\' ∧ c ≠ '/'

instance (c : Char) : Decidable (IsNeutral c) := inferInstanceAs (Decidable (_ ∧ _))

theorem isNeutral_of_isWord {c : Char} (h : isWord c = true) : IsNeutral c :=
  ⟨isQuote_eq_false_of_isWord h, ne_of_isWord h (by decide), ne_of_isWord h (by decide)⟩

theorem isNeutral_of_isSpace {c : Char} (h : isSpace c = true) : IsNeutral c :=
  ⟨isQuote_eq_false_of_isSpace h, ne_of_isSpace h (by decide), ne_of_isSpace h (by decide)⟩

theorem isNeutral_of_mem_numeralCharacters {c : Char} (h : c ∈ Number.numeralCharacters) :
    IsNeutral c ∧ c ≠ '\n' := by
  have all : (Number.numeralCharacters.all fun c => decide (IsNeutral c ∧ c ≠ '\n'))
      = true := by
    decide
  exact of_decide_eq_true (List.all_eq_true.mp all c h)

namespace Search

/-- A search that is inside a text, if at all, which a quote has opened. -/
def IsProper (s : Search) : Prop := ∀ mark ∈ s.quote, isQuote mark = true

theorem IsProper.start : start.IsProper := by
  intro mark mem
  cases mem

theorem IsProper.advance {s : Search} (h : s.IsProper) (c : Char) :
    (s.advance c).IsProper := by
  intro mark mem
  unfold Search.advance at mem
  cases place : s.quote with
  | none =>
      rw [place] at mem
      by_cases quote : isQuote c = true
      · simp only [quote, if_true, Option.mem_some_iff] at mem
        rw [← mem]
        exact quote
      · simp [quote] at mem
  | some opened =>
      have kept : mark ∈ (some opened : Option Char) := by
        rw [place] at mem
        dsimp only at mem
        split at mem
        · exact mem
        · split at mem
          · exact mem
          · split at mem
            · cases mem
            · exact mem
      exact h mark (place ▸ kept)

/-- A neutral character at most ends an escape. -/
theorem advance_of_isNeutral {s : Search} (h : s.IsProper) {c : Char}
    (neutral : IsNeutral c) : s.advance c = ⟨s.quote, false⟩ := by
  obtain ⟨quote, backslash, -⟩ := neutral
  unfold advance
  cases place : s.quote with
  | none => simp [quote]
  | some mark =>
      have other : c ≠ mark := by
        rintro rfl
        rw [h c place] at quote
        cases quote
      simp [backslash, other]

/-! ## Passing over a text -/

/-- The search after a text in which it finds no comment. -/
def pass? (s : Search) : List Char → Option Search
  | [] => some s
  | c :: cs =>
    if s.quote.isNone && ['/', '/'].isPrefixOf (c :: cs) then none else (s.advance c).pass? cs

theorem pass?_eq_some_iff {s t : Search} {cs : List Char} :
    s.pass? cs = some t ↔ s.comment? cs = none ∧ cs.foldl advance s = t := by
  induction cs generalizing s with
  | nil => simp [pass?, comment?]
  | cons c cs ih =>
      rw [pass?, comment?_cons]
      split
      · simp
      · rw [ih, Option.map_eq_none_iff, List.foldl_cons]

/-- A comment does not start across a boundary that is no part of its mark. -/
theorem isPrefixOf_append {cs rest : List Char} (nonempty : cs ≠ [])
    (boundary : '/' ∉ rest.head?) :
    ['/', '/'].isPrefixOf (cs ++ rest) = ['/', '/'].isPrefixOf cs := by
  match cs, rest with
  | [c], [] => rfl
  | [c], d :: rest =>
      have other : ('/' == d) = false := by
        rw [beq_eq_false_iff_ne]
        rintro rfl
        exact boundary rfl
      simp [List.isPrefixOf, other]
  | c :: d :: cs, rest => simp [List.isPrefixOf]

/-- **Passing over a text is passing over its parts.** -/
theorem pass?_append (s : Search) (cs : List Char) {rest : List Char}
    (boundary : '/' ∉ rest.head?) :
    s.pass? (cs ++ rest) = (s.pass? cs).bind fun t => t.pass? rest := by
  induction cs generalizing s with
  | nil => rfl
  | cons c cs ih =>
      rw [pass?, List.cons_append, pass?, ← List.cons_append,
        isPrefixOf_append (List.cons_ne_nil c cs) boundary, ih]
      split <;> rfl

/-- The first comment behind a text that has none. -/
theorem comment?_append {s t : Search} {cs rest : List Char} (passed : s.pass? cs = some t)
    (boundary : '/' ∉ rest.head?) :
    s.comment? (cs ++ rest) = (t.comment? rest).map (cs.length + ·) := by
  induction cs generalizing s with
  | nil =>
      cases passed
      simp
  | cons c cs ih =>
      rw [pass?] at passed
      rw [List.cons_append, comment?_cons, ← List.cons_append,
        isPrefixOf_append (List.cons_ne_nil c cs) boundary]
      split at passed
      · cases passed
      · rename_i here
        rw [if_neg here, ih passed, Option.map_map]
        congr 1
        funext n
        simp only [Function.comp, List.length_cons]
        omega

/-- A run of neutral characters is passed over, whatever follows. -/
theorem pass?_neutral_append {s : Search} (h : s.IsProper) {run : List Char}
    (nonempty : run ≠ []) (neutral : ∀ c ∈ run, IsNeutral c) (rest : List Char) :
    s.pass? (run ++ rest) = (⟨s.quote, false⟩ : Search).pass? rest := by
  induction run generalizing s with
  | nil => exact absurd rfl nonempty
  | cons c run ih =>
      rw [List.forall_mem_cons] at neutral
      have here : (s.quote.isNone && ['/', '/'].isPrefixOf (c :: (run ++ rest))) = false := by
        simp [List.isPrefixOf, Ne.symm neutral.1.2.2]
      rw [List.cons_append, pass?, here, if_neg (by simp), advance_of_isNeutral h neutral.1]
      cases run with
      | nil => rfl
      | cons d run => exact ih h (List.cons_ne_nil d run) neutral.2

/-- Blanks are passed over outside of quoted texts. -/
theorem pass?_blank_append {gap : List Char} (blank : isBlank gap = true) (rest : List Char) :
    start.pass? (gap ++ rest) = start.pass? rest := by
  rw [isBlank, List.all_eq_true] at blank
  cases gap with
  | nil => rfl
  | cons c gap =>
      exact pass?_neutral_append .start (List.cons_ne_nil c gap)
        (fun d mem => isNeutral_of_isSpace (blank d mem)) rest

/-! ## Replacing words -/

section Replacing

variable {replace : List Char → List Char}

/-- A replacement of words by texts that the search takes no notice of, and that
stay in their line. -/
structure IsQuiet (replace : List Char → List Char) : Prop where
  nonempty : ∀ word, word ≠ [] → replace word ≠ []
  neutral : ∀ word, (∀ c ∈ word, isWord c = true) → ∀ c ∈ replace word, IsNeutral c
  oneLine : ∀ word, (∀ c ∈ word, isWord c = true) → '\n' ∉ replace word

/-- A word that has been read is replaced by something that starts no comment. -/
theorem slash_notMem_head?_mapWordsFrom (quiet : IsQuiet replace) {word : List Char}
    (nonempty : word ≠ []) (hword : ∀ c ∈ word, isWord c = true) (cs : List Char) :
    '/' ∉ (mapWordsFrom replace word cs).head? := by
  have flushed : ∀ {word : List Char}, word ≠ [] → (∀ c ∈ word, isWord c = true) → ∀ rest,
      '/' ∉ (replace word.reverse ++ rest).head? := by
    intro word nonempty hword rest slash
    have replaced := quiet.nonempty word.reverse (by simpa using nonempty)
    have neutral := quiet.neutral word.reverse fun c mem => hword c (List.mem_reverse.mp mem)
    rw [List.head?_append_of_ne_nil _ replaced] at slash
    exact (neutral _ (List.mem_of_mem_head? slash)).2.2 rfl
  induction cs generalizing word with
  | nil =>
      rw [mapWordsFrom, if_neg (by simpa using nonempty)]
      simpa using flushed nonempty hword []
  | cons c cs ih =>
      rw [mapWordsFrom]
      split
      · rename_i hc
        exact ih (List.cons_ne_nil c word) (List.forall_mem_cons.mpr ⟨hc, hword⟩)
      · rw [if_neg (by simpa using nonempty)]
        exact flushed nonempty hword _

/-- A comment mark across a boundary is one whether or not the words behind it
are replaced. -/
theorem isPrefixOf_cons_mapWords (quiet : IsQuiet replace) (c : Char) (cs : List Char) :
    ['/', '/'].isPrefixOf (c :: mapWords replace cs) = ['/', '/'].isPrefixOf (c :: cs) := by
  cases cs with
  | nil => rfl
  | cons d cs =>
      by_cases hd : isWord d = true
      · have replaced : mapWords replace (d :: cs) = mapWordsFrom replace [d] cs := by
          rw [mapWords, mapWordsFrom, if_pos hd]
        have boundary : '/' ∉ (mapWords replace (d :: cs)).head? := by
          rw [replaced]
          exact slash_notMem_head?_mapWordsFrom quiet (List.cons_ne_nil d [])
            (by simpa using hd) cs
        have boundary' : '/' ∉ (d :: cs).head? := by
          rw [List.head?_cons, Option.mem_some_iff]
          exact ne_of_isWord hd (by decide)
        calc ['/', '/'].isPrefixOf ([c] ++ mapWords replace (d :: cs))
            = ['/', '/'].isPrefixOf [c] := isPrefixOf_append (List.cons_ne_nil c []) boundary
          _ = ['/', '/'].isPrefixOf ([c] ++ d :: cs) :=
              (isPrefixOf_append (List.cons_ne_nil c []) boundary').symm
      · have kept : mapWords replace (d :: cs) = d :: mapWords replace cs :=
          mapWords_append_cons [] (by simpa using hd) cs
        rw [kept]
        simp [List.isPrefixOf]

/-- **Replacing words moves no comment and no quote.**  The search stands at the end of a text
where it stands at the end of the text with its words replaced. -/
theorem pass?_mapWordsFrom (quiet : IsQuiet replace) {s : Search} (h : s.IsProper)
    {word : List Char} (hword : ∀ c ∈ word, isWord c = true) (cs : List Char) :
    s.pass? (mapWordsFrom replace word cs) = s.pass? (word.reverse ++ cs) := by
  -- a word and its replacement both leave the search at the same place
  have flushed : ∀ {s : Search}, s.IsProper → ∀ {word : List Char},
      (∀ c ∈ word, isWord c = true) →
      ∀ rest rest' : List Char, (∀ {t : Search}, t.IsProper → t.pass? rest = t.pass? rest') →
      s.pass? ((if word.isEmpty then [] else replace word.reverse) ++ rest)
        = s.pass? (word.reverse ++ rest') := by
    intro s h word hword rest rest' same
    have hreverse : ∀ c ∈ word.reverse, isWord c = true :=
      fun c mem => hword c (List.mem_reverse.mp mem)
    cases word with
    | nil => exact same h
    | cons d word =>
        have nonempty : (d :: word).reverse ≠ [] := by simp
        rw [if_neg (by simp),
          pass?_neutral_append h (quiet.nonempty _ nonempty) (quiet.neutral _ hreverse),
          pass?_neutral_append h nonempty fun c mem => isNeutral_of_isWord (hreverse c mem)]
        exact same h
  induction cs generalizing s word with
  | nil =>
      have whole := flushed h hword [] [] fun _ => rfl
      rwa [List.append_nil] at whole
  | cons c cs ih =>
      rw [mapWordsFrom]
      split
      · rename_i hc
        rw [ih h (List.forall_mem_cons.mpr ⟨hc, hword⟩), List.reverse_cons, List.append_assoc]
        rfl
      · refine flushed h hword _ _ fun {t} ht => ?_
        rw [pass?, pass?]
        have mark := isPrefixOf_cons_mapWords quiet c cs
        rw [mapWords] at mark
        rw [mark, ih (ht.advance c) (List.forall_mem_nil _)]
        rfl

end Replacing

end Search

open Search (IsQuiet)

/-- A size is written into a sketch quietly. -/
theorem isQuiet_sizeWord {width height : List Char}
    (hwidth : width ≠ [] ∧ width ⊆ Number.numeralCharacters)
    (hheight : height ≠ [] ∧ height ⊆ Number.numeralCharacters) :
    IsQuiet (sizeWord width height) := by
  have cases : ∀ word, sizeWord width height word = width ∨
      sizeWord width height word = height ∨ sizeWord width height word = word := by
    intro word
    unfold sizeWord
    split
    · exact Or.inl rfl
    · split
      · exact Or.inr (Or.inl rfl)
      · exact Or.inr (Or.inr rfl)
  have quiet : ∀ word, (∀ c ∈ word, isWord c = true) →
      ∀ c ∈ sizeWord width height word, IsNeutral c ∧ c ≠ '\n' := by
    intro word hword c mem
    rcases cases word with same | same | same <;> rw [same] at mem
    · exact isNeutral_of_mem_numeralCharacters (hwidth.2 mem)
    · exact isNeutral_of_mem_numeralCharacters (hheight.2 mem)
    · exact ⟨isNeutral_of_isWord (hword c mem), ne_of_isWord (hword c mem) isWord_newline⟩
  refine ⟨fun word nonempty => ?_, fun word hword c mem => (quiet word hword c mem).1,
    fun word hword mem => (quiet word hword _ mem).2 rfl⟩
  rcases cases word with same | same | same <;> rw [same]
  · exact hwidth.1
  · exact hheight.1
  · exact nonempty

/-- A size cannot be written into any sketch, or is written into every sketch quietly. -/
theorem substitute_cases (width height : Number) :
    (∃ fault, ∀ source, substitute width height source = .error fault) ∨
    ∃ replace, IsQuiet replace ∧ ∀ source,
      substitute width height source
        = .ok (String.ofList (mapWords replace source.toList)) := by
  unfold substitute
  cases hwidth : width.writeCompact with
  | error fault => exact Or.inl ⟨fault, fun _ => rfl⟩
  | ok w =>
      cases hheight : height.writeCompact with
      | error fault => exact Or.inl ⟨fault, fun _ => rfl⟩
      | ok h =>
          exact Or.inr ⟨_, isQuiet_sizeWord (Number.writeCompact_characters hwidth)
            (Number.writeCompact_characters hheight), fun _ => rfl⟩

/-! ## Lines with a comment behind their code -/

/-- A line whose code ends outside of quoted texts and has no comment. -/
structure IsBare (line : List Char) : Prop where
  outside : (searchAt line line.length).quote = none
  uncommented : commentOffset? 0 none line = none

instance (line : List Char) : Decidable (IsBare line) :=
  decidable_of_iff ((searchAt line line.length).quote = none ∧
    commentOffset? 0 none line = none) ⟨fun h => ⟨h.1, h.2⟩, fun h => ⟨h.1, h.2⟩⟩

/-- A line with a comment behind it. -/
def withComment (line comment : List Char) : List Char :=
  line ++ ' ' :: '/' :: '/' :: comment

/-- A text with another line in the place of one. -/
def replaceLine (k : Nat) (line : List Char) (source : String) : String :=
  String.ofList (joinLines ((splitLines source.toList).set k line))

theorem commentOffset?_eq_none_iff {cs : List Char} :
    commentOffset? 0 none cs = none ↔ Search.start.comment? cs = none := by
  rw [Search.commentOffset?_eq_map_comment?, Option.map_eq_none_iff]
  rfl

/-- The search passes over a bare line, and ends outside of quoted texts. -/
theorem IsBare.exists_pass? {line : List Char} (bare : IsBare line) :
    ∃ s, Search.start.pass? line = some s ∧ s.quote = none := by
  have outside := bare.outside
  rw [searchAt, List.take_length] at outside
  exact ⟨_, Search.pass?_eq_some_iff.mpr
    ⟨commentOffset?_eq_none_iff.mp bare.uncommented, rfl⟩, outside⟩

/-- The marks of comment lines do not reach across a blank. -/
theorem isSkipped_append {cs rest : List Char} (nonempty : cs ≠ [])
    (boundary : ∀ c ∈ rest.head?, isSpace c = true) :
    isSkipped (cs ++ rest) = isSkipped cs := by
  have slash : '/' ∉ rest.head? := fun mem => absurd (boundary _ mem) (by decide)
  have star : '*' ∉ rest.head? := fun mem => absurd (boundary _ mem) (by decide)
  match cs, rest with
  | [c], [] => rfl
  | [c], d :: rest =>
      have slash : ('/' == d) = false := by
        rw [beq_eq_false_iff_ne]
        rintro rfl
        exact slash rfl
      have star : ('*' == d) = false := by
        rw [beq_eq_false_iff_ne]
        rintro rfl
        exact star rfl
      simp [isSkipped, commentStarts, List.isPrefixOf, slash, star]
  | c :: d :: cs, rest => simp [isSkipped, commentStarts, List.isPrefixOf]

/-- Blanks in front of a line and behind its comment are trimmed. -/
theorem trim_withComment {line : List Char} (nonempty : trimLeft line ≠ [])
    (comment : List Char) :
    trim (withComment line comment) = withComment (trimLeft line) (trimRight comment) := by
  obtain ⟨gap, blank, split⟩ := exists_blank_append_trimLeft line
  have first : ∀ c ∈ (withComment (trimLeft line) comment).head?, isSpace c = false := by
    intro c mem
    rw [withComment, List.head?_append_of_ne_nil _ nonempty] at mem
    exact isSpace_of_mem_head?_trimLeft mem
  have front : trimLeft (withComment line comment) = withComment (trimLeft line) comment := by
    conv_lhs => rw [split]
    rw [withComment, List.append_assoc, trimLeft_blank_append blank]
    exact trimLeft_eq_self first
  have last : ∃ c, (trimLeft line ++ [' ', '/', '/']).getLast? = some c ∧ isSpace c = false :=
    ⟨'/', by simp, by decide⟩
  have regroup : ∀ cs, withComment (trimLeft line) cs
      = (trimLeft line ++ [' ', '/', '/']) ++ cs := by
    simp [withComment]
  rw [trim, front, regroup, trimRight_append last, ← regroup]

/-- A line with code holds code with a comment behind it. -/
theorem isSkipped_trim_withComment {line : List Char} (nonempty : trim line ≠ [])
    (comment : List Char) :
    isSkipped (trim (withComment line comment)) = isSkipped (trim line) := by
  obtain ⟨gap, blank, split⟩ := exists_trimRight_append_blank (trimLeft line)
  have front : trimLeft line ≠ [] := by
    intro empty
    rw [trim, empty] at nonempty
    exact nonempty rfl
  rw [trim_withComment front, withComment]
  conv_lhs => rw [split, List.append_assoc]
  refine isSkipped_append nonempty fun c mem => ?_
  cases gap with
  | nil =>
      cases mem
      decide
  | cons d gap =>
      cases mem
      rw [isBlank, List.all_cons, Bool.and_eq_true] at blank
      exact blank.1

section Bare

variable {line : List Char} {s : Search}

/-- A comment behind a line is found where it starts. -/
theorem stripComment_withComment (passed : Search.start.pass? line = some s)
    (outside : s.quote = none) (comment : List Char) :
    stripComment (withComment line comment) = trimRight line := by
  have here : s.comment? (' ' :: '/' :: '/' :: comment) = some 1 := by
    rw [Search.comment?_cons, if_neg (by simp [List.isPrefixOf]), Search.comment?_cons,
      if_pos (by simp [Search.advance, outside, isQuote])]
    rfl
  have found : commentOffset? 0 none (withComment line comment) = some (line.length + 1) := by
    rw [Search.commentOffset?_eq_map_comment?, withComment]
    show (Search.start.comment? _).map _ = _
    rw [Search.comment?_append passed (by simp), here]
    simp
  have cut : (withComment line comment).take (line.length + 1) = line ++ [' '] := by
    rw [withComment, List.take_length_add_append]
    rfl
  rw [stripComment, found]
  show trimRight _ = _
  rw [cut, trimRight_append_blank (by decide)]

/-- There is no comment in the front of a line that has none. -/
theorem stripComment_trimRight (passed : Search.start.pass? line = some s) :
    stripComment (trimRight line) = trimRight line := by
  obtain ⟨gap, blank, split⟩ := exists_trimRight_append_blank line
  have slash : '/' ∉ gap.head? := by
    intro mem
    rw [isBlank, List.all_eq_true] at blank
    exact absurd (blank _ (List.mem_of_mem_head? mem)) (by decide)
  rw [split, Search.pass?_append _ _ slash, Option.bind_eq_some_iff] at passed
  obtain ⟨t, front, -⟩ := passed
  have none : commentOffset? 0 none (trimRight line) = none :=
    commentOffset?_eq_none_iff.mpr (Search.pass?_eq_some_iff.mp front).1
  rw [stripComment, none]

/-- **The comment behind a line is cut off**, and nothing but it. -/
theorem codeOf?_withComment (passed : Search.start.pass? line = some s)
    (outside : s.quote = none) (comment : List Char) :
    codeOf? (withComment line comment) = codeOf? line := by
  obtain ⟨gap, blank, split⟩ := exists_blank_append_trimLeft line
  have inner : Search.start.pass? (trimLeft line) = some s := by
    rw [split, Search.pass?_blank_append blank] at passed
    exact passed
  by_cases empty : trim line = []
  · -- a comment behind nothing makes a comment line
    have blankLine : isSkipped (trim line) = true := by
      rw [empty]
      rfl
    have commentLine : isSkipped (trim (withComment line comment)) = true := by
      obtain ⟨gap', blank', split'⟩ := exists_trimRight_append_blank (trimLeft line)
      rw [show trimRight (trimLeft line) = [] from empty, List.nil_append] at split'
      rw [isSkipped_trim_iff]
      refine ⟨line ++ [' '], '/' :: '/' :: comment, ?_, by simp [withComment],
        Or.inr ⟨['/', '/'], by decide, comment, rfl⟩⟩
      rw [split, split']
      simp only [isBlank, List.all_append] at blank blank' ⊢
      rw [blank, blank']
      decide
    rw [codeOf?, if_pos commentLine, codeOf?, if_pos blankLine]
  · have front : trimLeft line ≠ [] := by
      intro nothing
      rw [trim, nothing] at empty
      exact empty rfl
    have code : stripComment (trim (withComment line comment))
        = stripComment (trim line) := by
      rw [trim_withComment front, stripComment_withComment inner outside, trim,
        stripComment_trimRight inner]
    rw [codeOf?, codeOf?, isSkipped_trim_withComment empty, code]

end Bare

/-- A comment behind a line stays behind it when words are replaced. -/
theorem mapWords_withComment (replace : List Char → List Char) (line comment : List Char) :
    mapWords replace (withComment line comment)
      = withComment (mapWords replace line) (mapWords replace comment) := by
  have slash : ∀ cs, mapWords replace ('/' :: cs) = '/' :: mapWords replace cs :=
    mapWords_append_cons [] (by decide)
  rw [withComment, mapWords_append_cons line (by decide), slash, slash, withComment]

/-- A line holds the same code with a comment behind it, whatever size is written into it. -/
theorem codeOf?_mapWords_withComment {replace : List Char → List Char}
    (quiet : IsQuiet replace) {line : List Char} (bare : IsBare line) (comment : List Char) :
    codeOf? (mapWords replace (withComment line comment))
      = codeOf? (mapWords replace line) := by
  obtain ⟨s, passed, outside⟩ := bare.exists_pass?
  have same := Search.pass?_mapWordsFrom quiet .start (List.forall_mem_nil _) line
  rw [mapWords_withComment]
  exact codeOf?_withComment (same.trans passed) outside _

end Source

open Source (IsBare replaceLine splitLines withComment)

/-- A report without the text of the line. -/
def Diagnostic.unquoted (d : Diagnostic) : Diagnostic := { d with sourceLine := none }

/-- What a run leaves behind. -/
structure Remains (σ : Type) where
  surface : σ
  scope : Scope
  style : TextStyle
  /-- The reports, without the texts that they quote. -/
  reports : List Diagnostic

/-- What a machine leaves behind. -/
def Machine.remains {σ : Type} (machine : Machine σ) : Remains σ where
  surface := machine.surface
  scope := machine.context.scope
  style := machine.context.style
  reports := machine.context.diagnostics.map Diagnostic.unquoted

namespace Sketch

variable {σ : Type}

/-- Lines with the same statements, wherever they stand, are one row of statements. -/
theorem ofLines_congr {lines others : List (List Char)}
    (same : lines.map Statement.ofLine? = others.map Statement.ofLine?) (first : Nat) :
    ofLines first lines = ofLines first others := by
  have told : ∀ lines, ofLines first lines
      = ((lines.map Statement.ofLine?).zipIdx first).filterMap fun s =>
          s.1.map fun statement => (s.2, statement) := by
    intro lines
    rw [ofLines, List.zipIdx_map, List.filterMap_map]
    rfl
  rw [told, told, same]

/-- **The text of a sketch matters for its statements only**, and for what reports quote. -/
theorem remains_of_statements_eq {text other : String}
    (same : statements other.toList = statements text.toList) (surface : Surface σ)
    (width height : Number) (state : σ) :
    (runStatements surface ⟨Context.create width height other, state⟩
        (statements other.toList)).remains
      = (runStatements surface ⟨Context.create width height text, state⟩
          (statements text.toList)).remains := by
  have start : Machine.Matches Eq (⟨Context.create width height text, state⟩ : Machine σ)
      ⟨Context.create width height other, state⟩ := ⟨rfl, rfl, rfl⟩
  have matched := runStatements_matches (.refl surface) start (statements text.toList)
  have fail := faults_eq (.refl surface) start (statements text.toList)
  have reports : ∀ machine : Machine σ, machine.context.diagnostics = [] →
      (runStatements surface machine (statements text.toList)).context.diagnostics.map
          Diagnostic.unquoted
        = (faults surface machine (statements text.toList)).map fun failed =>
            .ofFault failed.2 failed.1 none := by
    intro machine fresh
    rw [runStatements_diagnostics, fresh, List.nil_append, List.map_map]
    rfl
  rw [same, Machine.remains, Machine.remains, ← matched.surface, ← matched.scope,
    ← matched.style, reports _ rfl, reports _ rfl, fail]

/-- The statements of a sketch, one line of which has a comment behind it. -/
theorem statements_replaceLine {replace : List Char → List Char}
    (quiet : Source.Search.IsQuiet replace) {source : String} {k : Nat}
    {line comment : List Char} (found : (splitLines source.toList)[k]? = some line)
    (bare : IsBare line) (oneLine : '\n' ∉ comment) :
    statements
      (Source.mapWords replace (replaceLine k (withComment line comment) source).toList)
      = statements (Source.mapWords replace source.toList) := by
  have inLine : ∀ other ∈ splitLines source.toList, '\n' ∉ other :=
    fun _ => Source.newline_notMem_of_mem_splitLines
  have newLine : '\n' ∉ withComment line comment := by
    have := inLine line (List.mem_of_getElem? found)
    simp [withComment, this, oneLine]
  have lines : splitLines (replaceLine k (withComment line comment) source).toList
      = (splitLines source.toList).set k (withComment line comment) := by
    rw [replaceLine, String.toList_ofList]
    refine Source.splitLines_joinLines ?_ fun other mem => ?_
    · rw [Ne, List.set_eq_nil_iff, Source.splitLines_eq_splitOn]
      exact List.splitOn_ne_nil _ _
    · rcases List.mem_or_eq_of_mem_set mem with mem | rfl
      · exact inLine other mem
      · exact newLine
  have holds : Statement.ofLine? (Source.mapWords replace (withComment line comment))
      = Statement.ofLine? (Source.mapWords replace line) := by
    rw [Statement.ofLine?, Source.codeOf?_mapWords_withComment quiet bare, Statement.ofLine?]
  rw [statements_eq_ofLines, statements_eq_ofLines, Source.splitLines_mapWords quiet.oneLine,
    Source.splitLines_mapWords quiet.oneLine, lines]
  refine ofLines_congr ?_ 1
  rw [List.map_set, List.map_set, holds]
  refine List.ext_getElem? fun n => ?_
  rw [List.getElem?_set]
  split
  · rename_i here
    obtain ⟨bound, -⟩ := List.getElem?_eq_some_iff.mp found
    rw [← here, if_pos (by simpa using bound)]
    simp [found]
  · rfl

/-- **A comment reaches nothing.**  Take a sketch and a line of it whose code ends outside of
quoted texts and has no comment.  With any comment behind that line, whatever quotes,
backslashes, semicolons, calls or words for the size it holds, the sketch makes the same calls
of every surface, of which a log is kept, leaves the same variables and the same style, and
reports the same faults of the same lines; only the text that a report quotes has the comment
in it.  If the size is too long to be written, both runs fail alike. -/
theorem run_withComment (surface : Surface σ) (width height : Number) (source : String)
    (state : σ) (k : Nat) (line comment : List Char)
    (found : (splitLines source.toList)[k]? = some line) (bare : IsBare line)
    (oneLine : '\n' ∉ comment) :
    (run surface.logging width height (replaceLine k (withComment line comment) source)
        (state, [])).map Machine.remains
      = (run surface.logging width height source (state, [])).map Machine.remains := by
  rcases Source.substitute_cases width height with ⟨fault, fails⟩ | ⟨replace, quiet, writes⟩
  · have failing : ∀ source, run surface.logging width height source (state, [])
        = .error fault := by
      intro source
      rw [run, load, fails]
      rfl
    rw [failing, failing]
  · have same := statements_replaceLine quiet found bare oneLine
    rw [run_of_load (load_of_substitute (writes source) _),
      run_of_load (load_of_substitute (writes _) _)]
    refine congrArg Except.ok (remains_of_statements_eq ?_ surface.logging width height
      (state, []))
    rw [String.toList_ofList, String.toList_ofList]
    exact same

/-- The comment holds quotes of both kinds, a backslash, semicolons, a call and a word
for the size; the line that it stands behind fails, and quotes a text with a comment
mark and a quote in it. -/
theorem run_withComment_loud :
    let surface := Surface.recording 240 320
    let source := "int x = WIDTH;\ntft.drawString(\"a // \\\" b\", x);\ntft.setCursor(x, x);"
    let line := "tft.drawString(\"a // \\\" b\", x);".toList
    let comment := " tft.fillScreen(RED); \"it's\\ WIDTH // int x = 0;".toList
    (splitLines source.toList)[1]? = some line ∧ IsBare line ∧ '\n' ∉ comment ∧
      (run surface.logging (.int 240) (.int 320)
        (replaceLine 1 (withComment line comment) source)
          ([], [])).map Machine.remains
        = (run surface.logging (.int 240) (.int 320) source ([], [])).map Machine.remains ∧
      (run surface.logging (.int 240) (.int 320) source ([], [])).map
          (fun machine => machine.remains.reports.map Diagnostic.line) = .ok [2] := by
  intro surface source line comment
  have found : (splitLines source.toList)[1]? = some line := by decide +kernel
  have bare : IsBare line := by decide +kernel
  have oneLine : '\n' ∉ comment := by decide +kernel
  exact ⟨found, bare, oneLine,
    run_withComment surface (.int 240) (.int 320) source [] 1 line comment found bare oneLine,
    by decide +kernel⟩

end Sketch

end SketchScreen
