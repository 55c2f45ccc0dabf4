import SketchScreen.Proofs.Decimal
import SketchScreen.Source

/-!
# Words, Lines and Comments of a Source

The size of the screen is written into a sketch before the sketch is cut into lines.  Neither
of the two disturbs the other: the lines of a sketch with the size written into it are the
lines of the sketch with the size written into each.

## Main Definitions

- `Source.wordRuns`: the runs of word characters of a text, empty ones between two
  other characters included.
- `Source.written`: a text with the size of the screen written into it.
- `Source.IsInert`: a text that holds no word for the size, no newline and no comment.

## Design Notes

Everything about replacing words follows from one fact,
`mapWordsFrom_append_cons`: a character that belongs to no word cuts the text into
two parts that know nothing of each other.

A text goes through several readers, each of which may mistake what belongs to a later one:
words for the size are replaced wherever they stand, lines are cut at newlines, comments at
their mark.  Texts on which these three do nothing are called inert.  They are closed under
joining at a separator, so whatever is written piece by piece is shown inert piece by piece.
-/

namespace SketchScreen

namespace Text

theorem cutAt_eq_splitOn (mark : Char) (cs : List Char) :
    cutAt mark cs = cs.splitOn mark := by
  induction cs with
  | nil => rfl
  | cons c cs ih =>
      obtain ⟨part, parts, h⟩ := List.exists_cons_of_ne_nil (List.splitOn_ne_nil mark cs)
      rw [cutAt, List.splitOn_cons_eq_if_modifyHead, ih, h]
      rfl

/-- A newline belongs to no word. -/
theorem isWord_newline : isWord '\n' = false := by decide

end Text

namespace Source

open SketchScreen.Text

/-! ## Lines -/

theorem splitLines_eq_splitOn (cs : List Char) : splitLines cs = cs.splitOn '\n' :=
  cutAt_eq_splitOn '\n' cs

theorem newline_notMem_of_mem_splitLines {cs line : List Char} (h : line ∈ splitLines cs) :
    '\n' ∉ line := by
  rw [splitLines_eq_splitOn] at h
  induction cs generalizing line with
  | nil => simp_all
  | cons c cs ih =>
      obtain ⟨first, rest, parts⟩ := List.exists_cons_of_ne_nil (List.splitOn_ne_nil '\n' cs)
      rw [List.splitOn_cons_eq_if_modifyHead, parts] at h
      split at h
      · rcases List.mem_cons.mp h with rfl | h
        · simp
        · exact ih (parts ▸ h)
      · rename_i newline
        rcases List.mem_cons.mp h with rfl | h
        · have notMem : '\n' ∉ first := ih (parts ▸ List.mem_cons_self)
          have ne : c ≠ '\n' := by simpa using newline
          simp [notMem, Ne.symm ne]
        · exact ih (parts ▸ List.mem_cons_of_mem _ h)

/-! ## Replacing words -/

section Replacing

variable {replace : List Char → List Char}

/-- A character that belongs to no word ends the word before it. -/
theorem mapWordsFrom_append_cons (word cs : List Char) {c : Char} (h : isWord c = false)
    (rest : List Char) :
    mapWordsFrom replace word (cs ++ c :: rest)
      = mapWordsFrom replace word cs ++ c :: mapWords replace rest := by
  induction cs generalizing word with
  | nil => simp [mapWordsFrom, mapWords, h]
  | cons d cs ih =>
      by_cases hd : isWord d
      · simp [mapWordsFrom, hd, ih]
      · simp [mapWordsFrom, hd, ih]

theorem mapWords_append_cons (cs : List Char) {c : Char} (h : isWord c = false)
    (rest : List Char) :
    mapWords replace (cs ++ c :: rest) = mapWords replace cs ++ c :: mapWords replace rest :=
  mapWordsFrom_append_cons [] cs h rest

/-- A text that begins with no word is apart from what stands before it. -/
theorem mapWords_append (cs : List Char) {rest : List Char}
    (h : ∀ c ∈ rest.head?, isWord c = false) :
    mapWords replace (cs ++ rest) = mapWords replace cs ++ mapWords replace rest := by
  cases rest with
  | nil => simp [mapWords, mapWordsFrom]
  | cons c rest =>
      have kept : mapWords replace (c :: rest) = c :: mapWords replace rest :=
        mapWords_append_cons [] (h c rfl) rest
      rw [kept, mapWords_append_cons cs (h c rfl)]

/-- A text that holds no word at all is kept, and ends what stands before it. -/
theorem mapWords_append_of_no_word {cs : List Char} (h : ∀ c ∈ cs, isWord c = false)
    (ds : List Char) : mapWords replace (cs ++ ds) = cs ++ mapWords replace ds := by
  induction cs with
  | nil => rfl
  | cons c cs ih =>
      rw [List.forall_mem_cons] at h
      have kept : mapWords replace (c :: (cs ++ ds)) = c :: mapWords replace (cs ++ ds) :=
        mapWords_append_cons [] h.1 (cs ++ ds)
      rw [List.cons_append, kept, ih h.2, List.cons_append]

/-- A word is replaced as a whole. -/
theorem mapWordsFrom_of_all_isWord {cs : List Char} (all : ∀ c ∈ cs, isWord c = true)
    (word : List Char) (nonempty : word ≠ [] ∨ cs ≠ []) :
    mapWordsFrom replace word cs = replace (word.reverse ++ cs) := by
  induction cs generalizing word with
  | nil =>
      have ne : word ≠ [] := nonempty.resolve_right fun ne => ne rfl
      simp [mapWordsFrom, ne]
  | cons c cs ih =>
      rw [List.forall_mem_cons] at all
      rw [mapWordsFrom, if_pos all.1, ih all.2 (c :: word) (Or.inl (by simp))]
      simp

/-- Words do not reach across the lines that they stand in. -/
theorem mapWords_intercalate_newline (lines : List (List Char)) :
    mapWords replace (['\n'].intercalate lines)
      = ['\n'].intercalate (lines.map (mapWords replace)) := by
  induction lines with
  | nil => rfl
  | cons line lines ih =>
      cases lines with
      | nil => simp
      | cons next lines =>
          rw [List.intercalate_cons_cons, List.append_assoc, List.singleton_append,
            mapWords_append_cons line isWord_newline, ih]
          simp

/-- A text without newlines gets none, if no replacement holds one. -/
theorem newline_notMem_mapWordsFrom
    (hreplace : ∀ word, (∀ c ∈ word, isWord c) → '\n' ∉ replace word)
    {word cs : List Char} (hword : ∀ c ∈ word, isWord c) (h : '\n' ∉ cs) :
    '\n' ∉ mapWordsFrom replace word cs := by
  have flushed : ∀ {word : List Char}, (∀ c ∈ word, isWord c) →
      '\n' ∉ (if word.isEmpty then [] else replace word.reverse) := by
    intro word hword
    split
    · simp
    · exact hreplace _ fun c mem => hword c (List.mem_reverse.mp mem)
  induction cs generalizing word with
  | nil => exact flushed hword
  | cons c cs ih =>
      rw [List.mem_cons, not_or] at h
      unfold mapWordsFrom
      split
      · rename_i hc
        exact ih (List.forall_mem_cons.mpr ⟨hc, hword⟩) h.2
      · have rest := ih (List.forall_mem_nil _) h.2
        rw [List.mem_append, not_or, List.mem_cons, not_or]
        exact ⟨flushed hword, h.1, rest⟩

/-- **Replacing words keeps the lines apart.**  The lines of the text with its words replaced
are the lines of the text, each with its words replaced. -/
theorem splitLines_mapWords (hreplace : ∀ word, (∀ c ∈ word, isWord c) → '\n' ∉ replace word)
    (cs : List Char) :
    splitLines (mapWords replace cs) = (splitLines cs).map (mapWords replace) := by
  have joined : cs = ['\n'].intercalate (splitLines cs) := by
    rw [splitLines_eq_splitOn, List.intercalate_splitOn]
  have apart : ∀ line ∈ (splitLines cs).map (mapWords replace), '\n' ∉ line := by
    intro line mem
    obtain ⟨original, horiginal, rfl⟩ := List.mem_map.mp mem
    exact newline_notMem_mapWordsFrom hreplace (List.forall_mem_nil _)
      (newline_notMem_of_mem_splitLines horiginal)
  have nonempty : (splitLines cs).map (mapWords replace) ≠ [] := by
    simp [splitLines_eq_splitOn, List.splitOn_ne_nil]
  calc splitLines (mapWords replace cs)
      = splitLines (mapWords replace (['\n'].intercalate (splitLines cs))) := by rw [← joined]
    _ = splitLines (['\n'].intercalate ((splitLines cs).map (mapWords replace))) := by
        rw [mapWords_intercalate_newline]
    _ = (splitLines cs).map (mapWords replace) := by
        rw [splitLines_eq_splitOn, List.splitOn_intercalate '\n' apart nonempty]

end Replacing

/-! ## Runs of word characters -/

/-- The runs of word characters of a text, an empty one wherever two other characters meet. -/
def wordRuns (cs : List Char) : List (List Char) :=
  cs.splitOnP fun c => !isWord c

theorem wordRuns_append_cons (cs : List Char) {c : Char} (h : isWord c = false)
    (rest : List Char) :
    wordRuns (cs ++ c :: rest) = wordRuns cs ++ wordRuns rest :=
  List.splitOnP_append_cons cs rest (by simp [h])

theorem wordRuns_of_all_isWord {cs : List Char} (h : ∀ c ∈ cs, isWord c) :
    wordRuns cs = [cs] :=
  List.splitOnP_eq_singleton fun c mem => by simp [h c mem]

/-- A run of a text is made of its characters. -/
theorem mem_of_mem_wordRuns {cs run : List Char} (h : run ∈ wordRuns cs) {c : Char}
    (mem : c ∈ run) : c ∈ cs := by
  rw [wordRuns] at h
  induction cs generalizing run with
  | nil =>
      rw [List.splitOnP_nil, List.mem_singleton] at h
      rwa [h] at mem
  | cons d cs ih =>
      obtain ⟨first, rest, parts⟩ := List.exists_cons_of_ne_nil
        (List.splitOnP_ne_nil (fun c => !isWord c) cs)
      rw [List.splitOnP_cons_eq_if_modifyHead, parts] at h
      rw [parts] at ih
      split at h
      · rcases List.mem_cons.mp h with rfl | h
        · cases mem
        · exact List.mem_cons_of_mem _ (ih h mem)
      · rcases List.mem_cons.mp h with rfl | h
        · rcases List.mem_cons.mp mem with rfl | mem
          · exact List.mem_cons_self
          · exact List.mem_cons_of_mem _ (ih List.mem_cons_self mem)
        · exact List.mem_cons_of_mem _ (ih (List.mem_cons_of_mem _ h) mem)

/-- A text whose runs are all kept is kept as a whole. -/
theorem mapWordsFrom_eq_self {replace : List Char → List Char} {word cs : List Char}
    (hword : ∀ c ∈ word, isWord c)
    (h : ∀ run ∈ wordRuns (word.reverse ++ cs), replace run = run) :
    mapWordsFrom replace word cs = word.reverse ++ cs := by
  have hreverse : ∀ c ∈ word.reverse, isWord c :=
    fun c mem => hword c (List.mem_reverse.mp mem)
  -- the word that has been read so far belongs to the text, so the hypothesis speaks of both
  induction cs generalizing word with
  | nil =>
      rw [List.append_nil, wordRuns_of_all_isWord hreverse] at h
      unfold mapWordsFrom
      split
      · rename_i empty
        simp_all
      · rw [h _ List.mem_cons_self, List.append_nil]
  | cons c cs ih =>
      unfold mapWordsFrom
      split
      · rename_i hc
        have hword' : ∀ d ∈ c :: word, isWord d := List.forall_mem_cons.mpr ⟨hc, hword⟩
        have shift : (c :: word).reverse ++ cs = word.reverse ++ c :: cs := by simp
        rw [ih hword' (shift ▸ h) (fun d mem => hword' d (List.mem_reverse.mp mem)), shift]
      · rename_i hc
        rw [wordRuns_append_cons _ (by simpa using hc), wordRuns_of_all_isWord hreverse] at h
        have rest := ih (List.forall_mem_nil _)
          (fun run mem => h run (List.mem_append_right _ mem)) (List.forall_mem_nil _)
        rw [rest]
        split
        · rename_i empty
          simp_all
        · rw [h _ (by simp)]
          rfl

theorem mapWords_eq_self {replace : List Char → List Char} {cs : List Char}
    (h : ∀ run ∈ wordRuns cs, replace run = run) : mapWords replace cs = cs :=
  mapWordsFrom_eq_self (List.forall_mem_nil _) h

/-! ## The size of the screen -/

/-- A text with the size of the screen written into it. -/
def written (width height : Int) (cs : List Char) : List Char :=
  mapWords (sizeWord (Number.intDigits width) (Number.intDigits height)) cs

/-- A size that is not too long can be written into every text. -/
theorem substitute_int {width height : Int} (hwidth : Number.IsShort width)
    (hheight : Number.IsShort height) (source : String) :
    substitute (.int width) (.int height) source
      = .ok (String.ofList (written width height source.toList)) := by
  simp only [substitute, Number.writeCompact, Number.writeInt_of_isShort hwidth,
    Number.writeInt_of_isShort hheight]
  simp [bind, Except.bind, pure, Except.pure, written]

/-- A character that belongs to no word is kept. -/
theorem written_cons {width height : Int} {c : Char} (h : isWord c = false) (cs : List Char) :
    written width height (c :: cs) = c :: written width height cs :=
  mapWords_append_cons [] h cs

/-- A text that holds no word at all is kept, and ends what stands before it. -/
theorem written_append_of_no_word {width height : Int} {cs : List Char}
    (h : ∀ c ∈ cs, isWord c = false) (ds : List Char) :
    written width height (cs ++ ds) = cs ++ written width height ds :=
  mapWords_append_of_no_word h ds

theorem newline_notMem_intDigits (n : Int) : '\n' ∉ Number.intDigits n := by
  have digits : '\n' ∉ Number.decimalDigits n.natAbs := fun mem =>
    absurd (Number.isDigit_of_mem_decimalDigits mem) (by decide)
  unfold Number.intDigits
  split
  · simp [digits]
  · exact digits

/-- **The lines of a sketch with the size written into it** are its lines with the
size written into each. -/
theorem splitLines_written (width height : Int) (cs : List Char) :
    splitLines (written width height cs) = (splitLines cs).map (written width height) := by
  refine splitLines_mapWords (fun word hword => ?_) cs
  unfold sizeWord
  split
  · exact newline_notMem_intDigits width
  · split
    · exact newline_notMem_intDigits height
    · intro newline
      have := hword _ newline
      simp [isWord_newline] at this

/-! ## Inert texts -/

/-- A word for the size of the screen. -/
def IsSizeWord (word : List Char) : Prop := word = widthWord ∨ word = heightWord

instance (word : List Char) : Decidable (IsSizeWord word) :=
  inferInstanceAs (Decidable (_ ∨ _))

/-- A text that holds no word for the size, no newline and no comment, also when
more follows. -/
structure IsInert (cs : List Char) : Prop where
  words : ∀ run ∈ wordRuns cs, ¬ IsSizeWord run
  oneLine : '\n' ∉ cs
  uncommented : ∀ offset rest,
    commentOffset? offset none (cs ++ rest) = commentOffset? (offset + cs.length) none rest

/-- A character that ends a word, and starts neither a text, a comment nor a line. -/
def IsSeparator (c : Char) : Prop :=
  isWord c = false ∧ isQuote c = false ∧ c ≠ '/' ∧ c ≠ '\n'

instance (c : Char) : Decidable (IsSeparator c) :=
  inferInstanceAs (Decidable (_ ∧ _))

theorem isQuote_eq_false_of_ne {c : Char} (double : c ≠ '"') (single : c ≠ '\'') :
    isQuote c = false := by
  rw [isQuote, beq_false_of_ne double, beq_false_of_ne single, Bool.or_self]

theorem isQuote_eq_false_of_isWord {c : Char} (h : isWord c = true) : isQuote c = false :=
  isQuote_eq_false_of_ne (ne_of_isWord h (by decide)) (ne_of_isWord h (by decide))

theorem isQuote_eq_false_of_isSpace {c : Char} (h : isSpace c = true) : isQuote c = false :=
  isQuote_eq_false_of_ne (ne_of_isSpace h (by decide)) (ne_of_isSpace h (by decide))

/-- A character that is neither a quote nor part of a comment mark is passed over. -/
theorem commentOffset?_cons {c : Char} (quote : isQuote c = false) (slash : c ≠ '/')
    (offset : Nat) (rest : List Char) :
    commentOffset? offset none (c :: rest) = commentOffset? (offset + 1) none rest := by
  cases rest with
  | nil => rfl
  | cons next rest => simp [commentOffset?, quote, slash]

theorem ne_backslash_of_isQuote {mark : Char} (quote : isQuote mark = true) :
    mark ≠ '\\' := by
  rintro rfl
  exact absurd quote (by decide)

/-- A text between two quotes is passed over as a whole. -/
theorem commentOffset?_quoted {mark : Char} {cs : List Char} (quote : isQuote mark = true)
    (plain : ∀ c ∈ cs, c ≠ mark ∧ c ≠ '\\') (offset : Nat) (rest : List Char) :
    commentOffset? offset (some mark) (cs ++ mark :: rest)
      = commentOffset? (offset + cs.length + 1) none rest := by
  induction cs generalizing offset with
  | nil =>
      cases rest with
      | nil => rfl
      | cons next rest => simp [commentOffset?, ne_backslash_of_isQuote quote]
  | cons c cs ih =>
      rw [List.forall_mem_cons] at plain
      obtain ⟨⟨other, backslash⟩, plain⟩ := plain
      have following := ih plain (offset + 1)
      -- a scan looks at two characters at once; the closing quote is always
      -- there as the second
      obtain ⟨next, more, split⟩ := List.exists_cons_of_ne_nil
        (List.append_ne_nil_of_right_ne_nil cs (List.cons_ne_nil mark rest))
      rw [split] at following
      have passed : commentOffset? offset (some mark) (c :: next :: more)
          = commentOffset? (offset + 1) (some mark) (next :: more) := by
        simp [commentOffset?, other, backslash]
      rw [List.cons_append, split, passed, following, List.length_cons]
      congr 1
      omega

namespace IsInert

theorem word {cs : List Char} (all : ∀ c ∈ cs, isWord c = true) (h : ¬ IsSizeWord cs) :
    IsInert cs where
  words := by simpa [wordRuns_of_all_isWord all] using h
  oneLine := fun mem => absurd (all _ mem) (by decide)
  uncommented := by
    intro offset rest
    clear h
    induction cs generalizing offset with
    | nil => rfl
    | cons c cs ih =>
        rw [List.forall_mem_cons] at all
        rw [List.cons_append, commentOffset?_cons (isQuote_eq_false_of_isWord all.1)
          (ne_of_isWord all.1 (by decide)), ih all.2, List.length_cons, Nat.add_assoc,
          Nat.add_comm 1]

theorem nil : IsInert [] := word (by simp) (by decide)

/-- Inert texts may be joined at a separator. -/
theorem join {cs ds : List Char} {c : Char} (hcs : IsInert cs) (separator : IsSeparator c)
    (hds : IsInert ds) : IsInert (cs ++ c :: ds) where
  words := by
    rw [wordRuns_append_cons _ separator.1]
    simp only [List.forall_mem_append]
    exact ⟨hcs.words, hds.words⟩
  oneLine := by
    simp only [List.mem_append, List.mem_cons, not_or]
    exact ⟨hcs.oneLine, Ne.symm separator.2.2.2, hds.oneLine⟩
  uncommented := by
    intro offset rest
    rw [List.append_assoc, hcs.uncommented, List.cons_append,
      commentOffset?_cons separator.2.1 separator.2.2.1, hds.uncommented, List.length_append,
      List.length_cons]
    congr 1
    omega

/-- A slash with a blank behind it starts no comment. -/
theorem join_slash {cs ds : List Char} (hcs : IsInert cs) (hds : IsInert ds) :
    IsInert (cs ++ '/' :: ' ' :: ds) where
  words := by
    have blank : wordRuns (' ' :: ds) = wordRuns [] ++ wordRuns ds :=
      wordRuns_append_cons [] (by decide) ds
    rw [wordRuns_append_cons _ (by decide), blank]
    simp only [List.forall_mem_append]
    exact ⟨hcs.words, nil.words, hds.words⟩
  oneLine := by
    simp only [List.mem_append, List.mem_cons, not_or]
    exact ⟨hcs.oneLine, by decide, by decide, hds.oneLine⟩
  uncommented := by
    intro offset rest
    have slash : ∀ k, commentOffset? k none ('/' :: ' ' :: (ds ++ rest))
        = commentOffset? (k + 1) none (' ' :: (ds ++ rest)) := by
      intro k
      simp [commentOffset?, isQuote]
    rw [List.append_assoc, hcs.uncommented, List.cons_append, List.cons_append, slash,
      commentOffset?_cons (by decide) (by decide), hds.uncommented, List.length_append,
      List.length_cons, List.length_cons]
    congr 1
    omega

/-- A quoted text is inert if no run of word characters in it is a word for the size. -/
theorem quoted {mark : Char} {cs : List Char} (quote : isQuote mark = true)
    (plain : ∀ c ∈ cs, c ≠ mark ∧ c ≠ '\\' ∧ c ≠ '\n')
    (h : ∀ run ∈ wordRuns cs, ¬ IsSizeWord run) : IsInert (mark :: (cs ++ [mark])) where
  words := by
    have outside : isWord mark = false :=
      Bool.eq_false_iff.mpr fun word =>
        Bool.eq_false_iff.mp (isQuote_eq_false_of_isWord word) quote
    have opening : wordRuns (mark :: (cs ++ [mark]))
        = wordRuns [] ++ wordRuns (cs ++ [mark]) :=
      wordRuns_append_cons [] outside _
    rw [opening, wordRuns_append_cons cs outside]
    simp only [List.forall_mem_append]
    exact ⟨nil.words, h, nil.words⟩
  oneLine := by
    have newline : '\n' ≠ mark := by
      rintro rfl
      exact absurd quote (by decide)
    simp only [List.mem_cons, List.mem_append, List.not_mem_nil, or_false, not_or]
    exact ⟨newline, fun mem => (plain _ mem).2.2 rfl, newline⟩
  uncommented := by
    intro offset rest
    have inside : ∀ c ∈ cs, c ≠ mark ∧ c ≠ '\\' :=
      fun c mem => ⟨(plain c mem).1, (plain c mem).2.1⟩
    have opened : commentOffset? offset none (mark :: (cs ++ mark :: rest))
        = commentOffset? (offset + 1) (some mark) (cs ++ mark :: rest) := by
      obtain ⟨next, more, split⟩ := List.exists_cons_of_ne_nil
        (List.append_ne_nil_of_right_ne_nil cs (List.cons_ne_nil mark rest))
      rw [split]
      simp [commentOffset?, quote]
    rw [List.cons_append, List.append_assoc]
    show commentOffset? offset none (mark :: (cs ++ mark :: rest)) = _
    rw [opened, commentOffset?_quoted quote inside]
    simp only [List.length_cons, List.length_append, List.length_nil]
    congr 1
    omega

end IsInert

/-- An inert text keeps its words when the size of the screen is written into it. -/
theorem written_eq_self {cs : List Char} (h : ∀ run ∈ wordRuns cs, ¬ IsSizeWord run)
    (width height : Int) : written width height cs = cs := by
  refine mapWords_eq_self fun run mem => ?_
  have other := h run mem
  rw [IsSizeWord, not_or] at other
  rw [sizeWord, if_neg other.1, if_neg other.2]

end Source

end SketchScreen
