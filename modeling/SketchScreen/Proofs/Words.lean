import Mathlib.Data.List.SplitBy
import Mathlib.Data.List.TakeWhile
import SketchScreen.Proofs.Source

/-!
# Whole Words

The words for the size are replaced run by run: a text is cut where word characters
meet others, and of its runs those that are a word for the size are replaced.  Another
way is to look for one of the two words at a time, from the left to the right, wherever
an edge of a word is on both sides of it.  Both ways lead to the same text, and so does
either order of the two words.

## Main Definitions

- `Source.runs`: the runs of word characters of a text and the texts between them.
- `Source.isEdge`, `Source.standsAt`: where a word begins or ends, and where a
  given word stands.
- `Source.replaceWord`: a text with a word replaced wherever it stands.

## Design Notes

A pass for one word changes what stands next to the places where the other is looked
for, since digits are word characters and a sign is none.  Words are never next to
each other, though, so to replace words twice is to replace what each of them has
become (`mapWords_mapWords`).
-/

namespace SketchScreen.Source

open SketchScreen.Text

/-! ## Runs -/

/-- The maximal runs of word characters of a text, and the texts between them. -/
def runs (cs : List Char) : List (List Char) :=
  cs.splitBy fun c d => isWord c == isWord d

/-- A run, of word characters or of others, with the rest of the text behind it. -/
structure IsRun (word : Bool) (run rest : List Char) : Prop where
  nonempty : run ≠ []
  all : ∀ c ∈ run, isWord c = word
  ends : ∀ c ∈ rest.head?, isWord c = !word

/-- Induction over the runs of a text. -/
@[elab_as_elim]
theorem runInduction {motive : List Char → Prop} (nil : motive [])
    (run : ∀ word run rest, IsRun word run rest → motive rest → motive (run ++ rest))
    (cs : List Char) : motive cs := by
  induction size : cs.length using Nat.strong_induction_on generalizing cs with
  | _ n ih =>
  cases cs with
  | nil => exact nil
  | cons c cs =>
      obtain ⟨alike, spec⟩ : ∃ alike : Char → Bool, ∀ d, alike d = true ↔
          isWord d = isWord c :=
        ⟨fun d => isWord d == isWord c, fun d => beq_iff_eq⟩
      have first : alike c = true := (spec c).mpr rfl
      have shorter : ((c :: cs).dropWhile alike).length < n := by
        rw [List.dropWhile_cons_of_pos first, ← size]
        exact Nat.lt_succ_of_le (List.dropWhile_suffix _).length_le
      rw [← List.takeWhile_append_dropWhile (p := alike) (l := c :: cs)]
      refine run (isWord c) _ _ ⟨?_, fun d mem => ?_, fun d mem => ?_⟩ (ih _ shorter _ rfl)
      · rw [List.takeWhile_cons_of_pos first]
        exact List.cons_ne_nil _ _
      · exact (spec d).mp (List.mem_takeWhile_imp mem)
      · have other := List.head?_dropWhile_not alike (c :: cs)
        rw [Option.mem_def.mp mem] at other
        have ne : isWord d ≠ isWord c := fun same => by simp [(spec d).mpr same] at other
        cases word : isWord c <;> simp_all

namespace IsRun

variable {word : Bool} {run rest : List Char}

theorem runs_append (h : IsRun word run rest) : runs (run ++ rest) = run :: runs rest := by
  have chain : run.IsChain fun c d => (isWord c == isWord d) = true :=
    List.Pairwise.isChain (List.pairwise_of_forall_mem_list fun c hc d hd => by
      rw [h.all c hc, h.all d hd, beq_self_eq_true])
  have apart : ∀ c ∈ run.getLast?, ∀ d ∈ rest.head?, (isWord c == isWord d) = false := by
    intro c hc d hd
    rw [h.all c (List.mem_of_mem_getLast? hc), h.ends d hd]
    cases word <;> rfl
  rw [runs, List.splitBy_append apart, List.splitBy_of_isChain h.nonempty chain]
  rfl

variable {replace : List Char → List Char}

theorem mapWords_append (h : IsRun word run rest) :
    mapWords replace (run ++ rest)
      = (if word then replace run else run) ++ mapWords replace rest := by
  cases word with
  | true =>
      rw [Source.mapWords_append run h.ends]
      exact congrArg (· ++ _) (mapWordsFrom_of_all_isWord h.all [] (Or.inr h.nonempty))
  | false => exact mapWords_append_of_no_word h.all rest

end IsRun

/-! ## Replacing words run by run -/

section Replacing

variable {replace again : List Char → List Char}

/-- **Replacing words is replacing runs**, if those that are no words are kept. -/
theorem mapWords_eq_flatMap_runs
    (keeps : ∀ run : List Char, run ≠ [] → (∀ c ∈ run, isWord c = false) → replace run = run)
    (cs : List Char) : mapWords replace cs = (runs cs).flatMap replace := by
  induction cs using runInduction with
  | nil => rfl
  | run word run rest h ih =>
      rw [h.mapWords_append, h.runs_append, List.flatMap_cons, ih]
      cases word with
      | true => rfl
      | false => rw [keeps run h.nonempty h.all]; rfl

/-- Only what words become matters. -/
theorem mapWords_congr
    (h : ∀ run : List Char, run ≠ [] → (∀ c ∈ run, isWord c = true) → replace run = again run)
    (cs : List Char) : mapWords replace cs = mapWords again cs := by
  induction cs using runInduction with
  | nil => rfl
  | run word run rest isRun ih =>
      rw [isRun.mapWords_append, isRun.mapWords_append, ih]
      cases word with
      | true => rw [h run isRun.nonempty isRun.all]
      | false => rfl

/-- What begins with no word still does after its words have been replaced. -/
theorem head?_mapWords {rest : List Char} (h : ∀ c ∈ rest.head?, isWord c = false) :
    ∀ c ∈ (mapWords replace rest).head?, isWord c = false := by
  cases rest with
  | nil => simp [mapWords, mapWordsFrom]
  | cons c rest =>
      have kept : mapWords replace (c :: rest) = c :: mapWords replace rest :=
        mapWords_append_cons [] (h c rfl) rest
      rw [kept]
      exact h

/-- **To replace words twice** is to replace the words of what each word has become. -/
theorem mapWords_mapWords (cs : List Char) :
    mapWords again (mapWords replace cs)
      = mapWords (fun run => mapWords again (replace run)) cs := by
  induction cs using runInduction with
  | nil => rfl
  | run word run rest h ih =>
      rw [h.mapWords_append, h.mapWords_append, ← ih]
      cases word with
      | true => exact mapWords_append _ (head?_mapWords h.ends)
      | false => exact mapWords_append_of_no_word h.all _

end Replacing

/-! ## Replacing one word wherever it stands -/

/-- Whether a word begins or ends between two characters, either of which may be missing. -/
def isEdge (before behind : Option Char) : Bool :=
  before.any isWord != behind.any isWord

/-- Whether a word stands at the start of a text, with an edge on both sides of it; `before`
is the character before the text. -/
def standsAt (word : List Char) (before : Option Char) (cs : List Char) : Bool :=
  isEdge before cs.head? && word.isPrefixOf cs
    && isEdge word.getLast? (cs.drop word.length).head?

/-- Replaces a word wherever it stands in a text, from the left to the right. -/
def replaceWordFrom (word text : List Char) (before : Option Char) : List Char → List Char
  | [] => []
  | c :: cs =>
    if standsAt word before (c :: cs) then
      text ++ replaceWordFrom word text word.getLast? (cs.drop (word.length - 1))
    else c :: replaceWordFrom word text (some c) cs
termination_by cs => cs.length
decreasing_by
  all_goals simp only [List.length_cons, List.length_drop]; omega

/-- A text with a word replaced wherever it stands. -/
def replaceWord (word text cs : List Char) : List Char :=
  replaceWordFrom word text none cs

section Standing

variable {word text : List Char}

/-- Between two characters of a run there is no edge. -/
theorem standsAt_of_isWord_eq {b c : Char} (h : isWord b = isWord c) (cs : List Char) :
    standsAt word (some b) (c :: cs) = false := by
  simp [standsAt, isEdge, h]

/-- Within a run nothing is replaced. -/
theorem replaceWordFrom_append {kind : Bool} {b : Char} {run rest tail : List Char}
    (hb : isWord b = kind) (all : ∀ c ∈ run, isWord c = kind)
    (h : ∀ c, isWord c = kind → replaceWordFrom word text (some c) rest = tail) :
    replaceWordFrom word text (some b) (run ++ rest) = run ++ tail := by
  induction run generalizing b with
  | nil => exact h b hb
  | cons c run ih =>
      rw [List.forall_mem_cons] at all
      rw [List.cons_append, replaceWordFrom, standsAt_of_isWord_eq (hb.trans all.1.symm),
        if_neg (by simp), ih all.1 all.2, List.cons_append]

variable (nonempty : word ≠ []) (all : ∀ c ∈ word, isWord c = true)

include nonempty all

/-- **A word stands at the start of a run exactly if it is the run.** -/
theorem standsAt_append {kind : Bool} {before : Option Char} {run rest : List Char}
    (h : IsRun kind run rest) (outside : kind = true → before.any isWord = false) :
    standsAt word before (run ++ rest) = true ↔ run = word := by
  obtain ⟨c, tail, rfl⟩ := List.exists_cons_of_ne_nil h.nonempty
  have last : word.getLast?.any isWord = true := by
    rw [List.getLast?_eq_some_getLast nonempty]
    exact all _ (List.getLast_mem nonempty)
  constructor
  · intro stands
    simp only [standsAt, isEdge, last, Bool.and_eq_true, List.isPrefixOf_iff_prefix] at stands
    obtain ⟨⟨-, more, joined⟩, edge⟩ := stands
    rcases List.append_eq_append_iff.mp joined with ⟨inner, run, rfl⟩ | ⟨inner, run, rfl⟩
    · -- the run goes on behind the word, unless it ends there
      cases inner with
      | nil => simpa using run
      | cons d inner =>
          have first : isWord c = true := by
            obtain ⟨e, word, rfl⟩ := List.exists_cons_of_ne_nil nonempty
            obtain ⟨rfl, -⟩ := List.cons_eq_cons.mp run
            exact all c List.mem_cons_self
          have inside : isWord d = true := by
            rw [h.all d (by simp [run]), ← h.all c List.mem_cons_self, first]
          simp [run, inside] at edge
    · -- the word reaches beyond the run, where other characters stand
      cases inner with
      | nil => simpa using run.symm
      | cons d inner =>
          have inside : isWord d = true := all d (by simp [run])
          have first : isWord c = true := all c (by simp [run])
          have beyond := h.ends d (by simp)
          rw [← h.all c List.mem_cons_self, first, inside] at beyond
          cases beyond
  · rintro rfl
    have first : isWord c = true := all c List.mem_cons_self
    have isKind : kind = true := by rw [← h.all c List.mem_cons_self, first]
    have behind : rest.head?.any isWord = false := by
      cases rest with
      | nil => rfl
      | cons d rest => simp [h.ends d rfl, isKind]
    simp [standsAt, isEdge, last, outside isKind, behind, first]

/-- **Replacing a word wherever it stands is replacing the runs that it is.** -/
theorem replaceWordFrom_eq_mapWords (cs : List Char) (before : Option Char)
    (outside : ∀ c ∈ cs.head?, isWord c = true → before.any isWord = false) :
    replaceWordFrom word text before cs
      = mapWords (fun run => if run = word then text else run) cs := by
  induction cs using runInduction generalizing before with
  | nil => simp [replaceWordFrom, mapWords, mapWordsFrom]
  | run kind run rest h ih =>
      obtain ⟨c, tail, rfl⟩ := List.exists_cons_of_ne_nil h.nonempty
      have first := h.all c List.mem_cons_self
      have stands := standsAt_append nonempty all h fun isKind =>
        outside c rfl (first.trans isKind)
      have following : ∀ b, isWord b = kind → replaceWordFrom word text (some b) rest
          = mapWords (fun run => if run = word then text else run) rest := by
        intro b hb
        refine ih (some b) fun d mem isWord => ?_
        simpa [hb, h.ends d mem] using isWord
      rw [List.cons_append] at stands ⊢
      rw [← List.cons_append, h.mapWords_append, List.cons_append, replaceWordFrom]
      by_cases same : c :: tail = word
      · subst same
        have last : isWord ((c :: tail).getLast nonempty) = kind :=
          h.all _ (List.getLast_mem _)
        have isKind : kind = true := by rw [← first, all c List.mem_cons_self]
        rw [if_pos (stands.mpr rfl), List.getLast?_eq_some_getLast nonempty, List.length_cons,
          Nat.add_sub_cancel, List.drop_left, following _ last, isKind]
        simp
      · rw [if_neg (stands.not.mpr same), replaceWordFrom_append first
          (List.forall_mem_cons.mp h.all).2 following]
        simp [same]

theorem replaceWord_eq_mapWords (cs : List Char) :
    replaceWord word text cs = mapWords (fun run => if run = word then text else run) cs :=
  replaceWordFrom_eq_mapWords nonempty all cs none fun _ _ _ => rfl

/-- **Two words one after the other**: they are replaced as if at once, if the text for the
first does not hold the second. -/
theorem replaceWord_replaceWord {other text' : List Char} (nonempty' : other ≠ [])
    (all' : ∀ c ∈ other, isWord c = true) (free : other ∉ wordRuns text) (cs : List Char) :
    replaceWord other text' (replaceWord word text cs)
      = mapWords
        (fun run => if run = word then text else if run = other then text' else run) cs := by
  rw [replaceWord_eq_mapWords nonempty all, replaceWord_eq_mapWords nonempty' all',
    mapWords_mapWords]
  refine mapWords_congr (fun run hrun isWord => ?_) cs
  by_cases same : run = word
  · rw [if_pos same, if_pos same]
    refine mapWords_eq_self fun run mem => if_neg ?_
    rintro rfl
    exact free mem
  · rw [if_neg same, if_neg same]
    exact mapWordsFrom_of_all_isWord isWord [] (Or.inr hrun)

end Standing

/-! ## Words for the size -/

theorem widthWord_isWord : ∀ c ∈ widthWord, isWord c = true := List.all_eq_true.mp rfl

theorem heightWord_isWord : ∀ c ∈ heightWord, isWord c = true := List.all_eq_true.mp rfl

/-- Digits and signs are no words for the size. -/
theorem not_isSizeWord_of_mem_wordRuns {n : Int} {run : List Char}
    (h : run ∈ wordRuns (Number.intDigits n)) : ¬ IsSizeWord run := by
  have letter : 'H' ∉ Number.intDigits n := fun mem =>
    absurd (Number.intDigits_subset n mem) (by decide)
  rintro (rfl | rfl)
  · exact letter (mem_of_mem_wordRuns h (by decide))
  · exact letter (mem_of_mem_wordRuns h (by decide))

variable (width height : Int)

/-- A run of characters that belong to no word is kept. -/
theorem sizeWord_of_no_word {w h run : List Char} (nonempty : run ≠ [])
    (all : ∀ c ∈ run, isWord c = false) : sizeWord w h run = run := by
  obtain ⟨c, run, rfl⟩ := List.exists_cons_of_ne_nil nonempty
  have first := all c List.mem_cons_self
  have other : ∀ {word : List Char}, (∀ d ∈ word, isWord d = true) → c :: run ≠ word := by
    rintro _ isWord rfl
    rw [isWord c List.mem_cons_self] at first
    cases first
  rw [sizeWord, if_neg (other widthWord_isWord), if_neg (other heightWord_isWord)]

theorem written_eq_flatMap_runs (cs : List Char) :
    written width height cs
      = (runs cs).flatMap (sizeWord (Number.intDigits width) (Number.intDigits height)) :=
  mapWords_eq_flatMap_runs (fun _ => sizeWord_of_no_word) cs

/-- Once the size is written, there is nothing left to write. -/
theorem written_written (cs : List Char) :
    written width height (written width height cs) = written width height cs := by
  have digits : ∀ n, written width height (Number.intDigits n) = Number.intDigits n :=
    fun n =>
    written_eq_self (fun _ => not_isSizeWord_of_mem_wordRuns) width height
  rw [written, written, mapWords_mapWords]
  refine mapWords_congr (fun run nonempty isWord => ?_) cs
  show written width height _ = _
  unfold sizeWord
  split
  · exact digits width
  · split
    · exact digits height
    · rename_i notWidth notHeight
      refine (mapWordsFrom_of_all_isWord isWord [] (Or.inr nonempty)).trans ?_
      exact (if_neg notWidth).trans (if_neg notHeight)

theorem replaceWord_width_height (cs : List Char) :
    replaceWord heightWord (Number.intDigits height)
        (replaceWord widthWord (Number.intDigits width) cs) = written width height cs :=
  replaceWord_replaceWord (by decide) widthWord_isWord (by decide) heightWord_isWord
    (fun mem => not_isSizeWord_of_mem_wordRuns mem (Or.inr rfl)) cs

theorem replaceWord_height_width (cs : List Char) :
    replaceWord widthWord (Number.intDigits width)
        (replaceWord heightWord (Number.intDigits height) cs) = written width height cs := by
  rw [replaceWord_replaceWord (by decide) heightWord_isWord (by decide) widthWord_isWord
    fun mem => not_isSizeWord_of_mem_wordRuns mem (Or.inl rfl)]
  refine mapWords_congr (fun run _ _ => ?_) cs
  unfold sizeWord
  split
  · rename_i isHeight
    rw [isHeight, if_neg (by decide)]
  · rfl

variable {width height}

/-- **The size is written into the whole words for it, and nowhere else.**  Of the runs of a
text those that are a word for the size are replaced; so the lines of the result are the lines
of the text with the size written into each, to write the size once more changes nothing, and
it does not matter which of the two words is looked for first. -/
theorem substitute_eq_flatMap_runs (hwidth : Number.IsShort width)
    (hheight : Number.IsShort height) (source : String) :
    ∃ text, substitute (.int width) (.int height) source = .ok text ∧
      text.toList = (runs source.toList).flatMap (fun run =>
        if run = widthWord then Number.intDigits width
        else if run = heightWord then Number.intDigits height
        else run) ∧
      (splitLines source.toList).mapM
          (fun line => substitute (.int width) (.int height) (String.ofList line))
        = .ok ((splitLines text.toList).map String.ofList) ∧
      substitute (.int width) (.int height) text = .ok text ∧
      text.toList = replaceWord heightWord (Number.intDigits height)
        (replaceWord widthWord (Number.intDigits width) source.toList) ∧
      text.toList = replaceWord widthWord (Number.intDigits width)
        (replaceWord heightWord (Number.intDigits height) source.toList) := by
  refine ⟨_, substitute_int hwidth hheight source, ?_⟩
  simp only [substitute_int hwidth hheight, String.toList_ofList, splitLines_written,
    List.map_map, written_written, replaceWord_width_height, replaceWord_height_width,
    and_true]
  exact ⟨written_eq_flatMap_runs width height source.toList, List.mapM_pure⟩

/-- A screen of negative width; `HEIGHTS` and `_WIDTH` are no words for the size. -/
theorem substitute_eq_flatMap_runs_negative :
    ∃ text, substitute (.int (-5)) (.int 240) "WIDTH.HEIGHTS+HEIGHT\n_WIDTH" = .ok text ∧
      text.toList = "-5.HEIGHTS+240\n_WIDTH".toList := by
  obtain ⟨text, written, replaced, -⟩ :=
    @substitute_eq_flatMap_runs (-5) 240 (by decide) (by decide)
      "WIDTH.HEIGHTS+HEIGHT\n_WIDTH"
  exact ⟨text, written, replaced.trans (by decide)⟩

end SketchScreen.Source
