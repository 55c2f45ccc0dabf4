import Mathlib.Data.List.Basic
import SketchScreen.Text.Digit
import SketchScreen.Text.Space
import SketchScreen.Text.Word

/-!
# Characters and Blanks

Blanks belong to no word and are no digits, so trimming a text that starts and ends with
anything else leaves it as it is.

## Design Notes

Beyond ASCII the classes are tables of ranges of code points.  That two of them have nothing
in common is decided range by range, once, and used for every character from then on.
-/

namespace SketchScreen.Text

/-! ## Classes without a common member -/

/-- Two tables whose ranges are apart hold no common character. -/
theorem Span.anyHolds_eq_false_of_disjoint {spans others : List Span}
    (apart : ∀ a ∈ spans, ∀ b ∈ others, a.2 < b.1 ∨ b.2 < a.1) {c : Char}
    (h : Span.anyHolds spans c = true) : Span.anyHolds others c = false := by
  simp only [Span.anyHolds, List.any_eq_true, Bool.and_eq_true, decide_eq_true_eq] at h
  obtain ⟨a, ha, low, high⟩ := h
  simp only [Span.anyHolds, List.any_eq_false, Bool.and_eq_true, decide_eq_true_eq, not_and,
    Nat.not_le]
  intro b hb low'
  rcases apart a ha b hb with before | behind
  · omega
  · omega

theorem spaceSpans_apart_wordSpans :
    ∀ a ∈ spaceSpans, ∀ b ∈ wordSpans, a.2 < b.1 ∨ b.2 < a.1 := by
  have apart : (spaceSpans.all fun a => wordSpans.all fun b =>
      a.2.blt b.1 || b.2.blt a.1) = true := by decide +kernel
  simpa using apart

/-- The blanks of ASCII by their code points. -/
theorem toNat_of_isSpace_of_lt {c : Char} (h : isSpace c = true) (ascii : c.toNat < 0x80) :
    (9 ≤ c.toNat ∧ c.toNat ≤ 13) ∨ (28 ≤ c.toNat ∧ c.toNat ≤ 32) := by
  simp only [isSpace, spaceSpans, Span.anyHolds, List.any_cons, List.any_nil, Bool.or_eq_true,
    Bool.and_eq_true, decide_eq_true_eq, Bool.false_eq_true, or_false] at h
  omega

/-- The letters of ASCII by their code points. -/
theorem toNat_of_isAlpha {c : Char} (h : c.isAlpha = true) :
    (65 ≤ c.toNat ∧ c.toNat ≤ 90) ∨ (97 ≤ c.toNat ∧ c.toNat ≤ 122) := by
  have letter : (decide (c.val ≥ 'A'.val ∧ c.val ≤ 'Z'.val) ||
      (decide (c.val ≥ 'a'.val) && decide (c.val ≤ 'z'.val))) = true := h
  simp only [Bool.or_eq_true, Bool.and_eq_true, decide_eq_true_eq, UInt32.le_iff_toNat_le,
    ge_iff_le] at letter
  exact letter

/-- Characters of ASCII that are letters, digits or the underscore lie beyond the blanks. -/
theorem toNat_of_isAsciiWord {c : Char} (h : isAsciiWord c = true) : 48 ≤ c.toNat := by
  simp only [isAsciiWord, Char.isAlphanum, Bool.or_eq_true, beq_iff_eq] at h
  rcases h with (letter | digit) | rfl
  · have := toNat_of_isAlpha letter
    omega
  · exact (Char.isDigit_iff_toNat.mp digit).1
  · decide

/-- **A blank belongs to no word.** -/
theorem isWord_eq_false_of_isSpace {c : Char} (h : isSpace c = true) : isWord c = false := by
  unfold isWord
  split
  · rename_i ascii
    by_contra word
    have beyond := toNat_of_isAsciiWord (Bool.of_not_eq_false word)
    have blank := toNat_of_isSpace_of_lt h ascii
    omega
  · exact Span.anyHolds_eq_false_of_disjoint spaceSpans_apart_wordSpans h

theorem isSpace_eq_false_of_isWord {c : Char} (h : isWord c = true) : isSpace c = false := by
  by_contra space
  rw [isWord_eq_false_of_isSpace (Bool.of_not_eq_false space)] at h
  cases h

theorem ne_of_isWord {c d : Char} (h : isWord c = true) (word : isWord d = false) :
    c ≠ d :=
  ne_of_apply_ne isWord (by rw [h, word]; exact Bool.noConfusion)

theorem ne_of_isSpace {c d : Char} (h : isSpace c = true) (space : isSpace d = false) :
    c ≠ d :=
  ne_of_apply_ne isSpace (by rw [h, space]; exact Bool.noConfusion)

/-- The characters that a name starts with, by their code points. -/
theorem toNat_of_isNameStart {c : Char} (h : isNameStart c = true) :
    (65 ≤ c.toNat ∧ c.toNat ≤ 90) ∨ (97 ≤ c.toNat ∧ c.toNat ≤ 122) ∨ c.toNat = 95 := by
  simp only [isNameStart, Bool.or_eq_true, beq_iff_eq] at h
  rcases h with letter | rfl
  · have := toNat_of_isAlpha letter
    omega
  · exact Or.inr (Or.inr rfl)

theorem isWord_of_isNameStart {c : Char} (h : isNameStart c = true) : isWord c = true := by
  have ascii : c.toNat < 0x80 := by
    have := toNat_of_isNameStart h
    omega
  simp only [isNameStart, Bool.or_eq_true] at h
  simp only [isWord, ascii, if_true, isAsciiWord, Char.isAlphanum, Bool.or_eq_true]
  rcases h with alpha | underscore
  · exact Or.inl (Or.inl alpha)
  · exact Or.inr underscore

/-! ## Digits -/

/-- A decimal digit of ASCII is a digit, and its value is its distance from the zero. -/
theorem digitValue?_of_isDigit {c : Char} (h : c.isDigit = true) :
    digitValue? c = some (c.toNat - 48) := by
  have range := Char.isDigit_iff_toNat.mp h
  have ascii : c.toNat < 0x80 := Nat.lt_of_le_of_lt range.2 (by decide)
  simp [digitValue?, ascii, h]

theorem isDigit_of_isDigit {c : Char} (h : c.isDigit = true) : isDigit c = true := by
  simp [isDigit, digitValue?_of_isDigit h]

/-- The ten digits of every script are word characters. -/
theorem digitZeros_within_wordSpans :
    ∀ first ∈ digitZeros, ∃ span ∈ wordSpans, span.1 ≤ first ∧ first + 9 ≤ span.2 := by
  have within : (digitZeros.all fun first => wordSpans.any fun span =>
      span.1.ble first && (first + 9).ble span.2) = true := by decide +kernel
  simpa using within

theorem isWord_of_isDigit {c : Char} (h : isDigit c = true) : isWord c = true := by
  unfold isDigit digitValue? at h
  unfold isWord
  split at h
  · rename_i ascii
    split at h
    · rename_i digit
      simp [ascii, isAsciiWord, Char.isAlphanum, digit]
    · cases h
  · rename_i beyond
    rw [if_neg beyond]
    simp only [Option.isSome_map, List.find?_isSome, Bool.and_eq_true, decide_eq_true_eq] at h
    obtain ⟨first, hfirst, low, high⟩ := h
    obtain ⟨span, hspan, left, right⟩ := digitZeros_within_wordSpans first hfirst
    simp only [Span.anyHolds, List.any_eq_true, Bool.and_eq_true, decide_eq_true_eq]
    exact ⟨span, hspan, by omega, by omega⟩

theorem isDigit_eq_false_of_isNameStart {c : Char} (h : isNameStart c = true) :
    isDigit c = false := by
  have range := toNat_of_isNameStart h
  have ascii : c.toNat < 0x80 := by omega
  have notDigit : c.isDigit = false := by
    by_contra digit
    have zeroToNine := Char.isDigit_iff_toNat.mp (Bool.of_not_eq_false digit)
    simp only [Char.reduceToNat] at zeroToNine
    omega
  simp [isDigit, digitValue?, ascii, notDigit]

/-! ## Trimming -/

theorem trimLeft_eq_self {cs : List Char} (h : ∀ c ∈ cs.head?, isSpace c = false) :
    trimLeft cs = cs := by
  cases cs with
  | nil => rfl
  | cons c cs => simp [trimLeft, h c rfl]

theorem trimRight_eq_self {cs : List Char} (h : ∀ c ∈ cs.getLast?, isSpace c = false) :
    trimRight cs = cs := by
  have front : trimLeft cs.reverse = cs.reverse :=
    trimLeft_eq_self (by simpa using h)
  rw [trimRight]
  exact (congrArg List.reverse front).trans cs.reverse_reverse

theorem trimLeft_blank_append {gap : List Char} (blank : isBlank gap = true)
    (cs : List Char) : trimLeft (gap ++ cs) = trimLeft cs := by
  rw [isBlank, List.all_eq_true] at blank
  exact List.dropWhile_append_of_pos blank

theorem trimRight_append_blank {gap : List Char} (blank : isBlank gap = true)
    (cs : List Char) : trimRight (cs ++ gap) = trimRight cs := by
  rw [isBlank, ← List.all_reverse] at blank
  rw [trimRight, List.reverse_append]
  exact congrArg List.reverse (trimLeft_blank_append blank cs.reverse)

theorem isSpace_of_mem_head?_trimLeft {cs : List Char} {c : Char}
    (h : c ∈ (trimLeft cs).head?) : isSpace c = false := by
  have first := List.head?_dropWhile_not isSpace cs
  rw [show (cs.dropWhile isSpace).head? = some c from h] at first
  simpa using first

theorem isSpace_of_mem_getLast?_trimRight {cs : List Char} {c : Char}
    (h : c ∈ (trimRight cs).getLast?) : isSpace c = false := by
  rw [trimRight, List.getLast?_reverse] at h
  exact isSpace_of_mem_head?_trimLeft h

/-- What is trimmed off in front is blank. -/
theorem exists_blank_append_trimLeft (cs : List Char) :
    ∃ gap, isBlank gap = true ∧ cs = gap ++ trimLeft cs :=
  ⟨cs.takeWhile isSpace, List.all_takeWhile, List.takeWhile_append_dropWhile.symm⟩

/-- What is trimmed off at the end is blank. -/
theorem exists_trimRight_append_blank (cs : List Char) :
    ∃ gap, isBlank gap = true ∧ cs = trimRight cs ++ gap := by
  refine ⟨(cs.reverse.takeWhile isSpace).reverse, ?_, ?_⟩
  · rw [isBlank, List.all_reverse]
    exact List.all_takeWhile
  · rw [trimRight, ← List.reverse_append, List.takeWhile_append_dropWhile,
      List.reverse_reverse]

/-- Behind a character that is no blank only the rest is trimmed. -/
theorem trimRight_append {cs : List Char} (h : ∃ c, cs.getLast? = some c ∧ isSpace c = false)
    (ds : List Char) : trimRight (cs ++ ds) = cs ++ trimRight ds := by
  obtain ⟨last, tail, space⟩ := h
  obtain ⟨gap, blank, split⟩ := exists_trimRight_append_blank ds
  have ends : ∀ c ∈ (cs ++ trimRight ds).getLast?, isSpace c = false := by
    intro c mem
    rw [List.getLast?_append] at mem
    cases front : (trimRight ds).getLast? with
    | none =>
        rw [front, tail] at mem
        cases mem
        exact space
    | some d =>
        rw [front] at mem
        cases mem
        exact isSpace_of_mem_getLast?_trimRight front
  calc trimRight (cs ++ ds)
      = trimRight ((cs ++ trimRight ds) ++ gap) := by rw [List.append_assoc, ← split]
    _ = trimRight (cs ++ trimRight ds) := trimRight_append_blank blank _
    _ = cs ++ trimRight ds := trimRight_eq_self ends

/-- A text that starts and ends with no blank. -/
structure IsTrimmed (cs : List Char) : Prop where
  head : ∃ c, cs.head? = some c ∧ isSpace c = false
  last : ∃ c, cs.getLast? = some c ∧ isSpace c = false

namespace IsTrimmed

/-- Blanks around a text without any at its ends are trimmed, and nothing else is. -/
theorem trim_blank_append {cs gap gap' : List Char} (h : IsTrimmed cs)
    (blank : isBlank gap = true) (blank' : isBlank gap' = true) :
    trim (gap ++ (cs ++ gap')) = cs := by
  obtain ⟨first, head, space⟩ := h.head
  obtain ⟨last, tail, space'⟩ := h.last
  have front : trimLeft (cs ++ gap') = cs ++ gap' := by
    refine trimLeft_eq_self fun c mem => ?_
    rw [List.head?_append, head] at mem
    cases mem
    exact space
  have back : trimRight cs = cs := by
    refine trimRight_eq_self fun c mem => ?_
    cases tail.symm.trans mem
    exact space'
  rw [trim, trimLeft_blank_append blank, front, trimRight_append_blank blank', back]

/-- A text that starts and ends with no blank has nothing to be trimmed. -/
theorem trim_eq {cs : List Char} (h : IsTrimmed cs) : trim cs = cs := by
  simpa using @trim_blank_append cs [] [] h rfl rfl

theorem ne_nil {cs : List Char} (h : IsTrimmed cs) : cs ≠ [] := by
  obtain ⟨c, head, -⟩ := h.head
  rintro rfl
  cases head

theorem isBlank_eq_false {cs : List Char} (h : IsTrimmed cs) : isBlank cs = false := by
  obtain ⟨c, head, space⟩ := h.head
  rw [isBlank, List.all_eq_false]
  exact ⟨c, List.mem_of_mem_head? head, by simp [space]⟩

/-- A text from the first character of one text to the last of another. -/
theorem append {cs ds : List Char} (hcs : IsTrimmed cs) (hds : IsTrimmed ds)
    (gap : List Char) : IsTrimmed (cs ++ (gap ++ ds)) := by
  obtain ⟨first, head, space⟩ := hcs.head
  obtain ⟨last, tail, space'⟩ := hds.last
  exact ⟨⟨first, by simp [List.head?_append, head], space⟩,
    last, by simp [List.getLast?_append, tail], space'⟩

theorem singleton {c : Char} (h : isSpace c = false) : IsTrimmed [c] :=
  ⟨⟨c, rfl, h⟩, c, rfl, h⟩

/-- A word has nothing to be trimmed. -/
theorem of_isWord {cs : List Char} (nonempty : cs ≠ []) (word : ∀ c ∈ cs, isWord c = true) :
    IsTrimmed cs where
  head := ⟨_, List.head?_eq_some_head nonempty,
    isSpace_eq_false_of_isWord (word _ (List.head_mem nonempty))⟩
  last := ⟨_, List.getLast?_eq_some_getLast nonempty,
    isSpace_eq_false_of_isWord (word _ (List.getLast_mem nonempty))⟩

end IsTrimmed

end SketchScreen.Text
