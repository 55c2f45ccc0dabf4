import SketchScreen.Json.Write
import SketchScreen.Proofs.Decimal
import SketchScreen.Proofs.Run

/-!
# Texts in JSON

What is written in JSON is printable ASCII on lines that end with a newline, whatever texts
are in it: all other characters are escaped there.  So a text in JSON has no carriage return,
and no half of a character, which is written as the escape that it was.

## Main Definitions

- `Json.IsAscii`: a text of printable ASCII and newlines.
-/

namespace SketchScreen.Json

open SketchScreen.Number (numeralCharacters)

variable {s : String}

/-! ## Printable ASCII -/

/-- Whether a character is printable ASCII or a newline. -/
def isAsciiChar (c : Char) : Bool := c == '\n' || (0x20 ≤ c.toNat && c.toNat < 0x7F)

/-- A text of printable ASCII and newlines. -/
def IsAscii (s : String) : Prop := ∀ c ∈ s.toList, isAsciiChar c = true

instance (s : String) : Decidable (IsAscii s) :=
  decidable_of_iff (s.toList.all isAsciiChar = true) List.all_eq_true

theorem IsAscii.ofList {cs : List Char} (h : ∀ c ∈ cs, isAsciiChar c = true) :
    IsAscii (String.ofList cs) := by
  rw [IsAscii, String.toList_ofList]
  exact h

theorem IsAscii.append {t : String} (hs : IsAscii s) (ht : IsAscii t) : IsAscii (s ++ t) := by
  rw [IsAscii, String.toList_append]
  exact fun c mem => (List.mem_append.mp mem).elim (hs c) (ht c)

theorem IsAscii.intercalate {parts : List String} (hs : IsAscii s)
    (hparts : ∀ part ∈ parts, IsAscii part) : IsAscii (s.intercalate parts) := by
  induction parts with
  | nil => exact fun c mem => absurd mem List.not_mem_nil
  | cons part parts ih =>
      obtain ⟨hpart, hparts⟩ := List.forall_mem_cons.mp hparts
      cases parts with
      | nil =>
          rw [String.intercalate_singleton]
          exact hpart
      | cons next parts =>
          rw [String.intercalate_cons_cons]
          exact (hpart.append hs).append (ih hparts)

theorem IsAscii.notMem_return (h : IsAscii s) : '\r' ∉ s.toList :=
  fun mem => absurd (h _ mem) (by decide)

theorem IsAscii.half? (h : IsAscii s) : ∀ c ∈ s.toList, Text.half? c = none := by
  intro c mem
  have ascii := h c mem
  have low : c.toNat ≤ 126 := by
    rw [isAsciiChar, Bool.or_eq_true, Bool.and_eq_true, beq_iff_eq] at ascii
    rcases ascii with rfl | ⟨-, below⟩
    · decide
    · exact Nat.le_of_lt_succ (of_decide_eq_true below)
  rw [Text.half?, if_neg]
  rw [Text.isReserved_iff]
  omega

/-! ## Scalars -/

theorem isAscii_of_subset (characters : s.toList ⊆ numeralCharacters) : IsAscii s := by
  have numerals : ∀ c ∈ numeralCharacters, isAsciiChar c = true :=
    List.all_eq_true.mp (by decide)
  exact fun c mem => numerals c (characters mem)

theorem isAsciiChar_of_mem_replicate {k : Nat} {c d : Char} (h : isAsciiChar d = true)
    (mem : c ∈ List.replicate k d) : isAsciiChar c = true := by
  rw [List.eq_of_mem_replicate mem]
  exact h

theorem isAsciiChar_of_mem_toDigits (n : Nat) :
    ∀ c ∈ Nat.toDigits 16 n, isAsciiChar c = true := by
  have digit : ∀ d < 16, isAsciiChar (Nat.digitChar d) = true := by decide
  induction n using Nat.strong_induction_on with
  | _ n ih =>
      rw [Nat.toDigits_eq_if (by decide)]
      split
      · rename_i small
        exact List.forall_mem_singleton.mpr (digit n small)
      · rename_i large
        rw [List.forall_mem_append, List.forall_mem_singleton]
        exact ⟨ih (n / 16) (by omega), digit (n % 16) (by omega)⟩

theorem isAsciiChar_of_mem_writeUnit (n : Nat) : ∀ c ∈ writeUnit n, isAsciiChar c = true := by
  rw [writeUnit, List.forall_mem_cons, List.forall_mem_cons, List.forall_mem_append]
  exact ⟨by decide, by decide, fun c => isAsciiChar_of_mem_replicate (by decide),
    isAsciiChar_of_mem_toDigits n⟩

theorem isAsciiChar_of_mem_writeChar (c : Char) :
    ∀ d ∈ writeChar c, isAsciiChar d = true := by
  unfold writeChar
  split
  any_goals exact List.all_eq_true.mp rfl
  split
  · rename_i printable
    simp only [Bool.and_eq_true, decide_eq_true_eq] at printable
    obtain ⟨low, high⟩ := printable
    rw [List.forall_mem_singleton, isAsciiChar, Bool.or_eq_true, Bool.and_eq_true]
    exact .inr ⟨decide_eq_true low, decide_eq_true (Nat.lt_succ_of_le high)⟩
  · split
    · exact isAsciiChar_of_mem_writeUnit _
    · split
      · exact isAsciiChar_of_mem_writeUnit _
      · rw [List.forall_mem_append]
        exact ⟨isAsciiChar_of_mem_writeUnit _, isAsciiChar_of_mem_writeUnit _⟩

theorem isAscii_writeText (s : String) : IsAscii (writeText s) := by
  have inside : IsAscii (String.ofList (s.toList.flatMap writeChar)) := by
    refine .ofList fun d mem => ?_
    obtain ⟨c, -, mem⟩ := List.mem_flatMap.mp mem
    exact isAsciiChar_of_mem_writeChar c d mem
  have quote : IsAscii "\"" := by decide
  exact (quote.append inside).append quote

theorem isAscii_writeNumber {n : Number} (written : writeNumber n = .ok s) : IsAscii s := by
  cases n with
  | int m =>
      rw [writeNumber] at written
      exact isAscii_of_subset (Number.writeInt_characters (eq_ok_of_mapError_eq_ok written)).2
  | float x =>
      cases written
      rw [writeFloat]
      split
      · decide
      · split <;> decide
      · exact isAscii_of_subset (Number.writeFloat_characters x).2

theorem isAscii_writeBool (b : Bool) : IsAscii (writeBool b) := by
  cases b <;> decide

theorem isAscii_writeKey {key : Value} (written : writeKey key = .ok s) : IsAscii s := by
  have quote : IsAscii "\"" := by decide
  cases key with
  | text name =>
      cases written
      exact isAscii_writeText name
  | number n =>
      obtain ⟨numeral, digits, rfl⟩ := exists_of_map_eq_ok written
      exact (quote.append (isAscii_writeNumber digits)).append quote
  | bool b =>
      cases written
      exact (quote.append (isAscii_writeBool b)).append quote
  | null =>
      cases written
      decide
  | _ => cases written

/-! ## Collections -/

theorem isAscii_newLine (depth : Nat) : IsAscii (newLine depth) := by
  have blanks : IsAscii (String.ofList (List.replicate (2 * depth) ' ')) :=
    .ofList fun c => isAsciiChar_of_mem_replicate (by decide)
  exact IsAscii.append (by decide) blanks

theorem isAscii_bracket {opening closing : String} (hopening : IsAscii opening)
    (hclosing : IsAscii closing) (depth : Nat) {parts : List String}
    (hparts : ∀ part ∈ parts, IsAscii part) :
    IsAscii (bracket opening closing depth parts) := by
  have comma : IsAscii "," := by decide
  have between := (comma.append (isAscii_newLine (depth + 1))).intercalate hparts
  rw [bracket]
  split
  · exact hopening.append hclosing
  · exact (((hopening.append (isAscii_newLine _)).append between).append
      (isAscii_newLine _)).append hclosing

mutual

/-- **A text in JSON is printable ASCII**, whatever it says. -/
theorem isAscii_writeAt {depth : Nat} {s : String} :
    ∀ {value : Value}, writeAt depth value = .ok s → IsAscii s
  | .null, written => by
      cases written
      decide
  | .bool b, written => by
      cases written
      exact isAscii_writeBool b
  | .number n, written => isAscii_writeNumber written
  | .text t, written => by
      cases written
      exact isAscii_writeText t
  | .moment m, written => by cases written
  | .octets data, written => by cases written
  | .set items, written => by cases written
  | .list items, written => by
      obtain ⟨parts, inside, rfl⟩ := exists_of_map_eq_ok written
      exact isAscii_bracket (by decide) (by decide) depth (isAscii_writeItems inside)
  | .pair first second, written => by
      obtain ⟨a, writtenFirst, written⟩ := exists_of_bind_eq_ok written
      obtain ⟨b, writtenSecond, rfl⟩ := exists_of_map_eq_ok written
      refine isAscii_bracket (by decide) (by decide) depth ?_
      exact List.forall_mem_cons.mpr ⟨isAscii_writeAt writtenFirst,
        List.forall_mem_singleton.mpr (isAscii_writeAt writtenSecond)⟩
  | .map pairs, written => by
      obtain ⟨parts, inside, rfl⟩ := exists_of_map_eq_ok written
      exact isAscii_bracket (by decide) (by decide) depth (isAscii_writePairs inside)
  | .enclosing isMap, written => by cases written

theorem isAscii_writeItems {depth : Nat} {parts : List String} :
    ∀ {items : List Value}, writeItems depth items = .ok parts → ∀ part ∈ parts, IsAscii part
  | [], written => by
      cases written
      exact fun part mem => absurd mem List.not_mem_nil
  | item :: rest, written => by
      obtain ⟨part, first, written⟩ := exists_of_bind_eq_ok written
      obtain ⟨parts, inside, rfl⟩ := exists_of_map_eq_ok written
      exact List.forall_mem_cons.mpr ⟨isAscii_writeAt first, isAscii_writeItems inside⟩

theorem isAscii_writePairs {depth : Nat} {parts : List String} :
    ∀ {pairs : List (Value × Value)}, writePairs depth pairs = .ok parts →
      ∀ part ∈ parts, IsAscii part
  | [], written => by
      cases written
      exact fun part mem => absurd mem List.not_mem_nil
  | (key, value) :: rest, written => by
      obtain ⟨name, named, written⟩ := exists_of_bind_eq_ok written
      obtain ⟨part, first, written⟩ := exists_of_bind_eq_ok written
      obtain ⟨parts, inside, rfl⟩ := exists_of_map_eq_ok written
      have entry : IsAscii (name ++ ": " ++ part) :=
        ((isAscii_writeKey named).append (by decide)).append (isAscii_writeAt first)
      exact List.forall_mem_cons.mpr ⟨entry, isAscii_writePairs inside⟩

end

/-! ## Halves of characters -/

/-- **A half is written as the escape that it was.** -/
theorem writeChar_ofUnit {n : Nat} (half : Text.isHalf n = true) :
    writeChar (Text.ofUnit n) = writeUnit n := by
  have found : Text.half? (Text.ofUnit n) = some n := by rw [Text.half?_ofUnit, if_pos half]
  generalize Text.ofUnit n = c at found
  have beyond : 0x10D800 ≤ c.toNat := by
    rw [Text.half?] at found
    split at found
    · rename_i reserved
      exact (Text.isReserved_iff.mp reserved).1
    · cases found
  unfold writeChar
  -- none of the characters with an escape of their own is that far up
  split <;> try exact absurd beyond (by decide)
  have unprintable : ¬ (' ' ≤ c && c ≤ '~') = true := by
    simp only [Bool.and_eq_true, decide_eq_true_eq]
    exact fun printable => absurd (Nat.le_trans beyond printable.2) (by decide)
  rw [if_neg unprintable, if_neg (by omega), found]

end SketchScreen.Json
