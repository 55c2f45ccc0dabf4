/-!
# Halves of Characters

Escapes name units of 16 bits, and a character beyond the first 65536 takes a pair of them.  A
half that stands alone is no character, but a text may hold it.  It is kept as a character of
the last private plane, so that it can be written again as the escape that it was.

## Main Definitions

- `isHighHalf`, `isLowHalf`, `isHalf`: the halves among the units.
- `ofScalar`, `ofUnit`: the character with a number, and the one that stands for a unit.
- `half?`: the half that a character stands for.
- `joinHalves`, `joinPairs`: the character of a pair, and a text in which halves
  that meet are joined.
- `LooseHalf`, `looseHalf?`: the halves at which a text cannot be encoded.
- `escapeHalves`: a text with escapes in place of its halves.

## Design Notes

The characters U+10D800 to U+10DFFF are set aside for the halves.  What reads a file never
takes them from it: a character of that block is read as the one as far into the block before
it, which is private as well.  So a text holds a character of the block only for a half
(`half?_ofScalar`, `half?_ofUnit`), and those 2048 private characters are the only ones that
are not told from others.
-/

namespace SketchScreen.Text

/-- Whether a unit is the first half of a pair. -/
def isHighHalf (n : Nat) : Bool := 0xD800 ≤ n && n < 0xDC00

/-- Whether a unit is the second half of a pair. -/
def isLowHalf (n : Nat) : Bool := 0xDC00 ≤ n && n < 0xE000

/-- Whether a unit is a half. -/
def isHalf (n : Nat) : Bool := isHighHalf n || isLowHalf n

/-- The distance of a half from the character that stands for it. -/
def halfShift : Nat := 0x100000

/-- Whether a character is set aside for a half, by its number. -/
def isReserved (n : Nat) : Bool := 0x10D800 ≤ n && n < 0x10E000

/-- The number of the characters that are set aside. -/
def reservedCount : Nat := 0x800

/-- The half that a character stands for. -/
def half? (c : Char) : Option Nat :=
  if isReserved c.toNat then some (c.toNat - halfShift) else none

/-- The character with a number; those that are set aside for halves are not taken. -/
def ofScalar (n : Nat) : Char :=
  if isReserved n then Char.ofNat (n - reservedCount) else Char.ofNat n

/-- The character that stands for a unit. -/
def ofUnit (n : Nat) : Char :=
  if isHalf n then Char.ofNat (n + halfShift) else ofScalar n

theorem isHalf_iff {n : Nat} : isHalf n = true ↔ 0xD800 ≤ n ∧ n < 0xE000 := by
  simp only [isHalf, isHighHalf, isLowHalf, Bool.or_eq_true, Bool.and_eq_true,
    decide_eq_true_eq]
  omega

theorem isReserved_iff {n : Nat} : isReserved n = true ↔ 0x10D800 ≤ n ∧ n < 0x10E000 := by
  simp only [isReserved, Bool.and_eq_true, decide_eq_true_eq]

theorem toNat_ofNat (n : Nat) : (Char.ofNat n).toNat = if n.isValidChar then n else 0 := by
  by_cases valid : n.isValidChar
  · rw [if_pos valid, Char.ofNat, dif_pos valid]
    rfl
  · rw [if_neg valid, Char.ofNat, dif_neg valid]
    rfl

theorem half?_ofNat {n : Nat} (outside : ¬ isReserved n = true) :
    half? (Char.ofNat n) = none := by
  rw [half?, toNat_ofNat]
  by_cases valid : n.isValidChar
  · rw [if_pos valid, if_neg outside]
  · rw [if_neg valid]
    rfl

/-- **A character is never taken for a half.** -/
theorem half?_ofScalar (n : Nat) : half? (ofScalar n) = none := by
  rw [ofScalar]
  split
  · -- the block before the one that is set aside
    rename_i reserved
    refine half?_ofNat ?_
    rw [isReserved_iff] at reserved ⊢
    simp only [reservedCount]
    omega
  · rename_i outside
    exact half?_ofNat outside

/-- **A half is kept**, and no other unit is taken for one. -/
theorem half?_ofUnit (n : Nat) : half? (ofUnit n) = if isHalf n then some n else none := by
  rw [ofUnit]
  split
  · rename_i half
    rw [isHalf_iff] at half
    have valid : (n + halfShift).isValidChar := by
      simp only [halfShift, Nat.isValidChar]
      omega
    have reserved : isReserved (n + halfShift) = true := by
      rw [isReserved_iff, halfShift]
      omega
    rw [half?, toNat_ofNat, if_pos valid, if_pos reserved, Nat.add_sub_cancel]
  · exact half?_ofScalar n

/-- The character of a pair. -/
def joinHalves (high low : Nat) : Char :=
  ofScalar (0x10000 + (high - 0xD800) * 0x400 + (low - 0xDC00))

/-- The character of two characters that stand for the halves of a pair. -/
def pair? (a b : Char) : Option Char :=
  match half? a, half? b with
  | some high, some low =>
    if isHighHalf high && isLowHalf low then some (joinHalves high low) else none
  | _, _ => none

/-- A text in which halves that meet are joined. -/
def joinPairs : List Char → List Char
  | a :: b :: rest =>
    match pair? a b with
    | some c => c :: joinPairs rest
    | none => a :: joinPairs (b :: rest)
  | cs => cs

/-! ## Encoding -/

/-- Halves in a row, at which a text cannot be encoded. -/
structure LooseHalf where
  /-- The first half. -/
  half : Nat
  position : Nat
  length : Nat
deriving DecidableEq, Repr

/-- The first halves of a text, of which `position` characters have been read. -/
def looseHalfFrom? (position : Nat) : List Char → Option LooseHalf
  | [] => none
  | c :: rest =>
    match half? c with
    | none => looseHalfFrom? (position + 1) rest
    | some half =>
      some ⟨half, position, (rest.takeWhile fun c => (half? c).isSome).length + 1⟩

/-- The first halves of a text. -/
def looseHalf? (s : String) : Option LooseHalf := looseHalfFrom? 0 s.toList

/-- The digits of a half. -/
def halfDigits (n : Nat) : List Char := Nat.toDigits 16 n

/-- What is said of halves at which a text cannot be encoded. -/
def LooseHalf.message (loose : LooseHalf) : String :=
  if loose.length = 1 then
    s!"'utf-8' codec can't encode character '\\u{String.ofList (halfDigits loose.half)}' in "
      ++ s!"position {loose.position}: surrogates not allowed"
  else
    s!"'utf-8' codec can't encode characters in position {loose.position}-"
      ++ s!"{loose.position + loose.length - 1}: surrogates not allowed"

/-- A text with escapes in place of its halves. -/
def escapeHalves (s : String) : String :=
  String.ofList (s.toList.flatMap fun c =>
    match half? c with
    | some half => '\\' :: 'u' :: halfDigits half
    | none => [c])

theorem looseHalfFrom?_eq_none_iff {position : Nat} {cs : List Char} :
    looseHalfFrom? position cs = none ↔ ∀ c ∈ cs, half? c = none := by
  induction cs generalizing position with
  | nil => simp [looseHalfFrom?]
  | cons c cs ih =>
      rw [looseHalfFrom?, List.forall_mem_cons]
      cases found : half? c with
      | none =>
          simp only [true_and]
          exact ih
      | some half => simp only [reduceCtorEq, false_and]

/-- **A text can be encoded exactly if it holds no half.** -/
theorem looseHalf?_eq_none_iff {s : String} :
    looseHalf? s = none ↔ ∀ c ∈ s.toList, half? c = none :=
  looseHalfFrom?_eq_none_iff

end SketchScreen.Text
