import SketchScreen.Text.Half

/-!
# Reading UTF-8

A file is a row of octets.  Its text is read octet by octet; the first sequence that is not a
character is reported with its place.

## Main Definitions

- `Utf8Fault`: what is wrong with a row of octets, and where.
- `decodeUtf8`: the text of a row of octets.
- `unifyLines`: a text with one mark for the end of a line.
-/

namespace SketchScreen.Text

/-- The ways in which octets fail to be text. -/
inductive Utf8Problem where
  /-- An octet that no character starts with. -/
  | start
  /-- An octet that cannot follow those before it. -/
  | continuation
  /-- The octets end within a character. -/
  | truncated
deriving DecidableEq, Repr

/-- The wording of a problem. -/
def Utf8Problem.text : Utf8Problem → String
  | start => "invalid start byte"
  | continuation => "invalid continuation byte"
  | truncated => "unexpected end of data"

/-- Octets that are no text: the problem, its place, the octet there, and how many octets are
concerned. -/
structure Utf8Fault where
  problem : Utf8Problem
  position : Nat
  octet : Nat
  length : Nat
deriving DecidableEq, Repr

/-- The two digits of an octet in hexadecimal. -/
def octetText (n : Nat) : String :=
  let digits := Nat.toDigits 16 n
  String.ofList (List.replicate (2 - digits.length) '0' ++ digits)

/-- The wording of a fault. -/
def Utf8Fault.message (f : Utf8Fault) : String :=
  if f.length = 1 then
    s!"'utf-8' codec can't decode byte 0x{octetText f.octet} in position {f.position}: "
      ++ f.problem.text
  else
    s!"'utf-8' codec can't decode bytes in position {f.position}-"
      ++ s!"{f.position + f.length - 1}: " ++ f.problem.text

/-- What the first octet of a character settles: how many octets follow, the bits it carries,
and the range of the second octet. -/
structure Utf8Lead where
  following : Nat
  bits : Nat
  low : Nat
  high : Nat
deriving DecidableEq, Repr

/-- What an octet settles as the first of a character. -/
def utf8Lead? (b : Nat) : Option Utf8Lead :=
  if b < 0x80 then some ⟨0, b, 0x80, 0xBF⟩
  else if b < 0xC2 then none
  else if b < 0xE0 then some ⟨1, b - 0xC0, 0x80, 0xBF⟩
  else if b < 0xF0 then
    some ⟨2, b - 0xE0, if b = 0xE0 then 0xA0 else 0x80, if b = 0xED then 0x9F else 0xBF⟩
  else if b < 0xF5 then
    some ⟨3, b - 0xF0, if b = 0xF0 then 0x90 else 0x80, if b = 0xF4 then 0x8F else 0xBF⟩
  else none

/-- How far the reading of a character has come. -/
structure Utf8Pending where
  /-- The place and the value of the first octet. -/
  position : Nat
  octet : Nat
  /-- How many octets have been read, and how many are to come. -/
  length : Nat
  following : Nat
  /-- The bits so far. -/
  bits : Nat
  /-- The range of the next octet. -/
  low : Nat
  high : Nat
deriving DecidableEq, Repr

/-- The text of a row of octets, of which `position` have been read; `pending` is the
character that has begun. -/
def decodeFrom (position : Nat) (pending : Option Utf8Pending) :
    List UInt8 → Except Utf8Fault (List Char)
  | [] =>
    match pending with
    | none => .ok []
    | some p => .error ⟨.truncated, p.position, p.octet, p.length⟩
  | octet :: rest =>
    let b := octet.toNat
    match pending with
    | none =>
      match utf8Lead? b with
      | none => .error ⟨.start, position, b, 1⟩
      | some lead =>
        if lead.following = 0 then do
          return ofScalar b :: (← decodeFrom (position + 1) none rest)
        else
          decodeFrom (position + 1)
            (some ⟨position, b, 1, lead.following, lead.bits, lead.low, lead.high⟩) rest
    | some p =>
      if b < p.low ∨ p.high < b then .error ⟨.continuation, p.position, p.octet, p.length⟩
      else
        let bits := p.bits * 64 + (b - 0x80)
        if p.following = 1 then do
          return ofScalar bits :: (← decodeFrom (position + 1) none rest)
        else
          decodeFrom (position + 1)
            (some ⟨p.position, p.octet, p.length + 1, p.following - 1, bits, 0x80, 0xBF⟩) rest

/-- The text of a row of octets. -/
def decodeUtf8 (octets : List UInt8) : Except Utf8Fault (List Char) :=
  decodeFrom 0 none octets

/-- **A text in UTF-8 holds no half.** -/
theorem half?_of_decodeFrom {position : Nat} {pending : Option Utf8Pending}
    {octets : List UInt8} {cs : List Char} (h : decodeFrom position pending octets = .ok cs) :
    ∀ c ∈ cs, half? c = none := by
  induction octets generalizing position pending cs with
  | nil =>
      cases pending with
      | none =>
          cases h
          exact fun c mem => absurd mem List.not_mem_nil
      | some p => cases h
  | cons octet rest ih =>
      -- a character ends here, or it goes on
      have ends : ∀ n, (do return ofScalar n :: (← decodeFrom (position + 1) none rest))
          = .ok cs →
          ∀ c ∈ cs, half? c = none := by
        intro n h
        cases more : decodeFrom (position + 1) none rest with
        | error fault =>
            rw [more] at h
            cases h
        | ok cs' =>
            rw [more] at h
            cases h
            exact List.forall_mem_cons.mpr ⟨half?_ofScalar n, ih more⟩
      cases pending with
      | none =>
          rw [decodeFrom] at h
          split at h
          · cases h
          · split at h
            · exact ends _ h
            · exact ih h
      | some p =>
          rw [decodeFrom] at h
          simp only at h
          split at h
          · cases h
          · split at h
            · exact ends _ h
            · exact ih h

/-- A text with one mark for the end of a line: a carriage return ends a line, and takes the
newline after it with it. -/
def unifyLines : List Char → List Char
  | [] => []
  | '\r' :: '\n' :: rest => '\n' :: unifyLines rest
  | '\r' :: rest => '\n' :: unifyLines rest
  | c :: rest => c :: unifyLines rest

theorem mem_of_mem_unifyLines {c : Char} {cs : List Char} (mem : c ∈ unifyLines cs) :
    c ∈ cs ∨ c = '\n' := by
  fun_induction unifyLines cs with
  | case1 => exact Or.inl mem
  | case2 rest ih => grind
  | case3 rest _ ih => grind
  | case4 d rest _ _ ih => grind

end SketchScreen.Text
