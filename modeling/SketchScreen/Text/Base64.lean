/-!
# Octets as Text

Octets are stored in texts with 64 different characters, four for every three octets.

## Main Definitions

- `decode64?`: the octets of a text; characters that are none of the 64 do not count.
- `encode64`: the text of octets.
-/

namespace SketchScreen.Text

/-- The 64 characters. -/
def letters64 : List Char :=
  "ABCDEFGHIJKLMNOPQRSTUVWXYZabcdefghijklmnopqrstuvwxyz0123456789+/".toList

/-- The value of a character, if it is one of the 64. -/
def value64? (c : Char) : Option Nat := letters64.findIdx? (· == c)

/-- The octets from a place on, where `held` values of a group have been read, whose bits that
belong to no octet yet are `bits`, and `pads` marks of the end have just come.  Nothing if the
last group is not complete. -/
def decode64From (held bits pads : Nat) : List Char → Option (List UInt8)
  | [] => if held = 0 then some [] else none
  | c :: rest =>
    if c == '=' then
      if 2 ≤ held then
        if 4 ≤ held + pads + 1 then some [] else decode64From held bits (pads + 1) rest
      else decode64From held bits pads rest
    else
      match value64? c with
      | none => decode64From held bits pads rest
      | some v =>
        match held with
        | 0 => decode64From 1 v 0 rest
        | 1 => (decode64From 2 (v % 16) 0 rest).map (UInt8.ofNat (bits * 4 + v / 16) :: ·)
        | 2 => (decode64From 3 (v % 4) 0 rest).map (UInt8.ofNat (bits * 16 + v / 4) :: ·)
        | _ => (decode64From 0 0 0 rest).map (UInt8.ofNat (bits * 64 + v) :: ·)

/-- The octets of a text. -/
def decode64? (cs : List Char) : Option (List UInt8) := decode64From 0 0 0 cs

/-- The character of a value. -/
def letter64 (n : Nat) : Char := letters64.getD (n % 64) '='

/-- The text of octets. -/
def encode64 : List UInt8 → List Char
  | a :: b :: c :: rest =>
    let n := (a.toNat * 256 + b.toNat) * 256 + c.toNat
    letter64 (n / 262144) :: letter64 (n / 4096) :: letter64 (n / 64) :: letter64 n
      :: encode64 rest
  | [a, b] =>
    let n := (a.toNat * 256 + b.toNat) * 4
    [letter64 (n / 4096), letter64 (n / 64), letter64 n, '=']
  | [a] =>
    let n := a.toNat * 16
    [letter64 (n / 64), letter64 n, '=', '=']
  | [] => []

end SketchScreen.Text
