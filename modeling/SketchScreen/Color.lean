import SketchScreen.Number.Quotient

/-!
# Colours

The screen takes colours of 16 bits: five for red, six for green and five for blue.  Surfaces
are drawn on with eight bits per channel, each field scaled to the full range.

## Main Definitions

- `Color`: a colour with one integer per channel.
- `Color.ofRgb565`, `Color.toRgb565`: expansion of a 16-bit colour and packing.
- `Color.constants`: the named colours.
- `Color.ofNumber`: the colour that a number stands for.

## Design Notes

Channels are integers without a range, because a colour may be written down that no screen
shows; every colour that a sketch can name has its channels between 0 and 255.
-/

namespace SketchScreen

/-- A colour with its three channels. -/
structure Color where
  r : Int
  g : Int
  b : Int
deriving DecidableEq, Repr

namespace Color

/-- White, the colour of what is not recognised. -/
def white : Color := ⟨255, 255, 255⟩

/-- Black, the colour of a cleared screen. -/
def black : Color := ⟨0, 0, 0⟩

/-- A field of at most `top`, scaled to the range up to 255. -/
def expandField (top field : Nat) : Int :=
  Number.roundDiv (field * 255) top

/-- The colour of the low 16 bits of an integer. -/
def ofRgb565 (value : Int) : Color :=
  let low := (value % 0x10000).toNat
  ⟨expandField 31 (low / 0x800 % 0x20), expandField 63 (low / 0x20 % 0x40),
    expandField 31 (low % 0x20)⟩

/-- The bitwise disjunction of integers in two's complement of unbounded width. -/
def orBits : Int → Int → Int
  | .ofNat m, .ofNat n => .ofNat (m ||| n)
  | .negSucc m, .negSucc n => .negSucc (m &&& n)
  | .ofNat m, .negSucc n => .negSucc (n ^^^ (n &&& m))
  | .negSucc m, .ofNat n => .negSucc (m ^^^ (m &&& n))

/-- The 16-bit colour nearest to a colour. -/
def toRgb565 (c : Color) : Except NumberFault Int := do
  let r ← Number.roundQuotient (c.r * 31) 255
  let g ← Number.roundQuotient (c.g * 63) 255
  let b ← Number.roundQuotient (c.b * 31) 255
  return orBits (orBits (r * 0x800) (g * 0x20)) b

/-- An upper-case hexadecimal number of at least two characters. -/
def hexChannel (n : Int) : List Char :=
  let digits := (Nat.toDigits 16 n.natAbs).map Char.toUpper
  let body := if n < 0 then '-' :: digits else digits
  List.replicate (2 - body.length) '0' ++ body

/-- The six digits of a colour, such as `FF8000`. -/
def hexDigits (c : Color) : String :=
  String.ofList (hexChannel c.r ++ hexChannel c.g ++ hexChannel c.b)

/-- A colour in hexadecimal notation, such as `#FF8000`. -/
def hex (c : Color) : String := "#" ++ c.hexDigits

/-- A colour as its three channels, such as `rgb(255, 128, 0)`. -/
def text (c : Color) : String := s!"rgb({c.r}, {c.g}, {c.b})"

/-- What the names of all colours start with. -/
def nameStart : String := "TFT_"

/-- The named colours with their 16-bit values. -/
def constants : List (String × Nat) := [
  ("TFT_BLACK", 0x0000), ("TFT_NAVY", 0x000F), ("TFT_DARKGREEN", 0x03E0),
  ("TFT_DARKCYAN", 0x03EF), ("TFT_MAROON", 0x7800), ("TFT_PURPLE", 0x780F),
  ("TFT_OLIVE", 0x7BE0), ("TFT_LIGHTGRAY", 0xC618), ("TFT_LIGHTGREY", 0xC618),
  ("TFT_DARKGRAY", 0x7BEF), ("TFT_DARKGREY", 0x7BEF), ("TFT_BLUE", 0x001F),
  ("TFT_GREEN", 0x07E0), ("TFT_CYAN", 0x07FF), ("TFT_RED", 0xF800),
  ("TFT_MAGENTA", 0xF81F), ("TFT_YELLOW", 0xFFE0), ("TFT_WHITE", 0xFFFF),
  ("TFT_ORANGE", 0xFD20), ("TFT_GREENYELLOW", 0xAFE5), ("TFT_PINK", 0xF81F),
  ("TFT_BROWN", 0x9A60), ("TFT_GOLD", 0xFEA0), ("TFT_SILVER", 0xC618),
  ("TFT_SKYBLUE", 0x867D), ("TFT_VIOLET", 0x915C), ("TFT_GRAY", 0x8410),
  ("TFT_GREY", 0x8410)]

/-- The 16-bit value of a named colour. -/
def constant? (name : String) : Option Nat := constants.lookup name

/-- Whether a text has the form of a colour name. -/
def isName (text : String) : Bool := nameStart.toList.isPrefixOf text.toList

/-- The colour that a number stands for: the low 16 bits of its integer part,
black if it has none. -/
def ofNumber (n : Number) : Color :=
  match n.truncate with
  | .ok value => ofRgb565 value
  | .error _ => ofRgb565 0

end Color

end SketchScreen
