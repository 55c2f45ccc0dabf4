import SketchScreen.Text.Cut
import SketchScreen.Yaml.Cursor

/-!
# Tags of YAML Nodes

What a node is.  A plain scalar without a tag is a truth value, a number, a date or null if it
is written like one, and a text otherwise.

## Main Definitions

- `Yaml.Tag`: the kinds of nodes.
- `Yaml.Tag.ofName`: the kind with a full name.
- `Yaml.Tag.ofPlain`: the kind of a plain scalar.

## Design Notes

Numbers may be written to the base 60, with colons between the digits.  Underscores
in numbers do not count.
-/

namespace SketchScreen.Yaml

/-- The kinds of nodes. -/
inductive Tag where
  | null
  | bool
  | int
  | float
  | octets
  | moment
  | text
  | list
  | map
  | set
  /-- A list of pairs, under either of two names. -/
  | pairs
  /-- A key whose value is merged into the map around it. -/
  | merge
  /-- A key whose value stands for the map around it. -/
  | value
  /-- A kind that nothing is known of. -/
  | unknown
deriving DecidableEq, Repr

/-! ## Numbers -/

namespace Plain

/-- Whether a character is one of the ten digits. -/
def isDigit (c : Char) : Bool := '0' ≤ c && c ≤ '9'

/-- Whether a character is a digit or an underscore. -/
def isSpaced (c : Char) : Bool := isDigit c || c == '_'

/-- The text after a sign, if there is one. -/
def dropSign : List Char → List Char
  | '-' :: rest => rest
  | '+' :: rest => rest
  | cs => cs

/-- Whether a text is a digit to the base 60: one digit, or two with the first below six. -/
def isSixtieth : List Char → Bool
  | [a] => isDigit a
  | [a, b] => '0' ≤ a && a ≤ '5' && isDigit b
  | _ => false

/-- Whether a text starts with a digit, and holds digits and underscores only. -/
def isWhole (cs : List Char) : Bool := cs.head?.any isDigit && cs.all isSpaced

/-- Whether a text is written like an integer without a sign. -/
def isUnsignedInt : List Char → Bool
  | '0' :: 'b' :: digits => !digits.isEmpty && digits.all ['0', '1', '_'].contains
  | '0' :: 'x' :: digits =>
    !digits.isEmpty && digits.all fun c =>
      c.isDigit || ('a' ≤ c.toLower && c.toLower ≤ 'f') || c == '_'
  | '0' :: digits => digits.all fun c => ('0' ≤ c && c ≤ '7') || c == '_'
  | cs =>
    match Text.cutAt ':' cs with
    | [] => false
    | whole :: parts => isWhole whole && parts.all isSixtieth

/-- Whether a text is written like an integer. -/
def isInt (cs : List Char) : Bool := isUnsignedInt (dropSign cs)

/-- Whether a text is an exponent, which has a sign, or empty. -/
def isExponent : List Char → Bool
  | [] => true
  | mark :: sign :: digits =>
    (mark == 'e' || mark == 'E') && (sign == '+' || sign == '-') && !digits.isEmpty
      && digits.all isDigit
  | _ => false

/-- Whether a text is a decimal float with digits before the point, or after it if it has no
sign. -/
def isDecimal (signed : Bool) (cs : List Char) : Bool :=
  let whole := cs.takeWhile isSpaced
  match cs.dropWhile isSpaced with
  | '.' :: rest =>
    let fraction := rest.takeWhile isSpaced
    isExponent (rest.dropWhile isSpaced)
      && (whole.head?.any isDigit || (whole.isEmpty && !signed && fraction.head?.any isDigit))
  | _ => false

/-- Whether a text is a float to the base 60. -/
def isSixtyFloat (cs : List Char) : Bool :=
  match (Text.cutAt ':' cs).reverse with
  | last :: middle :: parts =>
    let seconds := last.takeWhile (· != '.')
    let fraction := last.dropWhile (· != '.')
    let whole := (middle :: parts).getLast?.getD []
    let inner := (middle :: parts).dropLast
    isSixtieth seconds && fraction.head? == some '.' && (fraction.drop 1).all isSpaced
      && isWhole whole && inner.all isSixtieth
  | _ => false

/-- Whether a text is written like a float. -/
def isFloat (cs : List Char) : Bool :=
  let body := dropSign cs
  isDecimal (body.length < cs.length) body
    || [".inf", ".Inf", ".INF"].contains (String.ofList body)
    || [".nan", ".NaN", ".NAN"].contains (String.ofList cs)
    || isSixtyFloat body

/-! ## Dates -/

/-- The value of a row of digits. -/
def numberOf (digits : List Char) : Nat :=
  digits.foldl (fun n c => 10 * n + (c.toNat - '0'.toNat)) 0

/-- A number of at least `least` and at most `most` digits at the start of a text. -/
def takeNumber? (least most : Nat) (cs : List Char) : Option (Nat × List Char) :=
  let digits := (cs.take most).takeWhile isDigit
  if digits.length < least then none else some (numberOf digits, cs.drop digits.length)

/-- What follows a character at the start of a text. -/
def takeChar? (c : Char) : List Char → Option (List Char)
  | d :: rest => if d == c then some rest else none
  | [] => none

/-- The offset from universal time that a text writes; nothing if it writes none. -/
def readOffset? : List Char → Option Int
  | ['Z'] => some 0
  | sign :: rest => do
    if sign == '+' || sign == '-' then
      let (hours, rest) ← takeNumber? 1 2 rest
      let minutes ← match rest with
        | [] => some 0
        | ':' :: rest => do
          let (minutes, rest) ← takeNumber? 2 2 rest
          if rest.isEmpty then some minutes else none
        | _ => none
      let total : Int := hours * 60 + minutes
      return if sign == '-' then -total else total
    else none
  | [] => none

/-- The microseconds of a fraction of a second. -/
def microseconds (digits : List Char) : Nat :=
  let six := digits.take 6
  numberOf (six ++ List.replicate (6 - six.length) '0')

/-- The time that a text writes. -/
def readTime? (cs : List Char) : Option TimeOfDay := do
  let (hour, rest) ← takeNumber? 1 2 cs
  let (minute, rest) ← takeNumber? 2 2 (← takeChar? ':' rest)
  let (second, rest) ← takeNumber? 2 2 (← takeChar? ':' rest)
  let (micro, rest) := match rest with
    | '.' :: rest => (microseconds (rest.takeWhile isDigit), rest.dropWhile isDigit)
    | rest => (0, rest)
  if rest.isEmpty then return ⟨hour, minute, second, micro, none⟩
  else
    let offset ← readOffset? (rest.dropWhile isGap)
    return ⟨hour, minute, second, micro, some offset⟩

/-- The date that a text writes, perhaps with a time; nothing if it is not written like one.
The date need not be in the calendar. -/
def readMoment? (cs : List Char) : Option Moment := do
  let (year, rest) ← takeNumber? 4 4 cs
  let (month, afterMonth) ← takeNumber? 1 2 (← takeChar? '-' rest)
  let (day, rest) ← takeNumber? 1 2 (← takeChar? '-' afterMonth)
  let time ← match rest with
    | [] => some none
    | mark :: later =>
      if mark == 'T' || mark == 't' then (readTime? later).map some
      else if isGap mark then (readTime? (later.dropWhile isGap)).map some
      else none
  return ⟨year, month, day, time⟩

/-- Whether a text is written like a date; without a time its numbers have all
their digits. -/
def isMoment (cs : List Char) : Bool :=
  match readMoment? cs with
  | some m => m.time.isSome || cs.length == 10
  | none => false

end Plain

/-! ## Kinds -/

/-- The words for the two truth values. -/
def truthWords : List (String × Bool) := [
  ("yes", true), ("no", false), ("true", true), ("false", false), ("on", true),
  ("off", false)]

/-- The three ways in which a word may be written. -/
def casesOf (word : String) : List String :=
  let cs := word.toList
  [word, String.ofList (cs.take 1 |>.map Char.toUpper) ++ String.ofList (cs.drop 1),
    String.ofList (cs.map Char.toUpper)]

/-- The words for null. -/
def nullWords : List String := ["~", "null", "Null", "NULL", ""]

namespace Tag

/-- The kind of a plain scalar whose last character is no end of a line. -/
def ofLine (cs : List Char) : Tag :=
  let word := String.ofList cs
  if truthWords.any fun (truth, _) => (casesOf truth).contains word then bool
  else if Plain.isFloat cs then float
  else if Plain.isInt cs then int
  else if word == "<<" then merge
  else if nullWords.contains word then null
  else if Plain.isMoment cs then moment
  else if word == "=" then value
  else text

/-- The kind of a plain scalar.  The end of a line after it does not count,
unless it is all there is. -/
def ofPlain (s : String) : Tag :=
  let cs := s.toList
  if cs == ['\n'] then text else ofLine (Text.dropFinalNewline cs)

/-- What the names of the known kinds start with. -/
def domain : String := "tag:yaml.org,2002:"

/-- The names of the known kinds, after what they start with. -/
def names : List (String × Tag) := [
  ("null", null), ("bool", bool), ("int", int), ("float", float), ("binary", octets),
  ("timestamp", moment), ("str", text), ("seq", list), ("map", map), ("set", set),
  ("omap", pairs), ("pairs", pairs), ("merge", merge), ("value", value)]

/-- The kind with a full name. -/
def ofName (name : String) : Tag :=
  ((names.find? fun (short, _) => domain ++ short == name).map Prod.snd).getD unknown

end Tag

end SketchScreen.Yaml
