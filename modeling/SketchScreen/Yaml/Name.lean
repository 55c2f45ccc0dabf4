import SketchScreen.Number.Decimal
import SketchScreen.Text.Utf8
import SketchScreen.Yaml.Cursor

/-!
# Names in YAML Texts

Nodes may have a name by which they are referred to, and a tag that says what they are.
Directives before a document give its version and abbreviations of tags.

## Main Definitions

- `Yaml.TagName`: a tag as it is written.
- `Yaml.Directive`: what a directive says.
- `Yaml.readAnchor`, `Yaml.readTag`, `Yaml.readDirective`: the name, the tag or
  the directive at a place.
-/

namespace SketchScreen.Yaml

/-- A tag as it is written: an abbreviation, unless the tag is written in full,
and what follows it. -/
structure TagName where
  handle : Option String
  suffix : String
deriving DecidableEq, Repr

/-- What a directive says. -/
inductive Directive where
  /-- The version of the notation, of which the first number counts. -/
  | version (major : Nat)
  /-- What an abbreviation of tags stands for. -/
  | handle (handle target : String)
  /-- Something that does not matter. -/
  | other
deriving DecidableEq, Repr

/-! ## Characters -/

/-- A character of a name. -/
def isNameChar (c : Char) : Bool := c.isAlphanum || c == '-' || c == '_'

/-- A character of a tag. -/
def isTagChar (c : Char) : Bool :=
  c.isAlphanum || [';', '/', '?', ':', '@', '&', '=', '+', '$', ',', '_', '.', '!', '~', '*',
    '\'', '(', ')', '[', ']', '-'].contains c

/-- Whether a tag or a part of a directive may end before a character: a blank, the end of
a line or of the text. -/
def endsTag (c : Option Char) : Bool := endsWord c && c != some '\t'

/-! ## Anchors -/

/-- The name of which the mark is at a place. -/
def readAnchor (c : Cursor) : Except YamlFault (String × Cursor) :=
  let name := c.next.rest.takeWhile isNameChar
  let stop := c.next.forward name.length
  if name.isEmpty then stop.fail .anchorName
  else if endsWord stop.peek || stop.sees ['?', ':', ',', ']', '\x7d', '%', '@',
    '\x60'].contains then
    .ok (String.ofList name, stop)
  else stop.fail .anchorName

/-! ## Tags -/

/-- The octets of the escapes at a place. -/
def tagOctets : Nat → Cursor → Except YamlFault (List UInt8 × Cursor)
  | 0, c => .ok ([], c)
  | fuel + 1, c =>
    match c.rest with
    | '%' :: a :: b :: _ => do
      if Text.isHexDigit a && Text.isHexDigit b then
        let (more, stop) ← tagOctets fuel (c.forward 3)
        return (UInt8.ofNat (Text.ofDigits 16 [Text.hexValue a, Text.hexValue b]) :: more,
          stop)
      else c.fail .tagName
    | '%' :: _ => c.fail .tagName
    | _ => .ok ([], c)

/-- The characters of a tag from a place on. -/
def tagText : Nat → Cursor → Except YamlFault (List Char × Cursor)
  | 0, c => .ok ([], c)
  | fuel + 1, c => do
    if c.sees (· == '%') then
      let (octets, next) ← tagOctets fuel c
      match Text.decodeUtf8 octets with
      | .ok cs =>
        let (more, stop) ← tagText fuel next
        return (cs ++ more, stop)
      | .error _ => c.fail .tagName
    else
      match c.peek with
      | some ch =>
        if isTagChar ch then
          let (more, stop) ← tagText fuel c.next
          return (ch :: more, stop)
        else return ([], c)
      | none => return ([], c)

/-- The characters of a tag at a place; there has to be one. -/
def readTagText (c : Cursor) : Except YamlFault (String × Cursor) := do
  let (cs, stop) ← tagText (c.rest.length + 1) c
  if stop.index = c.index then c.fail .tagName else return (String.ofList cs, stop)

/-- The abbreviation of tags at a place: a mark, or a name between two marks. -/
def readHandle (c : Cursor) : Except YamlFault (String × Cursor) :=
  if !c.sees (· == '!') then c.fail .tagName
  else if c.peekNext == some ' ' then .ok ("!", c.next)
  else
    let name := c.next.rest.takeWhile isNameChar
    let stop := c.next.forward name.length
    if stop.sees (· == '!') then .ok (String.ofList ('!' :: (name ++ ['!'])), stop.next)
    else stop.fail .tagName

/-- A tag that is not written in full. -/
def readShortTag (c : Cursor) : Except YamlFault (TagName × Cursor) := do
  let word := c.next.rest.takeWhile fun ch => !endsTag (some ch)
  let (handle, c) ← if word.contains '!' then readHandle c else .ok ("!", c.next)
  let (suffix, c) ← readTagText c
  return (⟨some handle, suffix⟩, c)

/-- A tag that is written in full, between angle brackets. -/
def readFullTag (c : Cursor) : Except YamlFault (TagName × Cursor) := do
  let (suffix, c) ← readTagText (c.forward 2)
  if c.sees (· == '>') then return (⟨none, suffix⟩, c.next) else c.fail .tagName

/-- The tag of which the mark is at a place.  The mark alone is a tag, too. -/
def readTag (c : Cursor) : Except YamlFault (TagName × Cursor) := do
  let (name, stop) ←
    if c.peekNext == some '<' then readFullTag c
    else if endsWord c.peekNext then .ok (⟨none, "!"⟩, c.next)
    else readShortTag c
  if endsTag stop.peek then return (name, stop) else stop.fail .tagName

/-! ## Directives -/

/-- The number at a place. -/
def directiveNumber (c : Cursor) : Except YamlFault (Nat × Cursor) := do
  let digits := c.rest.takeWhile Char.isDigit
  if digits.isEmpty then c.fail .directive
  else
    let n ← (Number.readDigits digits).mapError .number
    return (n, c.forward digits.length)

/-- A version such as `1.1`. -/
def readVersion (c : Cursor) : Except YamlFault (Directive × Cursor) := do
  let (major, c) ← directiveNumber c.skipSpaces
  if c.sees (· == '.') then
    let (_, c) ← directiveNumber c.next
    if endsTag c.peek then return (.version major, c) else c.fail .directive
  else c.fail .directive

/-- An abbreviation of tags and what it stands for. -/
def readHandleDirective (c : Cursor) : Except YamlFault (Directive × Cursor) := do
  let (handle, c) ← readHandle c.skipSpaces
  if c.sees (· == ' ') then
    let (target, c) ← readTagText c.skipSpaces
    if endsTag c.peek then return (.handle handle target, c) else c.fail .directive
  else c.fail .directive

/-- What follows the name of a directive. -/
def readDirectiveBody (name : List Char) (c : Cursor) :
    Except YamlFault (Directive × Cursor) :=
  match String.ofList name with
  | "YAML" => readVersion c
  | "TAG" => readHandleDirective c
  | _ => .ok (.other, c.skipWhile fun ch => !isBreak ch)

/-- The directive of which the mark is at a place; nothing but a comment may follow it. -/
def readDirective (c : Cursor) : Except YamlFault (Directive × Cursor) := do
  let name := c.next.rest.takeWhile isNameChar
  let c := c.next.forward name.length
  if name.isEmpty || !endsTag c.peek then c.fail .directive
  else
    let (directive, c) ← readDirectiveBody name c
    let c := c.skipSpaces.skipComment
    match c.takeBreak? with
    | some (_, stop) => return (directive, stop)
    | none => if c.rest.isEmpty then return (directive, c) else c.fail .directive

end SketchScreen.Yaml
