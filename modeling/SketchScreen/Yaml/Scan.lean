import SketchScreen.Yaml.Name
import SketchScreen.Yaml.Scalar

/-!
# Items of YAML Texts

A text in YAML as a row of items: scalars, names, marks, and the starts and ends of the
collections that indentation stands for.

## Main Definitions

- `Yaml.Item`: a scalar, a name or a mark.
- `Yaml.Scanner`: how far a text has been read.
- `Yaml.Scanner.step`: reads the next item.
- `Yaml.scan`: the items of a text.

## Design Notes

Whether a scalar is a key shows only once a colon follows it.  The scanner therefore keeps the
places where a key may have started, one for each depth of brackets, and puts the mark of a
key there when the colon comes.  A key fits on one line and is not longer than `keyLimit`.

A text that leaves the notation still has the items before that place; the row then ends with
the fault.  An item that may still turn out to be a key is not yet one of them.
-/

namespace SketchScreen.Yaml

/-- A scalar, a name or a mark of a text. -/
inductive Item where
  | directive (directive : Directive)
  | documentStart
  | documentEnd
  /-- The start of a list or a map that indentation stands for, and the end of either. -/
  | blockListStart
  | blockMapStart
  | blockEnd
  /-- The brackets of lists and maps. -/
  | listOpen
  | listClose
  | mapOpen
  | mapClose
  /-- A dash, a comma, and the marks of keys and values. -/
  | dash
  | comma
  | key
  | value
  /-- The name of the next node, and a reference to a node by its name. -/
  | anchor (name : String)
  | alias (name : String)
  /-- The tag of the next node. -/
  | tag (name : TagName)
  | scalar (text : String) (plain : Bool)
  /-- The place where the text leaves the notation. -/
  | broken (fault : YamlFault)
deriving DecidableEq, Repr

/-- A place where a key may have started. -/
structure KeyStart where
  /-- The number of items before it. -/
  item : Nat
  /-- Whether anything but a key is an error there. -/
  required : Bool
  index : Nat
  line : Nat
  column : Nat
deriving DecidableEq, Repr

/-- The greatest length of a key. -/
def keyLimit : Nat := 1024

/-- How far a text has been read. -/
structure Scanner where
  cursor : Cursor
  items : Array Item
  /-- The indentation of the innermost block, and of those around it. -/
  indent : Int
  outer : List Int
  /-- How many brackets are open. -/
  depth : Nat
  /-- Whether a key may start here. -/
  allowsKey : Bool
  /-- The places where a key may have started, by the depth of brackets. -/
  keys : List (Nat × KeyStart)

namespace Scanner

/-- The scanner at the start of a text. -/
def start (cs : List Char) : Scanner :=
  let cursor := Cursor.start cs
  ⟨if cursor.sees (· == '\uFEFF') then cursor.next else cursor, #[], -1, [], 0, true, []⟩

/-- The scanner after an item. -/
def emit (s : Scanner) (item : Item) : Scanner := { s with items := s.items.push item }

/-- The scanner after an item that takes `length` characters. -/
def emitMark (s : Scanner) (item : Item) (length : Nat) : Scanner :=
  { s.emit item with cursor := s.cursor.forward length }

/-! ## Keys -/

/-- Whether it is too late for a key that started at a place. -/
def isStale (s : Scanner) (key : KeyStart) : Bool :=
  key.line != s.cursor.line || keyLimit < s.cursor.index - key.index

/-- Drops the places whose keys come too late. -/
def dropStaleKeys (s : Scanner) : Except YamlFault Scanner :=
  if s.keys.any fun (_, key) => s.isStale key && key.required then
    s.cursor.fail .keyWithoutColon
  else .ok { s with keys := s.keys.filter fun (_, key) => !s.isStale key }

/-- Drops the place of a key at the current depth. -/
def dropKey (s : Scanner) : Except YamlFault Scanner :=
  if s.keys.any fun (depth, key) => depth == s.depth && key.required then
    s.cursor.fail .keyWithoutColon
  else .ok { s with keys := s.keys.filter fun (depth, _) => depth != s.depth }

/-- Keeps the current place as the start of a key, if a key may start here. -/
def saveKey (s : Scanner) : Except YamlFault Scanner :=
  if s.allowsKey then do
    let required := s.depth == 0 && s.indent == (s.cursor.column : Int)
    let s ← s.dropKey
    let c := s.cursor
    let key : KeyStart := ⟨s.items.size, required, c.index, c.line, c.column⟩
    return { s with keys := (s.depth, key) :: s.keys }
  else .ok s

/-! ## Indentation -/

/-- Ends the blocks that are indented further than a column. -/
def unwindFrom (column indent : Int) (items : Array Item) : List Int →
    Array Item × Int × List Int
  | [] => (items, indent, [])
  | next :: outer =>
    if column < indent then unwindFrom column next (items.push .blockEnd) outer
    else (items, indent, next :: outer)

/-- Ends the blocks that are indented further than a column; inside brackets
indentation does not count. -/
def unwind (s : Scanner) (column : Int) : Scanner :=
  if s.depth != 0 then s
  else
    let (items, indent, outer) := unwindFrom column s.indent s.items s.outer
    { s with items := items, indent := indent, outer := outer }

/-- Puts items before the item with the given number. -/
def insertAt (s : Scanner) (i : Nat) (added : List Item) : Scanner :=
  { s with items := (s.items.toList.take i ++ added ++ s.items.toList.drop i).toArray }

/-- Starts a block at a column that is indented further than those around it: puts its start
before the item with the given number. -/
def openBlock (s : Scanner) (column i : Nat) (item : Item) : Scanner :=
  if s.indent < column then
    { s.insertAt i [item] with indent := column, outer := s.indent :: s.outer }
  else s

/-! ## Items -/

/-- The place of the next item: blanks, comments and ends of lines are passed. -/
def skipToItem (depth : Nat) (allowsKey : Bool) : Nat → Cursor → Cursor × Bool
  | 0, c => (c, allowsKey)
  | fuel + 1, c =>
    let c := c.skipSpaces.skipComment
    match c.takeBreak? with
    | none => (c, allowsKey)
    | some (_, c) => skipToItem depth (allowsKey || depth == 0) fuel c

/-- A mark that separates documents. -/
def documentMark (s : Scanner) (item : Item) : Except YamlFault Scanner := do
  let s ← (s.unwind (-1)).dropKey
  return { s with allowsKey := false }.emitMark item 3

/-- An opening bracket. -/
def openBracket (s : Scanner) (item : Item) : Except YamlFault Scanner := do
  let s ← s.saveKey
  return { s with depth := s.depth + 1, allowsKey := true }.emitMark item 1

/-- A closing bracket. -/
def closeBracket (s : Scanner) (item : Item) : Except YamlFault Scanner := do
  if s.depth = 0 then s.cursor.fail .closingPlace
  else
    let s ← s.dropKey
    return { s with depth := s.depth - 1, allowsKey := false }.emitMark item 1

/-- A comma between brackets. -/
def takeComma (s : Scanner) : Except YamlFault Scanner := do
  let s ← s.dropKey
  return { s with allowsKey := true }.emitMark .comma 1

/-- A dash in front of an item of a list. -/
def takeDash (s : Scanner) : Except YamlFault Scanner := do
  if s.depth == 0 && !s.allowsKey then s.cursor.fail .entryPlace
  else
    let s := if s.depth == 0 then s.openBlock s.cursor.column s.items.size .blockListStart
      else s
    let s ← s.dropKey
    return { s with allowsKey := true }.emitMark .dash 1

/-- A question mark in front of a key. -/
def takeQuestion (s : Scanner) : Except YamlFault Scanner := do
  if s.depth == 0 && !s.allowsKey then s.cursor.fail .keyPlace
  else
    let s := if s.depth == 0 then s.openBlock s.cursor.column s.items.size .blockMapStart
      else s
    let s ← s.dropKey
    return { s with allowsKey := s.depth == 0 }.emitMark .key 1

/-- A colon in front of a value.  If a key may have started, it was one. -/
def takeColon (s : Scanner) : Except YamlFault Scanner := do
  match s.keys.find? fun (depth, _) => depth == s.depth with
  | some (_, key) =>
    let s := { s with keys := s.keys.filter fun (depth, _) => depth != s.depth }
    let s := s.insertAt key.item [.key]
    let s := if s.depth == 0 then s.openBlock key.column key.item .blockMapStart else s
    return { s with allowsKey := false }.emitMark .value 1
  | none =>
    if s.depth == 0 && !s.allowsKey then s.cursor.fail .valuePlace
    else
      let s := if s.depth == 0 then s.openBlock s.cursor.column s.items.size .blockMapStart
        else s
      let s ← s.dropKey
      return { s with allowsKey := s.depth == 0 }.emitMark .value 1

/-- A directive. -/
def takeDirective (s : Scanner) : Except YamlFault Scanner := do
  let s ← (s.unwind (-1)).dropKey
  let (directive, stop) ← readDirective s.cursor
  return { s.emit (.directive directive) with cursor := stop, allowsKey := false }

/-- A name, or a reference to one. -/
def takeName (s : Scanner) (item : String → Item) : Except YamlFault Scanner := do
  let s ← s.saveKey
  let (name, stop) ← readAnchor s.cursor
  return { s.emit (item name) with cursor := stop, allowsKey := false }

/-- A tag. -/
def takeTag (s : Scanner) : Except YamlFault Scanner := do
  let s ← s.saveKey
  let (name, stop) ← readTag s.cursor
  return { s.emit (.tag name) with cursor := stop, allowsKey := false }

/-- A scalar that has been read. -/
def emitScalar (s : Scanner) (text : List Char) (plain allowsKey : Bool) (stop : Cursor) :
    Scanner :=
  { s.emit (.scalar (String.ofList text) plain) with cursor := stop, allowsKey := allowsKey }

/-- A block. -/
def takeBlock (s : Scanner) (folded : Bool) : Except YamlFault Scanner := do
  let s ← s.dropKey
  let (text, stop) ← readBlock folded s.indent s.cursor
  return s.emitScalar text false true stop

/-- A scalar between quotes. -/
def takeQuoted (s : Scanner) (double : Bool) : Except YamlFault Scanner := do
  let s ← s.saveKey
  let (text, stop) ← readQuoted double s.cursor
  return s.emitScalar text false false stop

/-- A plain scalar. -/
def takePlain (s : Scanner) : Except YamlFault Scanner := do
  let s ← s.saveKey
  let plain := readPlain (s.depth != 0) s.indent s.cursor
  return s.emitScalar plain.text true plain.allowsKey plain.stop

/-- The characters that no plain scalar starts with, a few exceptions apart. -/
def indicators : List Char :=
  ['-', '?', ':', ',', '[', ']', '\x7b', '\x7d', '#', '&', '*', '!', '|', '>', '\'', '"',
    '%', '@', '\x60']

/-- Whether a plain scalar starts with a character that is followed by another one. -/
def startsPlain (inBrackets : Bool) (ch : Char) (after : Option Char) : Bool :=
  !(isGap ch || isBreak ch || indicators.contains ch)
    || (!endsWord after && (ch == '-' || (!inBrackets && (ch == '?' || ch == ':'))))

/-- Reads the item that starts with a character. -/
def take (s : Scanner) (ch : Char) : Except YamlFault Scanner :=
  let c := s.cursor
  let inBrackets := s.depth != 0
  let alone := endsWord c.peekNext
  if ch == '%' && c.column == 0 then s.takeDirective
  else if c.column == 0 && c.atMark '-' then s.documentMark .documentStart
  else if c.column == 0 && c.atMark '.' then s.documentMark .documentEnd
  else if ch == '[' then s.openBracket .listOpen
  else if ch == '\x7b' then s.openBracket .mapOpen
  else if ch == ']' then s.closeBracket .listClose
  else if ch == '\x7d' then s.closeBracket .mapClose
  else if ch == ',' then s.takeComma
  else if ch == '-' && alone then s.takeDash
  else if ch == '?' && (inBrackets || alone) then s.takeQuestion
  else if ch == ':' && (inBrackets || alone) then s.takeColon
  else if ch == '*' then s.takeName .alias
  else if ch == '&' then s.takeName .anchor
  else if ch == '!' then s.takeTag
  else if ch == '|' && !inBrackets then s.takeBlock false
  else if ch == '>' && !inBrackets then s.takeBlock true
  else if ch == '\'' then s.takeQuoted false
  else if ch == '"' then s.takeQuoted true
  else if startsPlain inBrackets ch c.peekNext then s.takePlain
  else c.fail .noToken

/-- The scanner at the next item, with the blocks ended that do not reach it. -/
def advance (s : Scanner) : Except YamlFault Scanner := do
  let (cursor, allowsKey) :=
    skipToItem s.depth s.allowsKey (s.cursor.rest.length + 1) s.cursor
  let s ← { s with cursor := cursor, allowsKey := allowsKey }.dropStaleKeys
  return s.unwind s.cursor.column

/-- Ends all blocks at the end of the text. -/
def finish (s : Scanner) : Except YamlFault Scanner := (s.unwind (-1)).dropKey

/-- The scanner after the next item, and whether the text goes on. -/
def step (s : Scanner) : Except YamlFault (Scanner × Bool) := do
  let next ← s.advance
  match next.cursor.peek with
  | none => return (← next.finish, false)
  | some ch => return (← next.take ch, true)

/-- The number of items before the first one that may still turn out to be a key. -/
def settled (s : Scanner) : Nat :=
  let pending := s.keys.filter fun (_, key) => !s.isStale key
  pending.foldl (fun least (_, key) => min least key.item) s.items.size

/-- The items of a text that leaves the notation after what has been read. -/
def brokenOff (s : Scanner) (fault : YamlFault) : List Item :=
  s.items.toList.take s.settled ++ [.broken fault]

/-- The items of a text of which some have been read. -/
def run : Nat → Scanner → List Item
  | 0, s => s.items.toList
  | fuel + 1, s =>
    match s.step with
    | .error fault => s.brokenOff fault
    | .ok (next, goesOn) => if goesOn then run fuel next else next.items.toList

end Scanner

/-- The items of a text.  Characters that no text may hold are found first. -/
def scan (cs : List Char) : List Item :=
  match cs.find? fun c => !isAcceptable c with
  | some _ =>
    let good := cs.takeWhile isAcceptable
    [.broken (((Cursor.start cs).forward good.length).fault .character)]
  | none => (Scanner.start cs).run (cs.length + 1)

end SketchScreen.Yaml
