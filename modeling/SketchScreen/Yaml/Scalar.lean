import SketchScreen.Text.Digit
import SketchScreen.Text.Half
import SketchScreen.Yaml.Cursor

/-!
# Scalars in YAML Texts

The text of a scalar in its five forms: plain, between single or double quotes, and as a block
whose lines are kept or folded.

## Main Definitions

- `Yaml.readQuoted`: a scalar between quotes.
- `Yaml.readPlain`: a plain scalar.
- `Yaml.readBlock`: a block.

## Design Notes

Where lines are folded, one end of a line counts as a blank, and several count as one less
than there are.  Each function takes the length of the text that is left as fuel.
-/

namespace SketchScreen.Yaml

/-- What stands for ends of lines that are folded: the first one, and those after it. -/
def foldBreaks (first : Char) (more : List Char) : List Char :=
  if first != '\n' then first :: more else if more.isEmpty then [' '] else more

/-! ## Quoted scalars -/

/-- The ends of lines at a place, with the blanks around them. -/
def quotedBreaks : Nat → Cursor → Except YamlFault (List Char × Cursor)
  | 0, c => .ok ([], c)
  | fuel + 1, c =>
    if c.atDocumentMark then c.fail .documentMark
    else
      let c := c.skipWhile isGap
      match c.takeBreak? with
      | none => .ok ([], c)
      | some (first, c) => do
        let (more, c) ← quotedBreaks fuel c
        return (first :: more, c)

/-- The blanks at a place, folded if they hold the end of a line. -/
def quotedGap (fuel : Nat) (c : Cursor) : Except YamlFault (List Char × Cursor) :=
  let blanks := c.rest.takeWhile isGap
  let c := c.forward blanks.length
  if c.rest.isEmpty then c.fail .unclosedQuote
  else
    match c.takeBreak? with
    | none => .ok (blanks, c)
    | some (first, c) => do
      let (more, c) ← quotedBreaks fuel c
      return (foldBreaks first more, c)

/-- The character of a one-letter escape. -/
def escaped? : Char → Option Char
  | '0' => some '\x00'
  | 'a' => some '\x07'
  | 'b' => some '\x08'
  | 't' => some '\t'
  | '\t' => some '\t'
  | 'n' => some '\n'
  | 'v' => some '\x0b'
  | 'f' => some '\x0c'
  | 'r' => some '\r'
  | 'e' => some '\x1b'
  | ' ' => some ' '
  | '"' => some '"'
  | '\\' => some '\\'
  | '/' => some '/'
  | 'N' => some '\u0085'
  | '_' => some '\u00a0'
  | 'L' => some '\u2028'
  | 'P' => some '\u2029'
  | _ => none

/-- The number of digits after a letter that starts a numeric escape. -/
def escapeWidth? : Char → Option Nat
  | 'x' => some 2
  | 'u' => some 4
  | 'U' => some 8
  | _ => none

/-- The character of a numeric escape; half a pair is kept as it is. -/
def ofCode (n : Nat) : Except YamlFault Char :=
  if 0x80000000 ≤ n then .error .codeTooLarge
  else if 0x110000 ≤ n then .error .noCharacter
  else .ok (Text.ofUnit n)

/-- What an escape stands for, where a place is after its backslash. -/
def readEscape (fuel : Nat) (c : Cursor) : Except YamlFault (List Char × Cursor) :=
  match c.peek with
  | none => c.fail .escape
  | some ch =>
    match escaped? ch, escapeWidth? ch with
    | some found, _ => .ok ([found], c.next)
    | none, some width =>
      let digits := c.next.rest.take width
      if digits.length = width ∧ digits.all Text.isHexDigit then do
        let found ← ofCode (Text.ofDigits 16 (digits.map Text.hexValue))
        return ([found], c.next.forward width)
      else c.next.fail .escape
    | none, none =>
      match c.takeBreak? with
      | some (_, c) => quotedBreaks fuel c
      | none => c.fail .escape

/-- The text from a place up to the closing quote. -/
def quotedText (double : Bool) : Nat → Cursor → Except YamlFault (List Char × Cursor)
  | 0, c => c.fail .unclosedQuote
  | fuel + 1, c =>
    match c.rest with
    | [] => c.fail .unclosedQuote
    | ch :: _ => do
      if ch == (if double then '"' else '\'') then
        if !double && c.peekNext == some '\'' then
          let (more, stop) ← quotedText double fuel (c.forward 2)
          return ('\'' :: more, stop)
        else return ([], c.next)
      else
        let (part, c) ←
          if double && ch == '\\' then readEscape fuel c.next
          else if isGap ch || isBreak ch then quotedGap fuel c
          else .ok ([ch], c.next)
        let (more, stop) ← quotedText double fuel c
        return (part ++ more, stop)

/-- The scalar whose opening quote is at a place. -/
def readQuoted (double : Bool) (c : Cursor) : Except YamlFault (List Char × Cursor) :=
  quotedText double (c.rest.length + 1) c.next

/-! ## Plain scalars -/

/-- Whether a character ends a run of a plain scalar; inside brackets commas and
brackets do, too. -/
def stopsPlain (inBrackets : Bool) (ch : Char) (after : Option Char) : Bool :=
  isGap ch || isBreak ch
    || (ch == ':' && (endsWord after
      || (inBrackets && after.any [',', '[', ']', '\x7b', '\x7d'].contains)))
    || (inBrackets && [',', '?', '[', ']', '\x7b', '\x7d'].contains ch)

/-- The run of a plain scalar at the start of a text. -/
def plainRun (inBrackets : Bool) : List Char → List Char
  | [] => []
  | ch :: rest =>
    if stopsPlain inBrackets ch rest.head? then [] else ch :: plainRun inBrackets rest

/-- The ends of lines at a place with the blanks around them, up to a mark that separates
documents: whether there is none, and what was found. -/
def plainBreaks : Nat → Cursor → Bool × List Char × Cursor
  | 0, c => (true, [], c)
  | fuel + 1, c =>
    if c.atDocumentMark then (false, [], c)
    else
      let c := c.skipSpaces
      match c.takeBreak? with
      | none => (true, [], c)
      | some (first, c) =>
        let (goesOn, more, stop) := plainBreaks fuel c
        (goesOn, first :: more, stop)

/-- What stands between two runs of a plain scalar. -/
structure PlainGap where
  /-- The text that it counts as; empty if the scalar ends. -/
  text : List Char
  /-- Whether it holds the end of a line. -/
  endsLine : Bool
  stop : Cursor

/-- What stands after a run of a plain scalar. -/
def plainGap (fuel : Nat) (c : Cursor) : PlainGap :=
  let blanks := c.rest.takeWhile (· == ' ')
  let c := c.forward blanks.length
  match c.takeBreak? with
  | none => ⟨blanks, false, c⟩
  | some (first, c) =>
    let (goesOn, more, stop) := plainBreaks fuel c
    ⟨if goesOn then foldBreaks first more else [], true, stop⟩

/-- A plain scalar: its text, whether a key may follow it, and the place after it. -/
structure Plain where
  text : List Char
  allowsKey : Bool
  stop : Cursor

/-- The plain scalar from a place on, where `gap` stands before it. -/
def plainText (inBrackets : Bool) (indent : Int) (gap : List Char) (allowsKey : Bool) :
    Nat → Cursor → Plain
  | 0, c => ⟨[], allowsKey, c⟩
  | fuel + 1, c =>
    let run := plainRun inBrackets c.rest
    if c.sees (· == '#') || run.isEmpty then ⟨[], allowsKey, c⟩
    else
      let after := plainGap fuel (c.forward run.length)
      if after.text.isEmpty || after.stop.sees (· == '#')
          || (!inBrackets && (after.stop.column : Int) < indent) then
        ⟨gap ++ run, after.endsLine, after.stop⟩
      else
        let more := plainText inBrackets indent after.text after.endsLine fuel after.stop
        ⟨gap ++ run ++ more.text, more.allowsKey, more.stop⟩

/-- The plain scalar at a place inside a collection with the given indentation. -/
def readPlain (inBrackets : Bool) (indent : Int) (c : Cursor) : Plain :=
  plainText inBrackets (indent + 1) [] false (c.rest.length + 1) c

/-! ## Blocks -/

/-- What becomes of the ends of lines at the end of a block. -/
inductive Chomping where
  | clip
  | strip
  | keep
deriving DecidableEq, Repr

/-- The first line of a block. -/
structure BlockHeader where
  chomping : Chomping
  /-- The indentation beyond that of the collection around it, if it is given. -/
  increment : Option Nat
deriving DecidableEq, Repr

/-- What an indicator says about the end of a block. -/
def chomping? : Option Char → Option Chomping
  | some '+' => some .keep
  | some '-' => some .strip
  | _ => none

/-- The indentation that an indicator gives. -/
def increment? (c : Cursor) : Except YamlFault (Option Nat) :=
  match c.peek with
  | some ch =>
    if '0' ≤ ch && ch ≤ '9' then
      if ch == '0' then c.fail .blockHeader else .ok (some (ch.toNat - '0'.toNat))
    else .ok none
  | none => .ok none

/-- The indicators at a place, in either order. -/
def blockIndicators (c : Cursor) : Except YamlFault (BlockHeader × Cursor) := do
  match chomping? c.peek with
  | some chomping =>
    match ← increment? c.next with
    | some n => return (⟨chomping, some n⟩, c.forward 2)
    | none => return (⟨chomping, none⟩, c.next)
  | none =>
    match ← increment? c with
    | some n =>
      match chomping? c.peekNext with
      | some chomping => return (⟨chomping, some n⟩, c.forward 2)
      | none => return (⟨.clip, some n⟩, c.next)
    | none => return (⟨.clip, none⟩, c)

/-- The first line of a block, where a place is after the mark of the block. -/
def blockHeader (c : Cursor) : Except YamlFault (BlockHeader × Cursor) := do
  let (header, c) ← blockIndicators c
  if c.sees fun ch => ch != ' ' && !isBreak ch then c.fail .blockHeader
  else
    let c := c.skipSpaces.skipComment
    match c.takeBreak? with
    | some (_, c) => return (header, c)
    | none => if c.rest.isEmpty then return (header, c) else c.fail .blockHeader

/-- The ends of empty lines at a place, where blanks up to the indentation do not count. -/
def blockBreaks (indent : Nat) : Nat → Cursor → List Char × Cursor
  | 0, c => ([], c)
  | fuel + 1, c =>
    let spaces := (c.rest.takeWhile (· == ' ')).length
    let c := c.forward (min spaces (indent - c.column))
    match c.takeBreak? with
    | none => ([], c)
    | some (first, c) =>
      let (more, stop) := blockBreaks indent fuel c
      (first :: more, stop)

/-- The ends of the empty lines before a block, and the greatest column that blanks reach. -/
def blockIndentation (widest : Nat) : Nat → Cursor → List Char × Nat × Cursor
  | 0, c => ([], widest, c)
  | fuel + 1, c =>
    let c := c.skipSpaces
    let widest := max widest c.column
    match c.takeBreak? with
    | none => ([], widest, c)
    | some (first, c) =>
      let (more, widest, stop) := blockIndentation widest fuel c
      (first :: more, widest, stop)

/-- The lines of a block. -/
structure BlockLines where
  text : List Char
  /-- The end of the last line. -/
  lastBreak : List Char
  /-- The ends of the empty lines after it. -/
  trailing : List Char
  stop : Cursor

/-- Whether a line of a block starts at a place. -/
def atBlockLine (indent : Nat) (c : Cursor) : Bool := c.column == indent && !c.rest.isEmpty

/-- The lines of a block from a place on, where `breaks` are the ends of empty lines before it
and `last` is the end of the line before. -/
def blockLines (folded : Bool) (indent : Nat) (breaks last : List Char) :
    Nat → Cursor → BlockLines
  | 0, c => ⟨[], last, breaks, c⟩
  | fuel + 1, c =>
    if !atBlockLine indent c then ⟨[], last, breaks, c⟩
    else
      let line := c.rest.takeWhile fun ch => !isBreak ch
      let c' := c.forward line.length
      let (ending, c') := match c'.takeBreak? with
        | some (ch, c') => ([ch], c')
        | none => ([], c')
      let (empty, c') := blockBreaks indent fuel c'
      let joint :=
        if !atBlockLine indent c' then []
        else if folded && ending == ['\n'] && !line.head?.any isGap && !c'.sees isGap then
          if empty.isEmpty then [' '] else []
        else ending
      let more := blockLines folded indent empty ending fuel c'
      { more with text := breaks ++ line ++ joint ++ more.text }

/-- The block whose mark is at a place, inside a collection with the given indentation. -/
def readBlock (folded : Bool) (indent : Int) (c : Cursor) :
    Except YamlFault (List Char × Cursor) := do
  let (header, c) ← blockHeader c.next
  let least := (indent + 1).toNat.max 1
  let fuel := c.rest.length + 1
  let (column, breaks, c) :=
    match header.increment with
    | some n =>
      let column := least + n - 1
      let (breaks, c) := blockBreaks column fuel c
      (column, breaks, c)
    | none =>
      let (breaks, widest, c) := blockIndentation 0 fuel c
      (max least widest, breaks, c)
  let lines := blockLines folded column breaks [] fuel c
  let tail := match header.chomping with
    | .clip => lines.lastBreak
    | .strip => []
    | .keep => lines.lastBreak ++ lines.trailing
  return (lines.text ++ tail, lines.stop)

end SketchScreen.Yaml
