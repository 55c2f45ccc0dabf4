import SketchScreen.Yaml.Scan
import SketchScreen.Yaml.Tag

/-!
# Trees of YAML Texts

The tree of a row of items.

## Main Definitions

- `Yaml.Node`: a scalar, a list or a map, each with its tag.
- `Yaml.parse`: the tree of a text, nothing for a text without content.

## Design Notes

A node may be missing where the notation allows one; it then is an empty plain scalar.  The
number of items bounds the nesting, so it serves as fuel.

A reference stands for the node that has the name.  A node that is still being read refers to
itself; only its kind is known then.

Items are looked at only when they are needed, so a fault in front of the place where the text
leaves the notation is found first.
-/

namespace SketchScreen.Yaml

/-- A node of the tree of a text. -/
inductive Node where
  | scalar (tag : Tag) (text : String)
  | list (tag : Tag) (items : List Node)
  | map (tag : Tag) (pairs : List (Node × Node))
  /-- A list, or a map, that the node is inside of. -/
  | enclosing (isMap : Bool)

/-- The node that stands where none is written. -/
def Node.missing : Node := .scalar .null ""

/-- What is left of a row of items, and the nodes that have names. -/
structure Rest where
  items : List Item
  anchors : List (String × Node)

namespace Rest

/-- The rest after some of its items. -/
def drop (r : Rest) (items : List Item) : Rest := { r with items := items }

/-- A failure of a row of items.  If the text has left the notation where its next item is
looked for, this is the fault. -/
def fail {α : Type} (r : Rest) (problem : YamlProblem) : Except YamlFault α :=
  match r.items with
  | .broken fault :: _ => .error fault
  | _ => .error (.syntactic problem none)

/-- Fails if the text has left the notation where its next item is looked for. -/
def check (r : Rest) : Except YamlFault Unit :=
  match r.items with
  | .broken fault :: _ => .error fault
  | _ => .ok ()

/-- Keeps a node under a name that no other node has. -/
def declare (r : Rest) (anchor : Option String) (node : Node) : Except YamlFault Rest :=
  match anchor with
  | none => .ok r
  | some name =>
    if (r.anchors.lookup name).isSome then .error (.syntactic .repeatedAnchor none)
    else .ok { r with anchors := (name, node) :: r.anchors }

/-- Keeps a node that has been read under the name that was declared for it. -/
def complete (r : Rest) (anchor : Option String) (node : Node) : Rest :=
  match anchor with
  | none => r
  | some name => { r with anchors := (name, node) :: r.anchors }

end Rest

/-! ## Names and tags -/

/-- What the abbreviations of tags stand for. -/
abbrev Handles := List (String × String)

/-- The abbreviations that every document has. -/
def defaultHandles : Handles := [("!", "!"), ("!!", Tag.domain)]

/-- The tag that leaves open what a node is. -/
def openTag : String := "!"

/-- What stands in front of a node: a name and a full tag, if they are written. -/
structure Properties where
  anchor : Option String
  tag : Option String
deriving DecidableEq, Repr

namespace Properties

/-- The tag of a scalar. -/
def scalarTag (p : Properties) (text : String) (plain : Bool) : Tag :=
  match p.tag with
  | none => if plain then Tag.ofPlain text else .text
  | some name => if name == openTag then Tag.ofPlain text else Tag.ofName name

/-- The tag of a collection, which is `usual` if none is written. -/
def collectionTag (p : Properties) (usual : Tag) : Tag :=
  match p.tag with
  | none => usual
  | some name => if name == openTag then usual else Tag.ofName name

/-- Whether nothing is written. -/
def isEmpty (p : Properties) : Bool := p.anchor.isNone && p.tag.isNone

end Properties

/-- The full name of a tag. -/
def TagName.full (handles : Handles) (name : TagName) : Except YamlFault String :=
  match name.handle with
  | none => .ok name.suffix
  | some handle =>
    match handles.lookup handle with
    | some target => .ok (target ++ name.suffix)
    | none => .error (.syntactic .undefinedHandle none)

/-- The name and the tag in front of a node, in either order. -/
def readProperties (handles : Handles) (r : Rest) : Except YamlFault (Properties × Rest) :=
  match r.items with
  | .anchor name :: .tag tag :: items => do
    return (⟨some name, some (← tag.full handles)⟩, r.drop items)
  | .anchor name :: items => .ok (⟨some name, none⟩, r.drop items)
  | .tag tag :: .anchor name :: items => do
    return (⟨some name, some (← tag.full handles)⟩, r.drop items)
  | .tag tag :: items => do
    (r.drop items).check
    return (⟨none, some (← tag.full handles)⟩, r.drop items)
  | _ => .ok (⟨none, none⟩, r)

/-- The node that a reference stands for. -/
def readAlias (name : String) (r : Rest) : Except YamlFault (Node × Rest) :=
  match r.anchors.lookup name with
  | some node => .ok (node, r)
  | none => .error (.syntactic .undefinedAlias none)

/-- A scalar with what stands in front of it. -/
def readScalar (p : Properties) (text : String) (plain : Bool) (r : Rest) :
    Except YamlFault (Node × Rest) := do
  let node : Node := .scalar (p.scalarTag text plain) text
  let r ← r.declare p.anchor node
  return (node, r)

/-- The node of a row of items that starts with none: an empty scalar if something
stands in front of it. -/
def readNothing (p : Properties) (r : Rest) : Except YamlFault (Node × Rest) := do
  r.check
  if p.isEmpty then r.fail .content else readScalar p "" true r

/-! ## Nodes -/

mutual

/-- The node at the start of a row of items.  Outside brackets blocks are nodes, too; the
value of a map may be a list whose dashes are not indented. -/
def readNode (handles : Handles) (inBlock bareList : Bool) :
    Nat → Rest → Except YamlFault (Node × Rest)
  | 0, r => r.fail .content
  | fuel + 1, r =>
    match r.items with
    | .alias name :: items => readAlias name (r.drop items)
    | _ => do
      let (p, r) ← readProperties handles r
      match r.items with
      | .scalar text plain :: items => readScalar p text plain (r.drop items)
      | .listOpen :: items =>
        let r ← (r.drop items).declare p.anchor (.enclosing false)
        let (nodes, r) ← readListItems handles true fuel r
        let node : Node := .list (p.collectionTag .list) nodes
        return (node, r.complete p.anchor node)
      | .mapOpen :: items =>
        let r ← (r.drop items).declare p.anchor (.enclosing true)
        let (pairs, r) ← readMapPairs handles true fuel r
        let node : Node := .map (p.collectionTag .map) pairs
        return (node, r.complete p.anchor node)
      | .dash :: _ =>
        if bareList then
          let r ← r.declare p.anchor (.enclosing false)
          let (nodes, r) ← readDashes handles true fuel r
          let node : Node := .list (p.collectionTag .list) nodes
          return (node, r.complete p.anchor node)
        else readNothing p r
      | .blockListStart :: items =>
        if inBlock then
          let r ← (r.drop items).declare p.anchor (.enclosing false)
          let (nodes, r) ← readDashes handles false fuel r
          let node : Node := .list (p.collectionTag .list) nodes
          match r.items with
          | .blockEnd :: items => return (node, (r.drop items).complete p.anchor node)
          | _ => r.fail .blockEnd
        else readNothing p r
      | .blockMapStart :: items =>
        if inBlock then
          let r ← (r.drop items).declare p.anchor (.enclosing true)
          let (pairs, r) ← readBlockPairs handles fuel r
          let node : Node := .map (p.collectionTag .map) pairs
          match r.items with
          | .blockEnd :: items => return (node, (r.drop items).complete p.anchor node)
          | _ => r.fail .blockEnd
        else readNothing p r
      | _ => readNothing p r

/-- The items of a list with dashes; `bare` dashes are those of a map's value. -/
def readDashes (handles : Handles) (bare : Bool) :
    Nat → Rest → Except YamlFault (List Node × Rest)
  | 0, r => r.fail .blockEnd
  | fuel + 1, r =>
    match r.items with
    | .dash :: items => do
      let r := r.drop items
      let ends := match items with
        | .dash :: _ | .blockEnd :: _ => true
        | .key :: _ | .value :: _ => bare
        | _ => false
      let (node, r) ← if ends then .ok (.missing, r) else readNode handles true false fuel r
      let (nodes, r) ← readDashes handles bare fuel r
      return (node :: nodes, r)
    | _ => .ok ([], r)

/-- The pairs of a map in block form. -/
def readBlockPairs (handles : Handles) : Nat → Rest →
    Except YamlFault (List (Node × Node) × Rest)
  | 0, r => r.fail .blockEnd
  | fuel + 1, r =>
    match r.items with
    | .key :: items => do
      let (key, r) ← readPart handles fuel (r.drop items)
      let (value, r) ← match r.items with
        | .value :: items => readPart handles fuel (r.drop items)
        | _ => .ok (.missing, r)
      let (pairs, r) ← readBlockPairs handles fuel r
      return ((key, value) :: pairs, r)
    | _ => .ok ([], r)

/-- The key or the value of a map in block form; it may be missing. -/
def readPart (handles : Handles) : Nat → Rest → Except YamlFault (Node × Rest)
  | 0, r => r.fail .content
  | fuel + 1, r =>
    match r.items with
    | .key :: _ | .value :: _ | .blockEnd :: _ => .ok (.missing, r)
    | _ => readNode handles true true fuel r

/-- The items of a list between brackets. -/
def readListItems (handles : Handles) (first : Bool) :
    Nat → Rest → Except YamlFault (List Node × Rest)
  | 0, r => r.fail .listEnd
  | fuel + 1, r =>
    match r.items with
    | .listClose :: items => .ok ([], r.drop items)
    | _ => do
      let r ← if first then .ok r else
        match r.items with
        | .comma :: items => .ok (r.drop items)
        | _ => r.fail .listEnd
      match r.items with
      | .listClose :: items => return ([], r.drop items)
      | .key :: items =>
        let (key, r) ← readBracketed handles .listClose fuel (r.drop items)
        let (value, r) ← match r.items with
          | .value :: items => readBracketed handles .listClose fuel (r.drop items)
          | _ => .ok (.missing, r)
        let (nodes, r) ← readListItems handles false fuel r
        return (.map .map [(key, value)] :: nodes, r)
      | _ =>
        let (node, r) ← readNode handles false false fuel r
        let (nodes, r) ← readListItems handles false fuel r
        return (node :: nodes, r)

/-- The pairs of a map between brackets. -/
def readMapPairs (handles : Handles) (first : Bool) :
    Nat → Rest → Except YamlFault (List (Node × Node) × Rest)
  | 0, r => r.fail .mapEnd
  | fuel + 1, r =>
    match r.items with
    | .mapClose :: items => .ok ([], r.drop items)
    | _ => do
      let r ← if first then .ok r else
        match r.items with
        | .comma :: items => .ok (r.drop items)
        | _ => r.fail .mapEnd
      match r.items with
      | .mapClose :: items => return ([], r.drop items)
      | .key :: items =>
        let (key, r) ← readBracketed handles .mapClose fuel (r.drop items)
        let (value, r) ← match r.items with
          | .value :: items => readBracketed handles .mapClose fuel (r.drop items)
          | _ => .ok (.missing, r)
        let (pairs, r) ← readMapPairs handles false fuel r
        return ((key, value) :: pairs, r)
      | _ =>
        let (key, r) ← readNode handles false false fuel r
        let (pairs, r) ← readMapPairs handles false fuel r
        return ((key, .missing) :: pairs, r)

/-- The key or the value of a pair between brackets, which `closing` closes; it
may be missing. -/
def readBracketed (handles : Handles) (closing : Item) : Nat → Rest →
    Except YamlFault (Node × Rest)
  | 0, r => r.fail .content
  | fuel + 1, r =>
    match r.items with
    | .value :: _ | .comma :: _ => .ok (.missing, r)
    | _ =>
      if r.items.head? == some closing then .ok (.missing, r)
      else readNode handles false false fuel r

end

/-! ## Documents -/

/-- The items after the marks that end a document. -/
def dropDocumentEnds : List Item → List Item
  | .documentEnd :: rest => dropDocumentEnds rest
  | items => items

/-- The abbreviations that the directives in front of a document add, and what follows them.
The version of the notation is given at most once. -/
def readDirectives (versioned : Bool) (handles : Handles) :
    List Item → Except YamlFault (Handles × List Item)
  | .directive (.version major) :: items =>
    if versioned then .error (.syntactic .repeatedDirective none)
    else if major = 1 then readDirectives true handles items
    else .error (.syntactic .version none)
  | .directive (.handle handle target) :: items =>
    if (handles.lookup handle).isSome then .error (.syntactic .repeatedDirective none)
    else readDirectives versioned ((handle, target) :: handles) items
  | .directive .other :: items => readDirectives versioned handles items
  | items => .ok (handles, items)

/-- The content of a document that has been opened; it may be missing. -/
def readContent (handles : Handles) (fuel : Nat) (r : Rest) :
    Except YamlFault (Node × Rest) :=
  match r.items with
  | [] | .documentStart :: _ | .documentEnd :: _ | .directive _ :: _ => .ok (.missing, r)
  | _ => readNode handles true false fuel r

/-- The abbreviations and the items of a document after the mark that opens it; the
directives come first. -/
def openDocument (items : List Item) : Except YamlFault (Handles × Rest) := do
  let (handles, items) ← readDirectives false [] items
  match items with
  | .documentStart :: items => return (handles ++ defaultHandles, ⟨items, []⟩)
  | items => (⟨items, []⟩ : Rest).fail .documentStart

/-- Whether a document is opened by directives or by its mark. -/
def isOpened : List Item → Bool
  | .directive _ :: _ | .documentStart :: _ => true
  | _ => false

/-- The first document of a row of items. -/
def readDocument (items : List Item) : Except YamlFault (Node × Rest) := do
  let fuel := 2 * items.length + 2
  if isOpened items then
    let (handles, r) ← openDocument items
    readContent handles fuel r
  else readNode defaultHandles true false fuel ⟨items, []⟩

/-- Fails unless the items after a document only end it. -/
def checkEnd (items : List Item) : Except YamlFault Unit := do
  match dropDocumentEnds items with
  | [] => return ()
  | items =>
    let _ ← openDocument items
    .error (.syntactic .secondDocument none)

/-- The tree of a row of items, nothing if there is no document. -/
def parseItems (items : List Item) : Except YamlFault (Option Node) := do
  if items.isEmpty then return none
  let (node, r) ← readDocument items
  checkEnd r.items
  return some node

/-- The tree of a text, nothing for a text without content. -/
def parse (cs : List Char) : Except YamlFault (Option Node) := parseItems (scan cs)

end SketchScreen.Yaml
