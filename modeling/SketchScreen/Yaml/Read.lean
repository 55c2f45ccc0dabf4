import SketchScreen.Yaml.Atom
import SketchScreen.Yaml.Parse

/-!
# Reading YAML

The value of a text in YAML 1.1.

## Main Definitions

- `Yaml.Node.atom?`: the value of a node that is no collection.
- `Yaml.Filling`: the nodes that a collection is filled with.
- `Yaml.checkLevels`: finds the first fault of a tree.
- `Yaml.Node.value`: the value of a tree.
- `Yaml.read`: the value of a text.

## Design Notes

Collections are filled level by level, the outer ones first.  So of two faults the
one that is less deep is found first, and of two that are equally deep the one that
comes first in the text.

All texts for not-a-number are one key of a map, though not-a-number is not equal to itself.
-/

namespace SketchScreen.Yaml

namespace Node

/-- The tag of a node. -/
def tag : Node → Tag
  | scalar tag _ | list tag _ | map tag _ => tag
  | enclosing isMap => if isMap then .map else .list

/-- A node with another tag. -/
def withTag (tag : Tag) : Node → Node
  | scalar _ text => scalar tag text
  | list _ items => list tag items
  | map _ pairs => map tag pairs
  | enclosing isMap => enclosing isMap

end Node

/-! ## Scalars -/

mutual

/-- The text of a node where a scalar is asked for: that of a scalar, or of the value
that stands for a map. -/
def Node.scalarText? : Node → Option String
  | .scalar _ text => some text
  | .map _ pairs => standIn? pairs
  | .list _ _ | .enclosing _ => none

/-- The text of the value that stands for a map. -/
def standIn? : List (Node × Node) → Option String
  | [] => none
  | (key, node) :: rest => if key.tag = .value then node.scalarText? else standIn? rest

end

/-- The value of a node, nothing if it is a collection that has to be filled. -/
def Node.atom? (node : Node) : Except YamlFault (Option Value) :=
  match node, node.tag with
  | .enclosing isMap, _ => .ok (some (.enclosing isMap))
  | _, .list | _, .map | _, .set | _, .pairs => .ok none
  | _, .merge | _, .value | _, .unknown => fail .unknownTag
  | _, tag =>
    match node.scalarText? with
    | some text => do return some (← tag.atom text)
    | none => fail .scalarKind

/-! ## Collections -/

mutual

/-- The pairs of a map, apart: those that it gets from others, and its own. -/
def splitPairs :
    List (Node × Node) → Except YamlFault (List (Node × Node) × List (Node × Node))
  | [] => .ok ([], [])
  | (key, node) :: rest => do
    if key.tag = .merge then
      let found ← mergedPairs node
      let (merged, own) ← splitPairs rest
      return (found ++ merged, own)
    else
      let (merged, own) ← splitPairs rest
      let key := if key.tag = .value then key.withTag .text else key
      return (merged, (key, node) :: own)

/-- The pairs of a node that is merged: a map, or a list of maps of which the
first counts most. -/
def mergedPairs : Node → Except YamlFault (List (Node × Node))
  | .map _ pairs => do
    let (merged, own) ← splitPairs pairs
    return merged ++ own
  | .list _ items => listPairs items
  | .enclosing true => .ok []
  | .enclosing false | .scalar _ _ => fail .mergeKind

/-- The pairs of a list of maps, the last map first. -/
def listPairs : List Node → Except YamlFault (List (Node × Node))
  | [] => .ok []
  | .map _ pairs :: rest => do
    let (merged, own) ← splitPairs pairs
    let others ← listPairs rest
    return others ++ merged ++ own
  | .enclosing true :: rest => listPairs rest
  | _ :: _ => fail .mergeKind

end

/-- The pairs of a map, those of others first. -/
def flatPairs (pairs : List (Node × Node)) : Except YamlFault (List (Node × Node)) := do
  let (merged, own) ← splitPairs pairs
  return merged ++ own

/-- The nodes that a collection is filled with. -/
inductive Filling where
  | list (items : List Node)
  | map (pairs : List (Node × Node))
  /-- A set, whose items are keys. -/
  | set (pairs : List (Node × Node))
  /-- A list of pairs, each of them a map with one key. -/
  | pairs (items : List Node)

/-- The nodes that a collection is filled with. -/
def Node.filling (node : Node) : Except YamlFault Filling :=
  match node.tag, node with
  | .list, .list _ items => .ok (.list items)
  | .pairs, .list _ items => .ok (.pairs items)
  | .map, .map _ pairs => do return .map (← flatPairs pairs)
  | .set, .map _ pairs => do return .set (← flatPairs pairs)
  | .list, _ | .pairs, _ => fail .listKind
  | _, _ => fail .mapKind

/-- The key and the value of a node that is a map with one key. -/
def Node.entry : Node → Except YamlFault (Node × Node)
  | .map _ [entry] => .ok entry
  | _ => fail .entryKind

/-! ## Faults -/

/-- A node, if it is a collection that is filled later. -/
def Node.later (node : Node) : Except YamlFault (List Node) := do
  match ← node.atom? with
  | some _ => return []
  | none => return [node]

/-- Fails for a node that is no key: collections are none. -/
def Node.checkKey (node : Node) : Except YamlFault Unit := do
  match ← node.atom? with
  | none | some (.enclosing _) => fail .keyKind
  | some _ => return ()

/-- The collections among what a map is filled with. -/
def laterOfPair (pair : Node × Node) : Except YamlFault (List Node) := do
  pair.1.checkKey
  pair.2.later

/-- The collections in a map with one key. -/
def laterOfEntry (node : Node) : Except YamlFault (List Node) := do
  let (key, value) ← node.entry
  let first ← key.later
  let second ← value.later
  return first ++ second

/-- The collections among what a collection is filled with. -/
def Filling.later : Filling → Except YamlFault (List Node)
  | .list items => do return (← items.mapM Node.later).flatten
  | .map entries | .set entries => do return (← entries.mapM laterOfPair).flatten
  | .pairs items => do return (← items.mapM laterOfEntry).flatten

/-- The collections that a collection holds. -/
def Node.inner (node : Node) : Except YamlFault (List Node) := do (← node.filling).later

/-- Finds the first fault of collections and of what is in them, level by level. -/
def checkLevels : Nat → List Node → Except YamlFault Unit
  | 0, _ => .ok ()
  | _, [] => .ok ()
  | fuel + 1, nodes => do checkLevels fuel (← nodes.mapM Node.inner).flatten

mutual

/-- The number of levels of a node. -/
def Node.depth : Node → Nat
  | .scalar _ _ | .enclosing _ => 1
  | .list _ items => depthOfItems items + 1
  | .map _ pairs => depthOfPairs pairs + 1

/-- The greatest number of levels of the items of a list. -/
def depthOfItems : List Node → Nat
  | [] => 0
  | node :: rest => max node.depth (depthOfItems rest)

/-- The greatest number of levels of the keys and values of a map. -/
def depthOfPairs : List (Node × Node) → Nat
  | [] => 0
  | (key, node) :: rest => max (max key.depth node.depth) (depthOfPairs rest)

end

/-! ## Values -/

/-- Whether two values are the same key. -/
def sameKey (a b : Value) : Bool :=
  Value.sameKey a b || (a.number?.any Number.isNaN && b.number?.any Number.isNaN)

/-- The pairs of a map that is built by adding pairs one after another. -/
def mapOf (pairs : List (Value × Value)) : List (Value × Value) :=
  pairs.foldl (fun built pair => Value.insertBy sameKey pair.1 pair.2 built) []

/-- The value of a node that has at most the given number of levels. -/
def valueWithin : Nat → Node → Except YamlFault Value
  | 0, _ => fail .content
  | fuel + 1, node => do
    let both := fun (pair : Node × Node) => do
      let key ← valueWithin fuel pair.1
      let value ← valueWithin fuel pair.2
      return (key, value)
    match ← node.atom? with
    | some value => return value
    | none =>
      match ← node.filling with
      | .list items => return .list (← items.mapM (valueWithin fuel))
      | .map pairs => return .map (mapOf (← pairs.mapM both))
      | .set pairs => return .set ((mapOf (← pairs.mapM both)).map Prod.fst)
      | .pairs items =>
        let entries ← items.mapM fun item => do both (← item.entry)
        return .list (entries.map fun (key, value) => .pair key value)

/-- The value of a node. -/
def Node.value (node : Node) : Except YamlFault Value := do
  checkLevels node.depth (← node.later)
  valueWithin node.depth node

/-- The value of a text. -/
def read (cs : List Char) : Except YamlFault Value := do
  match ← parse cs with
  | some node => node.value
  | none => return .null

end SketchScreen.Yaml
