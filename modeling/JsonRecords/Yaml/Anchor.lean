import JsonRecords.Association
import JsonRecords.Yaml.Node

/-!
# Anchors

An anchor gives a node a name, and an alias stands for the node that bears the name.  `numbered?`
replaces the names by numbers: an alias gets the number that its name has at that place, so a name
may be given anew further on.  `target?` finds the node of a number.

The number of an anchor is the count of names known before it.  A name that is given anew adds none,
so that the next new name shares its number; the node of a number is the last that has it.
-/

namespace JsonRecords.Yaml

abbrev AnchorNames := List (String × Nat)

def Properties.number (properties : Properties String) (names : AnchorNames) :
    Properties Nat × AnchorNames :=
  match properties.anchor with
  | none => ({ tag := properties.tag }, names)
  | some name =>
    ({ anchor := some names.length, tag := properties.tag },
      Association.insert names name names.length)

namespace Node

mutual

def numberIn (names : AnchorNames) : TextNode → Option (Node Nat × AnchorNames)
  | scalar properties text style =>
    let (properties, names) := properties.number names
    some (scalar properties text style, names)
  | sequence properties items => do
    let (properties, names) := properties.number names
    let (items, names) ← numberItems names items
    return (sequence properties items, names)
  | mapping properties members => do
    let (properties, names) := properties.number names
    let (members, names) ← numberMembers names members
    return (mapping properties members, names)
  | .alias name => do return (.alias (← names.lookup name), names)

def numberItems (names : AnchorNames) : List TextNode → Option (List (Node Nat) × AnchorNames)
  | [] => some ([], names)
  | item :: items => do
    let (item, names) ← numberIn names item
    let (items, names) ← numberItems names items
    return (item :: items, names)

def numberMembers (names : AnchorNames) :
    List (TextNode × TextNode) → Option (List (Node Nat × Node Nat) × AnchorNames)
  | [] => some ([], names)
  | (key, value) :: members => do
    let (key, names) ← numberIn names key
    let (value, names) ← numberIn names value
    let (members, names) ← numberMembers names members
    return ((key, value) :: members, names)

end

/-- The node with numbers for names, if each alias has a name given before it. -/
def numbered? (node : TextNode) : Option (Node Nat) :=
  (numberIn [] node).map Prod.fst

/-! ## The nodes of a tree -/

variable {α : Type}

mutual

/-- A node and the nodes in it, in the order in which they begin. -/
def nodes : Node α → List (Node α)
  | scalar properties text style => [scalar properties text style]
  | sequence properties items => sequence properties items :: nodesOfItems items
  | mapping properties members => mapping properties members :: nodesOfMembers members
  | .alias name => [.alias name]

def nodesOfItems : List (Node α) → List (Node α)
  | [] => []
  | item :: items => nodes item ++ nodesOfItems items

def nodesOfMembers : List (Node α × Node α) → List (Node α)
  | [] => []
  | (key, value) :: members => nodes key ++ nodes value ++ nodesOfMembers members

end

def anchor? : Node α → Option α
  | scalar properties _ _ => properties.anchor
  | sequence properties _ => properties.anchor
  | mapping properties _ => properties.anchor
  | .alias _ => none

/-- The node that an alias to a number stands for. -/
def target? (root : Node Nat) (number : Nat) : Option (Node Nat) :=
  root.nodes.reverse.find? (·.anchor? == some number)

/-- A collection counts twice, for its beginning and its end. -/
def weight : Node α → Nat
  | sequence _ _ => 2
  | mapping _ _ => 2
  | _ => 1

def size (root : Node α) : Nat :=
  root.nodes.foldl (fun total node => total + node.weight) 0

end Node

end JsonRecords.Yaml
