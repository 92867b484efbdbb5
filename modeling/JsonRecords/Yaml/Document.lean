import JsonRecords.Json.Value
import JsonRecords.Yaml.Anchor
import JsonRecords.Yaml.Layout
import JsonRecords.Yaml.Number

/-!
# YAML documents as JSON

`read` reads a text with one YAML document as a JSON value.  A plain scalar without a tag is null, a
truth value or a number if it is written like one, and a string otherwise; other scalars are strings
unless a tag says what they are.  A number that JSON has no word for is null.

Aliases are replaced by the nodes they stand for.  Since an alias may stand for a collection around
itself, the value is built to a limited depth, and the aliases followed on the way are counted:
there may be a hundred for each part of the document.
-/

namespace JsonRecords.Yaml

/-! ## Scalars -/

def null? (text : String) : Option Json :=
  if ["null", "Null", "NULL", "~"].contains text then some .null else none

def bool? (text : String) : Option Json :=
  if ["true", "True", "TRUE"].contains text then some (.bool true)
  else if ["false", "False", "FALSE"].contains text then some (.bool false)
  else none

/-- Integers fit 64 bits, with or without a sign. -/
def integerValue? (n : Int) : Option Json :=
  if -0x8000000000000000 ≤ n ∧ n ≤ 0xFFFFFFFFFFFFFFFF then some (.number (.integer n)) else none

/-- Integers of more than 128 bits are not read as integers. -/
def isWide (n : Int) : Bool :=
  n < -0x80000000000000000000000000000000 || 0x100000000000000000000000000000000 ≤ n

def floatValue : Float → Json
  | .finite x => .number (.float x)
  | .special => .null

/-- The value of a plain scalar without a tag; an integer of 65 to 128 bits has none. -/
def plainValue? (text : String) : Option Json :=
  let cs := text.toList
  if text = "" then some .null
  else match null? text <|> bool? text with
    | some v => some v
    | none =>
      match (integer? cs).filter (!isWide ·) with
      | some n => integerValue? n
      | none =>
        let float := if isZeroPadded cs then none else float? cs
        some ((float.map floatValue).getD (.string text))

def coreTag (name : String) : String := "tag:yaml.org,2002:" ++ name

/-- Tags of the document's own are refused, and of the common ones only those of null, truth values
and numbers have a meaning. -/
def scalarValue? (tag : Option String) (text : String) (style : Style) : Option Json :=
  match tag with
  | none => if style = .plain then plainValue? text else some (.string text)
  | some tag =>
    if tag.startsWith "!" then none
    else if tag = coreTag "null" then null? text
    else if tag = coreTag "bool" then bool? text
    else if tag = coreTag "int" then (integer? text.toList).bind integerValue?
    else if tag = coreTag "float" then (float? text.toList).map floatValue
    else some (.string text)

/-! ## Values -/

/-- Follows an alias; the state counts the aliases that may still be followed. -/
def follow (root : Node Nat) : Node Nat → StateT Nat Option (Node Nat)
  | .alias number => do
    match ← get with
    | 0 => failure
    | left + 1 =>
      set left
      root.target? number
  | node => return node

def keyText (root key : Node Nat) : StateT Nat Option String := do
  match ← follow root key with
  | .scalar _ text _ => return text
  | _ => failure

def checkTag (properties : Properties Nat) : StateT Nat Option Unit :=
  if (properties.tag.getD "").startsWith "!" then failure else return

/-- The value of a node whose collections are nested at most `depth` deep. -/
def valueIn (root : Node Nat) : (depth : Nat) → Node Nat → StateT Nat Option Json
  | 0, node => do
    match ← follow root node with
    | .scalar properties text style => scalarValue? properties.tag text style
    | _ => failure
  | depth + 1, node => do
    match ← follow root node with
    | .scalar properties text style => scalarValue? properties.tag text style
    | .sequence properties items =>
      checkTag properties
      return .array (← items.mapM (valueIn root depth))
    | .mapping properties members =>
      checkTag properties
      let members ← members.mapM fun (key, value) => do
        return (← keyText root key, ← valueIn root depth value)
      return .ofMembers members
    | .alias _ => failure

def Node.value? (root : Node Nat) : Option Json :=
  (valueIn root depthLimit root).run' (100 * root.size)

/-- A text without a document is null, and one with several is refused. -/
def read (text : String) : Option Json := do
  match ← documents? (← tokens? text) with
  | [] => return .null
  | [node] => (← node.numbered?).value?
  | _ => none

end JsonRecords.Yaml
