import JsonRecords.Yaml.Layout

/-!
# Nodes

`documents?` turns the tokens of a text into its documents, each of them one node.  A node may have
an anchor and a tag; a tag has its handle replaced by what the directives of its document say, and
where a node is missing an empty plain scalar stands for it.

Collections may be nested `depthLimit` deep.  The readers take the depth still allowed, and the
entries of one collection are bounded by the number of tokens, since each of them takes at least
one.
-/

namespace JsonRecords.Yaml

structure Properties (α : Type) where
  anchor : Option α := none
  tag : Option String := none
  deriving DecidableEq, Repr

/-- Nodes whose anchors are named by values of `α`. -/
inductive Node (α : Type) where
  | scalar (properties : Properties α) (text : String) (style : Style)
  | sequence (properties : Properties α) (items : List (Node α))
  | mapping (properties : Properties α) (members : List (Node α × Node α))
  | alias (name : α)
  deriving Repr, Inhabited

abbrev TextNode := Node String

/-- What stands where a node is missing. -/
def TextNode.missing (properties : Properties String) : TextNode := .scalar properties "" .plain

/-! ## Tags -/

abbrev TagTable := List (String × String)

def defaultTags : TagTable := [("!", "!"), ("!!", "tag:yaml.org,2002:")]

/-- The tag of a handle and a suffix; a tag without a handle is its suffix. -/
def resolveTag (tags : TagTable) (handle suffix : String) : Option String :=
  if handle = "" then some suffix else (tags.lookup handle).map (· ++ suffix)

/-! ## Reading nodes -/

abbrev Reader (α : Type) := List Token → Option (α × List Token)

/-- Anchor and tag before a node, in either order. -/
def readProperties (tags : TagTable) : Reader (Properties String)
  | .anchor a :: .tag handle suffix :: rest => do
    return ({ anchor := some a, tag := some (← resolveTag tags handle suffix) }, rest)
  | .tag handle suffix :: .anchor a :: rest => do
    return ({ anchor := some a, tag := some (← resolveTag tags handle suffix) }, rest)
  | .anchor a :: rest => some ({ anchor := some a }, rest)
  | .tag handle suffix :: rest => do
    return ({ tag := some (← resolveTag tags handle suffix) }, rest)
  | ts => some ({}, ts)

/-- The place of a node decides which collections may begin there. -/
inductive Place where
  /-- An entry of a block sequence, or the top of a document. -/
  | block
  /-- A key or a value of a block mapping, where a sequence needs no indentation. -/
  | blockMember
  | flow
  deriving DecidableEq, Repr

/-- Whether one of the tokens comes next. -/
def next (ts : List Token) (options : List Token) : Bool :=
  match ts with
  | [] => true
  | t :: _ => options.contains t

section

/- Reads the nodes of a collection. -/
variable (node : Place → Reader TextNode)

/-- A node, or nothing where one of the tokens `ends` comes next. -/
def readOptional (place : Place) (ends : List Token) : Reader TextNode := fun ts =>
  if next ts ends then some (TextNode.missing {}, ts) else node place ts

/-- The entries of a block sequence up to and with its end. -/
def readBlockEntries : Nat → Reader (List TextNode)
  | bound + 1, .blockEntry :: ts => do
    let (item, ts) ← readOptional node .block [.blockEntry, .blockEnd] ts
    let (items, ts) ← readBlockEntries bound ts
    return (item :: items, ts)
  | _ + 1, .blockEnd :: ts => some ([], ts)
  | _, _ => none

/-- The entries of a sequence that is not indented beside the mapping around it; its end has no
token of its own. -/
def readOpenEntries : Nat → Reader (List TextNode)
  | bound + 1, .blockEntry :: ts => do
    let (item, ts) ← readOptional node .block [.blockEntry, .key, .value, .blockEnd] ts
    let (items, ts) ← readOpenEntries bound ts
    return (item :: items, ts)
  | _ + 1, ts => some ([], ts)
  | 0, _ => none

/-- The members of a block mapping up to and with its end. -/
def readBlockMembers : Nat → Reader (List (TextNode × TextNode))
  | bound + 1, .key :: ts => do
    let (key, ts) ← readOptional node .blockMember [.key, .value, .blockEnd] ts
    let (value, ts) ← match ts with
      | .value :: ts => readOptional node .blockMember [.key, .value, .blockEnd] ts
      | ts => some (TextNode.missing {}, ts)
    let (members, ts) ← readBlockMembers bound ts
    return ((key, value) :: members, ts)
  | _ + 1, .blockEnd :: ts => some ([], ts)
  | _, _ => none

/-- A mapping of one member inside a flow sequence, after the token of its key.  Where the key is
missing the token after it goes too. -/
def readPair : Reader TextNode := fun ts => do
  let (key, ts) ←
    if next ts [.value, .flowEntry, .flowSequenceEnd] then some (TextNode.missing {}, ts.drop 1)
    else node .flow ts
  let (value, ts) ← match ts with
    | .value :: ts => readOptional node .flow [.flowEntry, .flowSequenceEnd] ts
    | ts => some (TextNode.missing {}, ts)
  return (.mapping {} [(key, value)], ts)

/-- The entries of a flow sequence up to and with its bracket; a comma may come before that. -/
def readFlowEntries (first : Bool) : Nat → Reader (List TextNode)
  | _ + 1, .flowSequenceEnd :: ts => some ([], ts)
  | bound + 1, ts => do
    let ts ← if first then some ts else match ts with
      | .flowEntry :: ts => some ts
      | _ => none
    match ts with
    | .flowSequenceEnd :: ts => return ([], ts)
    | .key :: ts =>
      let (item, ts) ← readPair node ts
      let (items, ts) ← readFlowEntries false bound ts
      return (item :: items, ts)
    | ts =>
      let (item, ts) ← node .flow ts
      let (items, ts) ← readFlowEntries false bound ts
      return (item :: items, ts)
  | 0, _ => none

/-- A member of a flow mapping: a key with its value, or a node that stands for a key alone. -/
def readFlowMember : Reader (TextNode × TextNode)
  | .key :: ts => do
    let (key, ts) ← readOptional node .flow [.value, .flowEntry, .flowMappingEnd] ts
    match ts with
    | .value :: ts =>
      let (value, ts) ← readOptional node .flow [.flowEntry, .flowMappingEnd] ts
      return ((key, value), ts)
    | ts => return ((key, .missing {}), ts)
  | ts => do
    let (key, ts) ← node .flow ts
    return ((key, .missing {}), ts)

/-- The members of a flow mapping up to and with its brace. -/
def readFlowMembers (first : Bool) : Nat → Reader (List (TextNode × TextNode))
  | _ + 1, .flowMappingEnd :: ts => some ([], ts)
  | bound + 1, ts => do
    let ts ← if first then some ts else match ts with
      | .flowEntry :: ts => some ts
      | _ => none
    match ts with
    | .flowMappingEnd :: ts => return ([], ts)
    | ts =>
      let (member, ts) ← readFlowMember node ts
      let (members, ts) ← readFlowMembers false bound ts
      return (member :: members, ts)
  | 0, _ => none

/-- Whether a collection begins here. -/
def beginsCollection (place : Place) : List Token → Bool
  | .flowSequenceStart :: _ => true
  | .flowMappingStart :: _ => true
  | .blockSequenceStart :: _ => place ≠ .flow
  | .blockMappingStart :: _ => place ≠ .flow
  | .blockEntry :: _ => place = .blockMember
  | _ => false

def readCollection (properties : Properties String) : Reader TextNode
  | .flowSequenceStart :: ts => do
    let (items, ts) ← readFlowEntries node true (ts.length + 1) ts
    return (.sequence properties items, ts)
  | .flowMappingStart :: ts => do
    let (members, ts) ← readFlowMembers node true (ts.length + 1) ts
    return (.mapping properties members, ts)
  | .blockSequenceStart :: ts => do
    let (items, ts) ← readBlockEntries node (ts.length + 1) ts
    return (.sequence properties items, ts)
  | .blockMappingStart :: ts => do
    let (members, ts) ← readBlockMembers node (ts.length + 1) ts
    return (.mapping properties members, ts)
  | ts => do
    let (items, ts) ← readOpenEntries node (ts.length + 1) ts
    return (.sequence properties items, ts)

end

/-- Reads a node whose collections are nested at most `depth` deep.  A scalar with the bare tag `!`
has no tag. -/
def readNode (tags : TagTable) : (depth : Nat) → Place → Reader TextNode
  | depth, place, ts => do
    match ts with
    | .alias name :: ts => return (.alias name, ts)
    | ts =>
      let (properties, ts) ← readProperties tags ts
      match ts with
      | .scalar text style :: ts =>
        let tag := if properties.tag = some "!" then none else properties.tag
        return (.scalar { properties with tag } text style, ts)
      | ts =>
        if beginsCollection place ts then
          match depth with
          | 0 => none
          | depth + 1 => readCollection (readNode tags depth) properties ts
        else if properties = {} then none
        else return (TextNode.missing properties, ts)

/-! ## Documents -/

def depthLimit : Nat := 128

/-- The directives of a document: one version at most, which has to be 1.1 or 1.2, and each handle
once. -/
def readDirectives : (versioned : Bool) → TagTable → Reader TagTable
  | versioned, tags, .version major minor :: ts =>
    if versioned || major ≠ 1 || (minor ≠ 1 && minor ≠ 2) then none
    else readDirectives true tags ts
  | versioned, tags, .tagDirective handle lead :: ts =>
    if (tags.lookup handle).isSome then none
    else readDirectives versioned (tags ++ [(handle, lead)]) ts
  | _, tags, ts => some (tags ++ defaultTags, ts)

/-- The node of a document after its start, which may be missing. -/
def readContent (tags : TagTable) : Reader TextNode := fun ts =>
  match ts.head? with
  | some (.version ..) => some (TextNode.missing {}, ts)
  | some (.tagDirective ..) => some (TextNode.missing {}, ts)
  | _ =>
    if next ts [.documentStart, .documentEnd, .streamEnd] then some (TextNode.missing {}, ts)
    else readNode tags depthLimit .block ts

/-- The documents from a place where one ends or the text begins.  Only the first may begin without
a mark, and only if nothing comes before it. -/
def readDocuments : Nat → (first : Bool) → List Token → Option (List TextNode)
  | 0, _, _ => none
  | bound + 1, first, ts => do
    let more (node : TextNode) (ts : List Token) : Option (List TextNode) := do
      let ts := if ts.head? = some .documentEnd then ts.drop 1 else ts
      return node :: (← readDocuments bound false ts)
    let ts := if first then ts else ts.dropWhile (· == .documentEnd)
    match ts with
    | [] => none
    | [.streamEnd] => return []
    | ts =>
      let (tags, rest) ← readDirectives false [] ts
      if rest.head? = some .documentStart then
        let (node, ts) ← readContent tags (rest.drop 1)
        more node ts
      else if first ∧ rest.length = ts.length then
        let (node, ts) ← readNode tags depthLimit .block ts
        more node ts
      else none

def documents? (ts : List Token) : Option (List TextNode) :=
  readDocuments (ts.length + 1) true ts

end JsonRecords.Yaml
