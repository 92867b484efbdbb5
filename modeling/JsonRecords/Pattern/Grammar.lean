import JsonRecords.Pattern.CharClass

/-!
# The grammar of patterns

`parse?` turns the text of a pattern into the expression it denotes, or refuses it.  Groups may set
flags for what they hold, and a flag set in the middle of a group holds to the end of that group.
Back references and conditions on what lies ahead or behind are no part of the language.

Expressions may be nested 250 deep, and counted repetitions may not multiply a pattern beyond
`sizeLimit` single characters.

The groups that are open while a pattern is read are kept as a list of levels, the innermost first.
-/

namespace JsonRecords.Pattern

/-- An expression with what the limits are about: its depth and its size. -/
structure Node where
  expression : Expression
  depth : Nat := 0
  size : Nat := 1
  /-- Whether it can match the empty text only. -/
  zeroWidth : Bool := false

/-- A group that is being read.  `flags` are those to go back to when it ends, `branches` the
alternatives before the current one, and `items` the parts of the current one, both last first; an
item `none` is a setting of flags. -/
structure Level where
  flags : Flags
  branches : List Node := []
  items : List (Option Node) := []

/-! ## Putting expressions together -/

def Node.empty : Node := { expression := .empty, zeroWidth := true }

def maxDepth (nodes : List Node) : Nat :=
  (nodes.map (·.depth)).foldl max 0

def totalSize (nodes : List Node) : Nat :=
  nodes.foldl (fun total node => total + node.size) 0

/-- The parts of an alternative in a row. -/
def Node.ofItems (items : List (Option Node)) : Node :=
  match items with
  | [] => .empty
  | [item] => item.getD .empty
  | _ =>
    let nodes := items.filterMap id
    { expression := nodes.foldr (fun n e => .seq n.expression e) .empty
      depth := 1 + maxDepth nodes
      size := totalSize nodes
      zeroWidth := nodes.all (·.zeroWidth) }

def Node.ofBranches (first : Node) (others : List Node) : Node :=
  if others.isEmpty then first
  else
    let nodes := first :: others
    { expression := others.foldl (fun e n => .either e n.expression) first.expression
      depth := 1 + maxDepth nodes
      size := totalSize nodes
      zeroWidth := nodes.all (·.zeroWidth) }

def Level.branch (level : Level) : Node :=
  .ofItems level.items.reverse

def Level.node (level : Level) : Node :=
  match (level.branch :: level.branches).reverse with
  | [] => .empty
  | first :: others => .ofBranches first others

def Level.add (level : Level) (node : Node) : Level :=
  { level with items := some node :: level.items }

def Level.alternative (level : Level) : Level :=
  { level with branches := level.branch :: level.branches, items := [] }

/-- The last part repeated; a repetition needs one.  Repeating what matches the empty text only
comes to matching it once. -/
def Level.repeatLast (level : Level) (least : Nat) (most : Option Nat) : Option Level :=
  match level.items with
  | some node :: items =>
    let (least, most) :=
      if node.zeroWidth then (min least 1, some ((most.map (min · 1)).getD 1)) else (least, most)
    let rounds := most.getD (max least 1)
    some { level with
      items := some
        { expression := .repeated node.expression least most
          depth := node.depth + 1
          size := 1 + rounds * node.size
          zeroWidth := node.zeroWidth || most == some 0 } :: items }
  | _ => none

/-! ## Single items -/

def charNode (flags : Flags) (c : Char) : Option Node :=
  let size := c.utf8Size
  if flags.ignoreCase then
    if flags.unicode then
      let variants := Unicode.caseVariants c
      some { expression := .one (variants.contains ·), size }
    else if c.toNat < 128 then
      let variants := (Unicode.caseVariants c).filter CharSet.isAscii
      some { expression := .one (variants.contains ·), size }
    else none
  else some { expression := .one (· == c), size }

def gapNode (holds : GapCondition) : Node :=
  { expression := .gap holds, zeroWidth := true }

def Item.node (flags : Flags) : Item → Option Node
  | .char c => charNode flags c
  | .set members width => some { expression := .one members, size := width }
  | .gap holds => some (gapNode holds)

/-- The point: every character but those that end a line. -/
def anyChar (flags : Flags) : Option Node :=
  let set : CharSet :=
    if flags.dotAll then .all
    else if flags.mixedLines then fun c => c != '\n' && c != '\r'
    else fun c => c != '\n'
  if flags.unicode then some { expression := .one set, size := openSet } else none

def startAnchor (flags : Flags) : Node :=
  gapNode <|
    if !flags.multiLine then .textStart
    else if flags.mixedLines then .mixedLineStart
    else .lineStart

def endAnchor (flags : Flags) : Node :=
  gapNode <|
    if !flags.multiLine then .textEnd
    else if flags.mixedLines then .mixedLineEnd
    else .lineEnd

/-! ## Groups -/

def Flags.set (flags : Flags) (name : Char) (on : Bool) : Option Flags :=
  match name with
  | 'i' => some { flags with ignoreCase := on }
  | 'm' => some { flags with multiLine := on }
  | 's' => some { flags with dotAll := on }
  | 'U' => some { flags with swapGreed := on }
  | 'u' => some { flags with unicode := on }
  | 'R' => some { flags with mixedLines := on }
  | 'x' => some { flags with spaced := on }
  | _ => none

/-- Flag letters up to a colon or a closing parenthesis, which stays in the rest.  No letter may
come twice, nor the minus sign, and the sign needs a letter after it.  `seen` are the letters so
far, last first. -/
def readFlags (flags : Flags) (seen : List Char) :
    List Char → Option (Flags × List Char × List Char)
  | [] => none
  | c :: cs =>
    if c == ':' || c == ')' then
      if seen.head? == some '-' then none else some (flags, seen, c :: cs)
    else if seen.contains c then none
    else if c == '-' then readFlags flags (c :: seen) cs
    else do readFlags (← flags.set c !(seen.contains '-')) (c :: seen) cs

def isNameChar (first : Bool) (c : Char) : Bool :=
  c == '_' || Unicode.Property.alphabetic.contains c ||
    (!first && (c == '.' || c == '[' || c == ']' ||
      CharSet.inCategories Unicode.GeneralCategory.numbers c))

/-- The name of a group, after the opening bracket. -/
def readGroupName (cs : List Char) : Option (List Char × List Char) :=
  let name := cs.takeWhile (· != '>')
  match cs.dropWhile (· != '>'), name with
  | _ :: rest, c :: more =>
    if isNameChar true c && more.all (isNameChar false) then some (name, rest) else none
  | _, _ => none

inductive GroupStart where
  /-- The flags hold from here on; there is no group. -/
  | settings (flags : Flags)
  | open_ (flags : Flags) (name : Option (List Char))

/-- What follows an opening parenthesis. -/
def readGroupStart (flags : Flags) (cs : List Char) : Option (GroupStart × List Char) :=
  match skip flags cs with
  | '?' :: '=' :: _ => none
  | '?' :: '!' :: _ => none
  | '?' :: '<' :: '=' :: _ => none
  | '?' :: '<' :: '!' :: _ => none
  | '?' :: 'P' :: '<' :: rest =>
    (readGroupName rest).map fun (n, rest) => (.open_ flags (some n), rest)
  | '?' :: '<' :: rest => (readGroupName rest).map fun (n, rest) => (.open_ flags (some n), rest)
  | '?' :: rest => do
    let (inner, seen, rest) ← readFlags flags [] rest
    match rest with
    | ')' :: rest => if seen.isEmpty then none else return (.settings inner, rest)
    | _ :: rest => return (.open_ inner none, rest)
    | [] => none
  | rest => some (.open_ flags none, rest)

/-! ## Repetitions -/

/-- The bounds of a counted repetition, after the opening brace. -/
def readBounds (flags : Flags) (cs : List Char) : Option ((Nat × Option Nat) × List Char) := do
  let (least, rest) ← readCount flags (skip flags cs)
  match rest with
  | '\x7d' :: rest => return ((least, some least), rest)
  | ',' :: rest =>
    match skip flags rest with
    | '\x7d' :: rest => return ((least, none), rest)
    | rest =>
      let (most, rest) ← readCount flags rest
      match rest with
      | '\x7d' :: rest => if least ≤ most then return ((least, some most), rest) else none
      | _ => none
  | _ => none

/-- A question mark after a repetition asks for the shorter match, which decides nothing here. -/
def dropLazy : List Char → List Char
  | '?' :: rest => rest
  | cs => cs

/-! ## The whole pattern -/

/-- Reads to the end of the pattern; `bound` is at least the number of characters left, and `names`
are the names given to groups so far. -/
def readLevel (bound : Nat) (flags : Flags) (names : List (List Char)) (outer : List Level)
    (level : Level) (cs : List Char) : Option Node :=
  match bound, skip flags cs with
  | _, [] => if outer.isEmpty then some level.node else none
  | 0, _ :: _ => none
  | bound + 1, c :: rest =>
    let goOn (level : Option Level) (rest : List Char) : Option Node := do
      readLevel bound flags names outer (← level) rest
    match c with
    | '(' => do
      match ← readGroupStart flags rest with
      | (.settings inner, rest) =>
        readLevel bound inner names outer { level with items := none :: level.items } rest
      | (.open_ inner none, rest) =>
        readLevel bound inner names (level :: outer) { flags } rest
      | (.open_ inner (some name), rest) =>
        if names.contains name then none
        else readLevel bound inner (name :: names) (level :: outer) { flags } rest
    | ')' =>
      match outer with
      | [] => none
      | parent :: outer =>
        let node := level.node
        readLevel bound level.flags names outer
          (parent.add { node with depth := node.depth + 1, size := node.size + 2 }) rest
    | '|' => goOn (some level.alternative) rest
    | '[' => do
      let (s, rest) ← readClass flags rest
      goOn (some (level.add { expression := .one s.members, depth := s.depth, size := s.width }))
        rest
    | '?' => goOn (level.repeatLast 0 (some 1)) (dropLazy rest)
    | '*' => goOn (level.repeatLast 0 none) (dropLazy rest)
    | '+' => goOn (level.repeatLast 1 none) (dropLazy rest)
    | '\x7b' => do
      let ((least, most), rest) ← readBounds flags rest
      goOn (level.repeatLast least most) (dropLazy (skip flags rest))
    | '\\' => do
      let (item, rest) ← readEscape flags rest
      goOn (some (level.add (← item.node flags))) rest
    | '.' => do goOn (some (level.add (← anyChar flags))) rest
    | '^' => goOn (some (level.add (startAnchor flags))) rest
    | '$' => goOn (some (level.add (endAnchor flags))) rest
    | c => do goOn (some (level.add (← charNode flags c))) rest

def depthLimit : Nat := 250

/-- How large a pattern may be, in single characters.  The limit stands for ten mebibytes of an
automaton with a state of 32 bytes for each of them.  It is exact in neither direction: what a set
counts is an estimate (`openSet`, `wideSet`), so a pattern of this size may be taken or refused
otherwise than by the size of its automaton. -/
def sizeLimit : Nat := 327680

def parse? (text : String) : Option Expression := do
  let cs := text.toList
  let flags : Flags := {}
  let node ← readLevel cs.length flags [] [] { flags } cs
  if node.depth ≤ depthLimit ∧ node.size ≤ sizeLimit then return node.expression else none

end JsonRecords.Pattern
