import JsonRecords.Pattern.Lexical

/-!
# Bracketed character classes

A class lists characters, ranges, named classes and classes inside it, all of which it joins.  It
may be combined with others by `&&`, `--` and `~~`, which all bind alike and to the left.  Under the
flag `i` both sides of such an operator, and the class as a whole, take in what differs by case
alone; a leading `^` complements what comes of that.

The classes that are open while one is read are kept as a list of levels, the innermost first.
-/

namespace JsonRecords.Pattern

/-- A set with the depth of its brackets and what it costs. -/
structure ClassSet where
  members : CharSet
  depth : Nat
  width : Nat

inductive SetOperator where
  | intersection | difference | symmetricDifference
  deriving DecidableEq, Repr

structure ClassLevel where
  negated : Bool
  /-- The left side of an operator that waits for its right side. -/
  pending : Option (ClassSet × SetOperator) := none
  items : List ClassSet := []

/-! ## Building sets -/

def ClassSet.join (items : List ClassSet) : ClassSet :=
  match items with
  | [] => ⟨CharSet.none, 0, 1⟩
  | [item] => item
  | _ =>
    { members := fun c => items.any (·.members c)
      depth := 1 + (items.map (·.depth)).foldl max 0
      width := (items.map (·.width)).foldl max 1 }

def ClassSet.fold (flags : Flags) (s : ClassSet) : ClassSet :=
  if flags.ignoreCase then { s with members := s.members.folded flags.unicode } else s

def SetOperator.apply : SetOperator → CharSet → CharSet → CharSet
  | .intersection => .inter
  | .difference => .diff
  | .symmetricDifference => .symmDiff

/-- The set of a level so far, the waiting operator applied. -/
def ClassLevel.total (flags : Flags) (level : ClassLevel) : ClassSet :=
  let right := ClassSet.join level.items
  match level.pending with
  | none => right
  | some (left, op) =>
    { members := op.apply (left.fold flags).members (right.fold flags).members
      depth := 1 + max left.depth right.depth
      width := max left.width right.width }

def ClassLevel.add (level : ClassLevel) (item : ClassSet) : ClassLevel :=
  { level with items := item :: level.items }

def ClassLevel.operator (flags : Flags) (level : ClassLevel) (op : SetOperator) : ClassLevel :=
  { level with pending := some (level.total flags, op), items := [] }

/-- The set of a level whose closing bracket has been read.  Outside Unicode a complement would hold
what is no character, so it is refused. -/
def ClassLevel.close (flags : Flags) (level : ClassLevel) : Option ClassSet :=
  let s := (level.total flags).fold flags
  if level.negated then
    if flags.unicode then some ⟨s.members.compl, s.depth + 1, max openSet s.width⟩ else none
  else some { s with depth := s.depth + 1 }

/-! ## Reading the parts -/

/-- Hyphens at the front of a class stand for themselves. -/
def readHyphens (flags : Flags) : Nat → List Char → Nat × List Char
  | bound + 1, '-' :: rest =>
    let (n, rest) := readHyphens flags bound (skip flags rest)
    (n + 1, rest)
  | _, cs => (0, cs)

def charSet (c : Char) : ClassSet :=
  ⟨fun d => d == c, 0, if c.toNat < 128 then 1 else 2⟩

/-- The beginning of a class after its bracket: a complement sign, hyphens, and a closing bracket
that stands for itself because nothing comes before it. -/
def openClass (flags : Flags) (cs : List Char) : Option (ClassLevel × List Char) :=
  let (negated, cs) := match skip flags cs with
    | '^' :: rest => (true, skip flags rest)
    | rest => (false, rest)
  let (hyphens, cs) := readHyphens flags cs.length cs
  let level : ClassLevel := { negated, items := List.replicate hyphens (charSet '-') }
  match cs with
  | [] => none
  | ']' :: rest =>
    if hyphens = 0 then some (level.add (charSet ']'), skip flags rest) else some (level, cs)
  | _ => some (level, cs)

/-- A named class such as `[:alpha:]`, after its first bracket. -/
def readNamedClass (flags : Flags) (cs : List Char) : Option (Option ClassSet × List Char) :=
  match cs with
  | ':' :: rest =>
    let (negated, rest) := match rest with
      | '^' :: rest => (true, rest)
      | _ => (false, rest)
    let name := rest.takeWhile (· != ':')
    match rest.dropWhile (· != ':') with
    | ':' :: ']' :: rest => do
      let s ← CharSet.asciiClass? (String.ofList name)
      let s : CharSet := if flags.ignoreCase then s.folded flags.unicode else s
      if negated then
        return (if flags.unicode then some ⟨s.compl, 0, openSet⟩ else none, rest)
      else return (some ⟨s, 0, 1⟩, rest)
    | _ => none
  | _ => none

def readClassItem (flags : Flags) (cs : List Char) : Option (Item × List Char) :=
  match cs with
  | [] => none
  | '\\' :: rest => readEscape flags rest
  | c :: rest => some (.char c, rest)

/-- Outside Unicode a class may list ASCII characters only. -/
def isListable (flags : Flags) (c : Char) : Bool :=
  flags.unicode || c.toNat < 128

/-- A hyphen begins a range unless the class ends or another hyphen follows. -/
def startsRange (flags : Flags) (cs : List Char) : Bool :=
  match cs with
  | '-' :: rest =>
    match skip flags rest with
    | ']' :: _ => false
    | '-' :: _ => false
    | _ => true
  | _ => false

/-- A single item or a range of characters. -/
def readRange (flags : Flags) (cs : List Char) : Option (ClassSet × List Char) := do
  let (first, rest) ← readClassItem flags cs
  let rest := skip flags rest
  if startsRange flags rest then
    let (last, after) ← readClassItem flags (skip flags (rest.drop 1))
    match first, last with
    | .char a, .char b =>
      if a ≤ b && isListable flags a && isListable flags b then
        return (⟨CharSet.range a b, 0, if b.toNat < 128 then 1 else 4⟩, after)
      else none
    | _, _ => none
  else
    match first with
    | .char c => if isListable flags c then return (charSet c, rest) else none
    | .set members width => return (⟨members, 0, width⟩, rest)
    | .gap _ => none

/-! ## The whole class -/

/-- Reads on until the outermost class is closed; `bound` is at least the number of characters
left. -/
def readLevels (flags : Flags) (bound : Nat) (outer : List ClassLevel) (level : ClassLevel)
    (cs : List Char) : Option (ClassSet × List Char) :=
  match bound, skip flags cs with
  | 0, _ => none
  | _, [] => none
  | bound + 1, '[' :: rest =>
    match readNamedClass flags rest with
    | some (item, rest) => do readLevels flags bound outer (level.add (← item)) rest
    | none => do
      let (inner, rest) ← openClass flags rest
      readLevels flags bound (level :: outer) inner rest
  | bound + 1, ']' :: rest => do
    let s ← level.close flags
    match outer with
    | [] => return (s, rest)
    | parent :: outer => readLevels flags bound outer (parent.add s) rest
  | bound + 1, '&' :: '&' :: rest =>
    readLevels flags bound outer (level.operator flags .intersection) rest
  | bound + 1, '-' :: '-' :: rest =>
    readLevels flags bound outer (level.operator flags .difference) rest
  | bound + 1, '~' :: '~' :: rest =>
    readLevels flags bound outer (level.operator flags .symmetricDifference) rest
  | bound + 1, rest => do
    let (item, rest) ← readRange flags rest
    readLevels flags bound outer (level.add item) rest

/-- The class after its opening bracket. -/
def readClass (flags : Flags) (cs : List Char) : Option (ClassSet × List Char) := do
  let (level, rest) ← openClass flags cs
  readLevels flags (cs.length + 1) [] level rest

end JsonRecords.Pattern
