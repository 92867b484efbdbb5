import JsonRecords.Yaml.Token

/-!
# Layout

`tokens?` turns a text into its tokens.  In blocks the columns tell where collections begin and end:
an entry, a key or a value to the right of the collection around it begins a collection, and a token
to the left of it ends it.

That a node is a key shows only at the colon behind it.  So wherever a key may begin, the place is
kept as a candidate, and the colon puts the tokens for the key, and for the mapping if it begins
one, before the node.  A candidate is given up at the end of its line and after 1024 characters; one
that has to be a key, because it stands at the column of its mapping, is an error then.

A layout has one candidate for the block and one for each flow collection that is open, the
innermost first.
-/

namespace JsonRecords.Yaml

structure Candidate where
  required : Bool
  /-- How many tokens come before the node. -/
  position : Nat
  index : Nat
  line : Nat
  column : Nat

structure Layout where
  cursor : Cursor
  /-- The tokens so far, last first. -/
  tokens : List Token := []
  /-- Whether a key may begin here. -/
  keyAllowed : Bool := true
  /-- The column of the innermost block collection, and those of the collections around it. -/
  indent : Int := -1
  outer : List Int := []
  candidates : List (Option Candidate) := [none]

namespace Layout

def inFlow (l : Layout) : Bool := 1 < l.candidates.length

def column (l : Layout) : Int := l.cursor.column

def emit (l : Layout) (t : Token) : Layout := { l with tokens := t :: l.tokens }

/-- Puts a token behind the first `position` ones. -/
def insertToken (l : Layout) (position : Nat) (t : Token) : Layout :=
  { l with tokens := l.tokens.insertIdx (l.tokens.length - position) t }

def moveTo (l : Layout) (c : Cursor) : Layout := { l with cursor := c }

def setKeyAllowed (l : Layout) (allowed : Bool) : Layout := { l with keyAllowed := allowed }

/-! ## Candidates for keys -/

/-- Gives up the innermost candidate. -/
def dropCandidate (l : Layout) : Option Layout :=
  match l.candidates with
  | some k :: rest => if k.required then none else some { l with candidates := none :: rest }
  | _ => some l

/-- Notes that a key may begin here. -/
def addCandidate (l : Layout) : Option Layout :=
  if l.keyAllowed then do
    let l ← l.dropCandidate
    let k : Candidate :=
      { required := !l.inFlow && l.indent == l.column
        position := l.tokens.length
        index := l.cursor.index
        line := l.cursor.line
        column := l.cursor.column }
    return { l with candidates := some k :: l.candidates.drop 1 }
  else some l

/-- Gives up the candidates that lie on an earlier line or too far back. -/
def dropStale (l : Layout) : Option Layout := do
  let keep (k : Option Candidate) : Option (Option Candidate) :=
    match k with
    | none => some none
    | some k =>
      if k.line < l.cursor.line ∨ k.index + 1024 < l.cursor.index then
        if k.required then none else some none
      else some (some k)
  return { l with candidates := ← l.candidates.mapM keep }

/-! ## Block collections -/

/-- Begins a block collection at a column to the right of the current one, its token before the
tokens from `position` on. -/
def openBlock (l : Layout) (column : Int) (position : Nat) (t : Token) : Layout :=
  if l.inFlow || column ≤ l.indent then l
  else { l.insertToken position t with indent := column, outer := l.indent :: l.outer }

/-- Ends the block collections to the right of a column. -/
def closeBlocks (l : Layout) (column : Int) : Layout :=
  if l.inFlow then l
  else
    let rec close (indent : Int) (tokens : List Token) : List Int → Layout
      | [] => { l with indent, tokens, outer := [] }
      | next :: rest =>
        if column < indent then close next (.blockEnd :: tokens) rest
        else { l with indent, tokens, outer := next :: rest }
    close l.indent l.tokens l.outer

/-! ## Blanks and comments -/

/-- Moves to the next token.  Tabs are passed over where no key may begin. -/
def skipBlanks : Nat → Layout → Layout
  | 0, l => l
  | bound + 1, l =>
    let c := l.cursor
    let c := if c.column = 0 ∧ c.rest.head? = some '\ufeff' then c.skip 1 else c
    let tabs := l.inFlow || !l.keyAllowed
    let c := c.skipWhile fun d => d == ' ' || (tabs && d == '\t')
    let c := if c.rest.head? = some '#' then c.skipWhile (!isBreak ·) else c
    if startsBreak c.rest then
      skipBlanks bound { l with cursor := c.takeBreak.2, keyAllowed := l.keyAllowed || !l.inFlow }
    else l.moveTo c

/-! ## Single tokens -/

/-- Ends all blocks, as the marks and directives of documents do. -/
def endBlocks (l : Layout) : Option Layout :=
  return (← (l.closeBlocks (-1)).dropCandidate).setKeyAllowed false

def openFlow (l : Layout) (t : Token) : Option Layout := do
  let l ← l.addCandidate
  return ({ l with candidates := none :: l.candidates, keyAllowed := true }.emit t).moveTo
    (l.cursor.skip 1)

def closeFlow (l : Layout) (t : Token) : Option Layout := do
  let l ← l.dropCandidate
  let candidates := if l.inFlow then l.candidates.drop 1 else l.candidates
  return ({ l with candidates, keyAllowed := false }.emit t).moveTo (l.cursor.skip 1)

def flowEntry (l : Layout) : Option Layout := do
  let l ← l.dropCandidate
  return ((l.setKeyAllowed true).emit .flowEntry).moveTo (l.cursor.skip 1)

/-- An indicator that begins an entry or a key of a block collection; there it needs a place where a
key may begin. -/
def blockIndicator (l : Layout) (collection t : Token) (keyAllowed : Bool) : Option Layout :=
  if !l.inFlow && !l.keyAllowed then none
  else do
    let l ← (l.openBlock l.column l.tokens.length collection).dropCandidate
    return ((l.setKeyAllowed keyAllowed).emit t).moveTo (l.cursor.skip 1)

/-- The colon before a value: it turns the innermost candidate into a key. -/
def valueIndicator (l : Layout) : Option Layout :=
  match l.candidates with
  | some k :: rest =>
    let l := (l.insertToken k.position .key).openBlock k.column k.position .blockMappingStart
    some (({ l with candidates := none :: rest, keyAllowed := false }.emit .value).moveTo
      (l.cursor.skip 1))
  | _ =>
    if !l.inFlow && !l.keyAllowed then none
    else
      let l := l.openBlock l.column l.tokens.length .blockMappingStart
      some (((l.setKeyAllowed !l.inFlow).emit .value).moveTo (l.cursor.skip 1))

/-- A token that may begin a key, and after which none may. -/
def keyToken (l : Layout) (read : Cursor → Option (Token × Cursor)) : Option Layout := do
  let l ← l.addCandidate
  let (t, c) ← read l.cursor
  return ((l.setKeyAllowed false).emit t).moveTo c

def plainScalar (l : Layout) (size : Nat) : Option Layout := do
  let l ← l.addCandidate
  let (text, broken, c) ← readPlain l.inFlow (l.indent + 1) size l.cursor
  return ((l.setKeyAllowed broken).emit (.scalar text .plain)).moveTo c

def blockScalar (l : Layout) (literal : Bool) (size : Nat) : Option Layout := do
  let l ← l.dropCandidate
  let (text, c) ← readBlock literal l.indent size l.cursor
  return ((l.setKeyAllowed true).emit (.scalar text .block)).moveTo c

/-- Whether a plain scalar may begin with these characters. -/
def startsPlain (inFlow : Bool) (cs : List Char) : Bool :=
  match cs with
  | [] => false
  | c :: rest =>
    if c == '-' then !((rest.head?.map isBlank).getD false)
    else if c == '?' || c == ':' then !inFlow && !startsBlank rest
    else isSolid c &&
      !([',', '[', ']', '\x7b', '\x7d', '#', '&', '*', '!', '|', '>', '\'', '"', '%', '@',
        '\x60'].contains c)

/-- Reads the token at the cursor, which is not at the end of the text. -/
def readToken (l : Layout) (size : Nat) : Option Layout :=
  let c := l.cursor
  let flow := l.inFlow
  if c.atDocumentMark then do
    let t := if c.rest.head? = some '-' then Token.documentStart else .documentEnd
    return ((← l.endBlocks).emit t).moveTo (c.skip 3)
  else
    let plain (_ : Unit) : Option Layout :=
      if startsPlain flow c.rest then l.plainScalar size else none
    match c.rest with
    | [] => none
    | d :: rest =>
      let indicator := flow || startsBlank rest
      match d with
      | '%' => if c.column = 0 then do
            let l ← l.endBlocks
            let (t, c) ← readDirective l.cursor
            return (l.emit t).moveTo c
          else none
      | '[' => l.openFlow .flowSequenceStart
      | '\x7b' => l.openFlow .flowMappingStart
      | ']' => l.closeFlow .flowSequenceEnd
      | '\x7d' => l.closeFlow .flowMappingEnd
      | ',' => l.flowEntry
      | '-' =>
        if startsBlank rest then l.blockIndicator .blockSequenceStart .blockEntry true
        else plain ()
      | '?' => if indicator then l.blockIndicator .blockMappingStart .key !flow else plain ()
      | ':' => if indicator then l.valueIndicator else plain ()
      | '*' => l.keyToken fun c => (readAnchorName c).map fun (n, c) => (.alias n, c)
      | '&' => l.keyToken fun c => (readAnchorName c).map fun (n, c) => (.anchor n, c)
      | '!' => l.keyToken (readTag flow)
      | '|' => if flow then none else l.blockScalar true size
      | '>' => if flow then none else l.blockScalar false size
      | '\'' => l.keyToken fun c =>
          (readQuoted '\'' size c).map fun (s, c) => (.scalar s .quoted, c)
      | '"' => l.keyToken fun c =>
          (readQuoted '"' size c).map fun (s, c) => (.scalar s .quoted, c)
      | _ => plain ()

/-- Ends the text. -/
def finish (l : Layout) : Option (List Token) := do
  let l ← (l.closeBlocks (-1)).dropCandidate
  return (Token.streamEnd :: l.tokens).reverse

/-- Reads on to the end; `bound` is more than the number of tokens left. -/
def readTokens (size : Nat) : Nat → Layout → Option (List Token)
  | 0, _ => none
  | bound + 1, l => do
    let l ← (l.skipBlanks size).dropStale
    let l := l.closeBlocks l.column
    if l.cursor.rest.isEmpty then l.finish
    else readTokens size bound (← l.readToken size)

end Layout

/-- The tokens of a text. -/
def tokens? (text : String) : Option (List Token) :=
  let cursor := Cursor.ofText text
  let size := cursor.rest.length + 1
  if cursor.rest.all isAllowed then Layout.readTokens size (size + 1) { cursor } else none

end JsonRecords.Yaml
