import JsonRecords.Text.Hexadecimal
import JsonRecords.Yaml.Cursor

/-!
# The text of scalars

A scalar is written plain, between quotes, or as a block of lines.  A break between two lines of a
plain or quoted scalar is folded: a single one becomes a blank, of several the first is dropped, and
the blanks around them go.  `Gap` is what lies between two words of such a scalar.

Each reader takes a bound that is at least the number of characters left.  It fails with `none`
where the text is no scalar.
-/

namespace JsonRecords.Yaml

/-! ## Folding -/

/-- Blanks and line breaks between words: the blanks before the first break, that break, and the
breaks after it. -/
structure Gap where
  broken : Bool := false
  blanks : List Char := []
  first : List Char := []
  later : List Char := []

namespace Gap

def text (gap : Gap) : List Char :=
  if gap.broken then
    if gap.first = ['\n'] then (if gap.later.isEmpty then [' '] else gap.later)
    else gap.first ++ gap.later
  else gap.blanks

/-- Reads on to the next word.  A tab may be refused where it would count as indentation. -/
def read (tabRefused : Nat → Bool) : Nat → Gap → Cursor → Option (Gap × Cursor)
  | 0, gap, c => some (gap, c)
  | bound + 1, gap, c =>
    match c.rest with
    | [] => some (gap, c)
    | d :: _ =>
      if isBlank d then
        if gap.broken then
          if d == '\t' && tabRefused c.column then none
          else read tabRefused bound gap (c.skip 1)
        else read tabRefused bound { gap with blanks := gap.blanks ++ [d] } (c.skip 1)
      else if isBreak d then
        let (line, c) := c.takeBreak
        if gap.broken then read tabRefused bound { gap with later := gap.later ++ line } c
        else read tabRefused bound { gap with broken := true, first := line } c
      else some (gap, c)

end Gap

/-! ## Plain scalars -/

/-- Whether a plain scalar ends before the first character: at a colon with a blank after it, and in
a flow collection also at the characters that structure it. -/
def endsPlain (inFlow : Bool) : List Char → Bool
  | [] => true
  | c :: rest =>
    !isSolid c || (c == ':' && startsBlank rest) ||
      (inFlow && [',', '[', ']', '\x7b', '\x7d'].contains c)

/-- In a flow collection no character that structures it may follow a colon. -/
def misplacedColon (inFlow : Bool) : List Char → Bool
  | ':' :: c :: _ => inFlow && [',', '?', '[', ']', '\x7b', '\x7d'].contains c
  | _ => false

/-- The characters up to the next blank or the end of the scalar, in front of those read before. -/
def readWord (inFlow : Bool) : Nat → List Char → Cursor → Option (List Char × Cursor)
  | 0, _, _ => none
  | bound + 1, acc, c =>
    match c.rest with
    | [] => some (acc, c)
    | d :: _ =>
      if !isSolid d then some (acc, c)
      else if misplacedColon inFlow c.rest then none
      else if endsPlain inFlow c.rest then some (acc, c)
      else readWord inFlow bound (d :: acc) (c.skip 1)

/-- The words of a plain scalar; `acc` are the characters so far, last first, and `gap` is what has
been passed since.  The last part of the result says whether the scalar ended after a line break. -/
def readWords (inFlow : Bool) (indent : Int) (size : Nat) :
    Nat → List Char → Gap → Cursor → Option (List Char × Bool × Cursor)
  | 0, _, _, _ => none
  | bound + 1, acc, gap, c =>
    if c.atDocumentMark || c.rest.head? == some '#' then some (acc, gap.broken, c)
    else do
      let (word, next) ← readWord inFlow size [] c
      let (acc, gap) :=
        if word.isEmpty then (acc, gap) else (word ++ gap.text.reverse ++ acc, {})
      if next.rest.isEmpty || !startsBlank next.rest then return (acc, gap.broken, next)
      else
        let (gap, next) ← Gap.read (fun column => column < indent) size gap next
        if !inFlow && next.column < indent then return (acc, gap.broken, next)
        else readWords inFlow indent size bound acc gap next

/-- A plain scalar, and whether it ended after a line break.  Its lines are indented by at least
`indent`. -/
def readPlain (inFlow : Bool) (indent : Int) (size : Nat) (c : Cursor) :
    Option (String × Bool × Cursor) := do
  let (acc, broken, c) ← readWords inFlow indent size (size + 1) [] {} c
  return (String.ofList acc.reverse, broken, c)

/-! ## Quoted scalars -/

def charOfHex (ds : List Char) : Option Char :=
  let n := hexNumber ds
  if ds.all (fun d => (hexDigit? d).isSome) ∧ n.isValidChar then some (Char.ofNat n) else none

def readHexEscape (width : Nat) (c : Cursor) : Option (Char × Cursor) := do
  let ds := (c.rest.drop 2).take width
  if ds.length < width then none
  else return (← charOfHex ds, c.skip (2 + width))

/-- The character that a backslash and the next character stand for. -/
def readEscape (c : Cursor) : Option (Char × Cursor) :=
  let short (d : Char) : Option (Char × Cursor) := some (d, c.skip 2)
  match c.rest.drop 1 with
  | '0' :: _ => short '\x00'
  | 'a' :: _ => short '\x07'
  | 'b' :: _ => short '\x08'
  | 't' :: _ => short '\t'
  | '\t' :: _ => short '\t'
  | 'n' :: _ => short '\n'
  | 'v' :: _ => short '\x0b'
  | 'f' :: _ => short '\x0c'
  | 'r' :: _ => short '\r'
  | 'e' :: _ => short '\x1b'
  | ' ' :: _ => short ' '
  | '"' :: _ => short '"'
  | '/' :: _ => short '/'
  | '\\' :: _ => short '\\'
  | 'N' :: _ => short '\x85'
  | '_' :: _ => short '\xa0'
  | 'L' :: _ => short '\u2028'
  | 'P' :: _ => short '\u2029'
  | 'x' :: _ => readHexEscape 2 c
  | 'u' :: _ => readHexEscape 4 c
  | 'U' :: _ => readHexEscape 8 c
  | _ => none

/-- The characters up to the next blank or the closing quote, in front of those read before, and
whether a line break was escaped. -/
def readQuotedWord (quote : Char) : Nat → List Char → Cursor → Option (List Char × Bool × Cursor)
  | 0, _, _ => none
  | bound + 1, acc, c =>
    match c.rest with
    | [] => some (acc, false, c)
    | d :: more =>
      if !isSolid d then some (acc, false, c)
      else if d == quote then
        if quote == '\'' && more.head? == some '\'' then
          readQuotedWord quote bound (d :: acc) (c.skip 2)
        else some (acc, false, c)
      else if quote == '"' && d == '\\' then
        if startsBreak more then some (acc, true, (c.skip 1).takeBreak.2)
        else do
          let (d, c) ← readEscape c
          readQuotedWord quote bound (d :: acc) c
      else readQuotedWord quote bound (d :: acc) (c.skip 1)

/-- The words of a quoted scalar up to and with the closing quote; no document may begin or end
inside it. -/
def readQuotedWords (quote : Char) (size : Nat) :
    Nat → List Char → Cursor → Option (List Char × Cursor)
  | 0, _, _ => none
  | bound + 1, acc, c =>
    if c.atDocumentMark || c.rest.isEmpty then none
    else do
      let (acc, escapedBreak, c) ← readQuotedWord quote size acc c
      if c.rest.head? = some quote then return (acc, c.skip 1)
      else
        let (gap, c) ← Gap.read (fun _ => false) size { broken := escapedBreak } c
        readQuotedWords quote size bound (gap.text.reverse ++ acc) c

/-- A quoted scalar, the cursor at its opening quote. -/
def readQuoted (quote : Char) (size : Nat) (c : Cursor) : Option (String × Cursor) := do
  let (acc, c) ← readQuotedWords quote size (size + 1) [] (c.skip 1)
  return (String.ofList acc.reverse, c)

/-! ## Block scalars -/

inductive Chomping where
  | strip | clip | keep
  deriving DecidableEq, Repr

/-- The indicators of a block scalar: how its end is treated, and its indentation if it is given. -/
def readIndicators (c : Cursor) : Option (Chomping × Option Nat × Cursor) :=
  let chomping (d : Char) : Option Chomping :=
    if d == '+' then some .keep else if d == '-' then some .strip else none
  let digit (c : Cursor) : Option (Option Nat × Cursor) :=
    match c.rest with
    | d :: _ =>
      if d == '0' then none
      else if d.isDigit then some (some (d.toNat - 48), c.skip 1)
      else some (none, c)
    | [] => some (none, c)
  match c.rest with
  | d :: _ =>
    match chomping d with
    | some ch => (digit (c.skip 1)).map fun (n, c) => (ch, n, c)
    | none => do
      let (n, c) ← digit c
      match n, c.rest with
      | some _, d :: _ =>
        match chomping d with
        | some ch => return (ch, n, c.skip 1)
        | none => return (.clip, n, c)
      | _, _ => return (.clip, n, c)
  | [] => some (.clip, none, c)

/-- Empty lines and the indentation of the line after them.  `indent` is the indentation if it is
known; `widest` is the widest seen so far. -/
def readEmptyLines (indent : Option Nat) :
    Nat → Nat → List Char → Cursor → Option (Nat × List Char × Cursor)
  | 0, _, _, _ => none
  | bound + 1, widest, breaks, c =>
    let inside (column : Nat) : Bool := (indent.map fun n => decide (column < n)).getD true
    let blanks := c.rest.takeWhile (· == ' ')
    let taken := match indent with
      | none => blanks.length
      | some n => min blanks.length (n - c.column)
    let c := c.skip taken
    let widest := max widest c.column
    if inside c.column && c.rest.head? == some '\t' then none
    else if startsBreak c.rest then
      let (line, c) := c.takeBreak
      readEmptyLines indent bound widest (breaks ++ line) c
    else some (widest, breaks, c)

/-- What a block scalar is made of while it is read: the characters so far, last first, the break
after the last line, whether that line began with a blank, and the breaks after it. -/
structure BlockLines where
  text : List Char := []
  lineBreak : List Char := []
  blankStart : Bool := false
  breaks : List Char := []

/-- Takes in the next line.  In a folded scalar a single break between two lines that do not begin
with a blank becomes a blank, or nothing if empty lines follow it. -/
def BlockLines.addLine (b : BlockLines) (literal : Bool) (line lineBreak : List Char) :
    BlockLines :=
  let blankLine := (line.head?.map isBlank).getD false
  let joint :=
    if !literal && b.lineBreak == ['\n'] && !b.blankStart && !blankLine then
      if b.breaks.isEmpty then [' '] else []
    else b.lineBreak
  { text := line.reverse ++ b.breaks.reverse ++ joint.reverse ++ b.text
    lineBreak
    blankStart := blankLine }

def readBlockLines (literal : Bool) (indent size : Nat) :
    Nat → BlockLines → Cursor → Option (BlockLines × Cursor)
  | 0, _, _ => none
  | bound + 1, b, c =>
    if c.column = indent ∧ ¬c.rest.isEmpty then do
      let (line, c) := c.takeWhile (!isBreak ·)
      let (lineBreak, c) := c.takeBreak
      let b := b.addLine literal line lineBreak
      let (_, breaks, c) ← readEmptyLines (some indent) size 0 [] c
      readBlockLines literal indent size bound { b with breaks } c
    else some (b, c)

/-- A block scalar, the cursor at its first indicator; `outer` is the indentation around it. -/
def readBlock (literal : Bool) (outer : Int) (size : Nat) (c : Cursor) :
    Option (String × Cursor) := do
  let (chomping, given, c) ← readIndicators (c.skip 1)
  let c ← c.finishLine
  let given := given.map fun n => n + outer.toNat
  let (widest, breaks, c) ← readEmptyLines given (size + 1) 0 [] c
  let indent := given.getD (max widest (max (outer + 1).toNat 1))
  let (b, c) ← readBlockLines literal indent (size + 1) (size + 1) { breaks } c
  let tail := match chomping with
    | .strip => []
    | .clip => b.lineBreak
    | .keep => b.lineBreak ++ b.breaks
  return (String.ofList (b.text.reverse ++ tail), c)

end JsonRecords.Yaml
