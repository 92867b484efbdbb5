import JsonRecords.Text.Hexadecimal
import JsonRecords.Pattern.Expression

/-!
# The small parts of patterns

What a pattern is written with below the level of groups and classes: the flags that are in force,
blanks and comments, which count for nothing under the flag `x`, numbers, and the escapes that begin
with a backslash.  A reader takes the text that is left and fails with `none`; a pattern is refused
as a whole, whatever is wrong with it.
-/

namespace JsonRecords.Pattern

structure Flags where
  ignoreCase : Bool := false
  multiLine : Bool := false
  dotAll : Bool := false
  swapGreed : Bool := false
  unicode : Bool := true
  mixedLines : Bool := false
  spaced : Bool := false

/-! ## Blanks and comments -/

def isBlank (c : Char) : Bool :=
  Unicode.Property.whiteSpace.contains c

def dropBlanks (inComment : Bool) : List Char → List Char
  | [] => []
  | c :: cs =>
    if inComment then dropBlanks (c != '\n') cs
    else if c == '#' then dropBlanks true cs
    else if isBlank c then dropBlanks false cs
    else c :: cs

/-- Passes over blanks and comments where they count for nothing. -/
def skip (flags : Flags) (cs : List Char) : List Char :=
  if flags.spaced then dropBlanks false cs else cs

/-! ## Numbers -/

/-- Digits from the front of a text, with what may stand between them passed over. -/
def takeDigits (flags : Flags) (inComment : Bool) : List Char → List Char × List Char
  | [] => ([], [])
  | c :: cs =>
    if inComment then takeDigits flags (c != '\n') cs
    else if c.isDigit then
      let (ds, rest) := takeDigits flags false cs
      (c :: ds, rest)
    else if flags.spaced && c == '#' then takeDigits flags true cs
    else if flags.spaced && isBlank c then takeDigits flags false cs
    else ([], c :: cs)

/-- A number of 32 bits; blanks may stand around it. -/
def readCount (flags : Flags) (cs : List Char) : Option (Nat × List Char) :=
  let (ds, rest) := takeDigits flags false (cs.dropWhile isBlank)
  let value := ds.foldl (fun n d => 10 * n + (d.toNat - 48)) 0
  if ds.isEmpty ∨ 0x100000000 ≤ value then none
  else some (value, skip flags (rest.dropWhile isBlank))

/-- The characters up to a closing brace; `bound` is at least the number of characters left. -/
def readBraced (flags : Flags) : Nat → List Char → Option (List Char × List Char)
  | 0, _ => none
  | bound + 1, cs =>
    match skip flags cs with
    | [] => none
    | '\x7d' :: rest => some ([], rest)
    | c :: rest => do
      let (more, rest) ← readBraced flags bound rest
      return (c :: more, rest)

/-! ## Characters by number -/

/-- The character of a code point; surrogates and points beyond the last plane have none. -/
def charOfCode (n : Nat) : Option Char :=
  if n.isValidChar then some (Char.ofNat n) else none

def readHexFixed (flags : Flags) : Nat → List Char → Option (List Char × List Char)
  | 0, cs => some ([], cs)
  | _ + 1, [] => none
  | n + 1, c :: cs => do
    let _ ← hexDigit? c
    let (more, rest) ← readHexFixed flags n (skip flags cs)
    return (c :: more, rest)

/-- The character of an escape `\x`, `\u` or `\U`, whose digits are two, four or eight, or any
number of them in braces. -/
def readHex (flags : Flags) (width : Nat) (cs : List Char) : Option (Char × List Char) :=
  match skip flags cs with
  | '\x7b' :: rest => do
    let (ds, rest) ← readBraced flags rest.length rest
    if ds.isEmpty ∨ ds.any (fun c => (hexDigit? c).isNone) then none
    else return (← charOfCode (hexNumber ds), skip flags rest)
  | rest => do
    let (ds, rest) ← readHexFixed flags width rest
    return (← charOfCode (hexNumber ds), rest)

/-! ## Escapes -/

/-- What one item of a pattern stands for. -/
inductive Item where
  | char (c : Char)
  | set (members : CharSet) (width : Nat)
  | gap (holds : GapCondition)

/-- Every ASCII character but letters, digits and angle brackets stands for itself after a
backslash. -/
def isEscapable (c : Char) : Bool :=
  c.toNat < 128 && !c.isAlphanum && c != '<' && c != '>'

/-- Splits a name at the first place where it goes on with `mark`. -/
def splitAtMark (mark : List Char) : List Char → Option (List Char × List Char)
  | [] => none
  | c :: cs =>
    if mark.isPrefixOf (c :: cs) then some ([], (c :: cs).drop mark.length)
    else (splitAtMark mark cs).map fun (front, back) => (c :: front, back)

/-- The set of a name between the braces of `\p`, and whether the name itself negates it. -/
def propertyNamed (name : List Char) : Option (CharSet × Bool) :=
  let valued (parts : List Char × List Char) :=
    CharSet.valued? (String.ofList parts.1) (String.ofList parts.2)
  match splitAtMark ['!', '='] name with
  | some parts => (valued parts).map fun s => (s, true)
  | none =>
    match splitAtMark [':'] name with
    | some parts => (valued parts).map fun s => (s, false)
    | none =>
      match splitAtMark ['='] name with
      | some parts => (valued parts).map fun s => (s, false)
      | none => (CharSet.named? (String.ofList name)).map fun s => (s, false)

/-- What a set of all but a few characters counts beside a single character. -/
def openSet : Nat := 8

/-- What a set that a Unicode class or property names counts beside a single character.  The sets
differ much in what it takes to match them, and this count does not look at them.  So a repetition
of one of the largest, such as `\w{1000}`, stays within the limit for patterns although its
automaton is several times larger than those that the limit is meant for, and many repetitions of a
small one exceed it that need not. -/
def wideSet : Nat := 100

def propertySet (flags : Flags) (negated : Bool) (s : CharSet) : Option Item :=
  let s := if flags.ignoreCase then s.folded true else s
  if flags.unicode then some (.set (if negated then s.compl else s) wideSet) else none

/-- The property after `\p` or `\P`. -/
def readProperty (flags : Flags) (negated : Bool) (cs : List Char) :
    Option (Item × List Char) :=
  match skip flags cs with
  | [] => none
  | '\x7b' :: rest => do
    let (name, rest) ← readBraced flags rest.length rest
    let (s, inverse) ← propertyNamed name
    return (← propertySet flags (negated != inverse) s, rest)
  | c :: rest => do
    let s ← CharSet.named? (String.singleton c)
    return (← propertySet flags negated s, rest)

def classItem (flags : Flags) (negated : Bool) (s : Bool → CharSet) : Option Item :=
  if negated then
    if flags.unicode then some (.set (s true).compl wideSet) else none
  else some (.set (s flags.unicode) (if flags.unicode then wideSet else 1))

/-- The condition named between the braces after `\b`. -/
def namedBoundary (unicode : Bool) : String → Option GapCondition
  | "start" => some (.wordStart unicode)
  | "end" => some (.wordEnd unicode)
  | "start-half" => some (.noWordBefore unicode)
  | "end-half" => some (.noWordAfter unicode)
  | _ => none

/-- The boundary after `\b`.  Braces that do not begin with a letter or a hyphen are left for a
counted repetition. -/
def readBoundary (flags : Flags) (cs : List Char) : Option (Item × List Char) :=
  let plain : Option (Item × List Char) := some (.gap (.wordBoundary flags.unicode), cs)
  match cs with
  | '\x7b' :: rest =>
    match skip flags rest with
    | [] => none
    | c :: _ =>
      if c.isAlpha || c == '-' then do
        let (name, rest) ← readBraced flags rest.length rest
        let holds ← namedBoundary flags.unicode (String.ofList name)
        return (.gap holds, rest)
      else plain
  | _ => plain

/-- The item after a backslash. -/
def readEscape (flags : Flags) (cs : List Char) : Option (Item × List Char) :=
  match cs with
  | [] => none
  | c :: rest =>
    let unicode := flags.unicode
    match c with
    | 'x' => do
      let fixed := (skip flags rest).head? != some '\x7b'
      let (d, rest) ← readHex flags 2 rest
      if fixed && !unicode && 128 ≤ d.toNat then none else return (.char d, rest)
    | 'u' => do
      let (d, rest) ← readHex flags 4 rest
      return (.char d, rest)
    | 'U' => do
      let (d, rest) ← readHex flags 8 rest
      return (.char d, rest)
    | 'p' => readProperty flags false rest
    | 'P' => readProperty flags true rest
    | 'd' => (classItem flags false .digit).map fun i => (i, rest)
    | 'D' => (classItem flags true .digit).map fun i => (i, rest)
    | 's' => (classItem flags false .blank).map fun i => (i, rest)
    | 'S' => (classItem flags true .blank).map fun i => (i, rest)
    | 'w' => (classItem flags false .word).map fun i => (i, rest)
    | 'W' => (classItem flags true .word).map fun i => (i, rest)
    | 'a' => some (.char '\x07', rest)
    | 'f' => some (.char '\x0c', rest)
    | 't' => some (.char '\t', rest)
    | 'n' => some (.char '\n', rest)
    | 'r' => some (.char '\r', rest)
    | 'v' => some (.char '\x0b', rest)
    | 'A' => some (.gap .textStart, rest)
    | 'z' => some (.gap .textEnd, rest)
    | 'b' => readBoundary flags rest
    | 'B' => some (.gap (.insideOrOutsideWord unicode), rest)
    | '<' => some (.gap (.wordStart unicode), rest)
    | '>' => some (.gap (.wordEnd unicode), rest)
    | c => if isEscapable c then some (.char c, rest) else none

end JsonRecords.Pattern
