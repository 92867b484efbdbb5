/-!
# Places in a YAML text

A cursor is what is left of a text with the place it begins at: the number of characters before it,
and its line and column.  The layout of a text depends on these, and the characters that YAML tells
apart are listed here too.
-/

namespace JsonRecords.Yaml

structure Cursor where
  rest : List Char
  index : Nat := 0
  line : Nat := 0
  column : Nat := 0

/-! ## Characters -/

/-- The characters a text may consist of. -/
def isAllowed (c : Char) : Bool :=
  let n := c.toNat
  n == 0x09 || n == 0x0A || n == 0x0D || (0x20 ≤ n && n ≤ 0x7E) || n == 0x85 ||
    (0xA0 ≤ n && n ≤ 0xD7FF) || (0xE000 ≤ n && n ≤ 0xFFFD) || 0x10000 ≤ n

def isBlank (c : Char) : Bool := c == ' ' || c == '\t'

def isBreak (c : Char) : Bool :=
  c == '\n' || c == '\r' || c == '\x85' || c == '\u2028' || c == '\u2029'

def isSolid (c : Char) : Bool := !isBlank c && !isBreak c

/-- The characters of anchors, directives and tag handles. -/
def isNameChar (c : Char) : Bool := c.isAlphanum || c == '_' || c == '-'

/-- A blank, a line break or the end of the text comes first. -/
def startsBlank (cs : List Char) : Bool :=
  match cs with
  | [] => true
  | c :: _ => !isSolid c

def startsBreak (cs : List Char) : Bool :=
  match cs with
  | [] => false
  | c :: _ => isBreak c

/-! ## Moving -/

namespace Cursor

def ofText (text : String) : Cursor := { rest := text.toList }

/-- Moves over characters of the same line. -/
def skip (c : Cursor) (n : Nat) : Cursor :=
  { c with rest := c.rest.drop n, index := c.index + n, column := c.column + n }

/-- Moves over the characters for which a condition holds and gives them back. -/
def takeWhile (c : Cursor) (p : Char → Bool) : List Char × Cursor :=
  let taken := c.rest.takeWhile p
  (taken, c.skip taken.length)

def skipWhile (c : Cursor) (p : Char → Bool) : Cursor := (c.takeWhile p).2

/-- Moves over a line break, if one comes next, and gives it back in its plain form: all breaks
count as a line feed but the line and paragraph separators, which stand for themselves. -/
def takeBreak (c : Cursor) : List Char × Cursor :=
  let next (taken : Nat) (rest : List Char) : Cursor :=
    { rest, index := c.index + taken, line := c.line + 1, column := 0 }
  match c.rest with
  | '\r' :: '\n' :: rest => (['\n'], next 2 rest)
  | '\r' :: rest => (['\n'], next 1 rest)
  | '\n' :: rest => (['\n'], next 1 rest)
  | '\x85' :: rest => (['\n'], next 1 rest)
  | '\u2028' :: rest => (['\u2028'], next 1 rest)
  | '\u2029' :: rest => (['\u2029'], next 1 rest)
  | _ => ([], c)

/-- Three hyphens or three points at the start of a line, with a blank or nothing after them. -/
def atDocumentMark (c : Cursor) : Bool :=
  c.column == 0 &&
    match c.rest with
    | '-' :: '-' :: '-' :: rest => startsBlank rest
    | '.' :: '.' :: '.' :: rest => startsBlank rest
    | _ => false

/-- Moves over blanks and a comment to the end of the line; nothing else may stand there. -/
def finishLine (c : Cursor) : Option Cursor :=
  let c := c.skipWhile isBlank
  let c := if c.rest.head? = some '#' then c.skipWhile (!isBreak ·) else c
  if c.rest.isEmpty || startsBreak c.rest then some c.takeBreak.2 else none

end Cursor

end JsonRecords.Yaml
