import JsonRecords.Text.Hexadecimal
import JsonRecords.Json.Numeral

/-!
# Reading JSON

`Json.read` turns a text into the value it denotes.  The grammar is that of RFC 8259; arrays and
objects may be nested 127 deep, an escaped surrogate has to come with its other half, and of a key
that stands twice in an object the first place and the last value count.

A reader takes the text that is left and gives back a value with the text after it.  Nesting is
bounded by the depth still allowed, and the items of one array or object by the number of characters
left, since each of them takes at least one.
-/

namespace JsonRecords.Json

abbrev Reader (α : Type) := List Char → Except ReadError (α × List Char)

def isBlank (c : Char) : Bool :=
  c == ' ' || c == '\n' || c == '\t' || c == '\r'

def skipBlanks (cs : List Char) : List Char :=
  cs.dropWhile isBlank

/-! ## Strings -/

/-- The four digits of an escape.  Fewer than four bytes before the end are an unfinished escape. -/
def readHex4 : Reader Nat
  | a :: b :: c :: d :: rest =>
    match hexDigit? a, hexDigit? b, hexDigit? c, hexDigit? d with
    | some a, some b, some c, some d => .ok (((a * 16 + b) * 16 + c) * 16 + d, rest)
    | _, _, _, _ => .error .malformed
  | rest =>
    if (String.ofList rest).utf8ByteSize < 4 then .error .unexpectedEnd else .error .malformed

/-- The character of an escape that begins with `\u`, the second half of a pair included. -/
def readUnicodeEscape (cs : List Char) : Except ReadError (Char × List Char) := do
  let (high, rest) ← readHex4 cs
  if 0xDC00 ≤ high ∧ high ≤ 0xDFFF then .error .malformed
  else if high < 0xD800 ∨ 0xDFFF < high then .ok (Char.ofNat high, rest)
  else match rest with
    | '\\' :: 'u' :: rest =>
      let (low, rest) ← readHex4 rest
      if 0xDC00 ≤ low ∧ low ≤ 0xDFFF then
        .ok (Char.ofNat (0x10000 + (high - 0xD800) * 0x400 + (low - 0xDC00)), rest)
      else .error .malformed
    | ['\\'] => .error .unexpectedEnd
    | rest => .error (.missing rest)

def readEscape : Reader Char
  | '"' :: rest => .ok ('"', rest)
  | '\\' :: rest => .ok ('\\', rest)
  | '/' :: rest => .ok ('/', rest)
  | 'b' :: rest => .ok ('\x08', rest)
  | 'f' :: rest => .ok ('\x0c', rest)
  | 'n' :: rest => .ok ('\n', rest)
  | 'r' :: rest => .ok ('\r', rest)
  | 't' :: rest => .ok ('\t', rest)
  | 'u' :: rest => readUnicodeEscape rest
  | rest => .error (.missing rest)

/-- The characters up to the closing quote; `bound` is at least the number of those left. -/
def readChars (bound : Nat) (acc : List Char) (cs : List Char) :
    Except ReadError (String × List Char) :=
  match bound, cs with
  | _, [] => .error .unexpectedEnd
  | _, '"' :: rest => .ok (String.ofList acc.reverse, rest)
  | 0, _ :: _ => .error .unexpectedEnd
  | bound + 1, '\\' :: rest => do
    let (c, rest) ← readEscape rest
    readChars bound (c :: acc) rest
  | bound + 1, c :: rest =>
    if c.toNat < 0x20 then .error .malformed else readChars bound (c :: acc) rest

def readString (cs : List Char) : Except ReadError (String × List Char) :=
  readChars cs.length [] cs

/-! ## Literals -/

/-- The rest of a literal whose first character has been seen. -/
def readLiteral (value : Json) : List Char → Reader Json
  | [], cs => .ok (value, cs)
  | _ :: _, [] => .error .unexpectedEnd
  | expected :: more, c :: cs =>
    if c = expected then readLiteral value more cs else .error .malformed

/-! ## Arrays and objects -/

/-- The items of an array after the first, up to and with the closing bracket. -/
def readMoreItems (item : Reader Json) (bound : Nat) (acc : List Json) (cs : List Char) :
    Except ReadError (Json × List Char) :=
  match skipBlanks cs, bound with
  | ']' :: rest, _ => .ok (array acc.reverse, rest)
  | ',' :: rest, bound + 1 =>
    match skipBlanks rest with
    | ']' :: _ => .error .malformed
    | rest => do
      let (v, rest) ← item rest
      readMoreItems item bound (v :: acc) rest
  | rest, _ => .error (.missing rest)

def readItems (item : Reader Json) (cs : List Char) : Except ReadError (Json × List Char) :=
  match skipBlanks cs with
  | ']' :: rest => .ok (array [], rest)
  | [] => .error .unexpectedEnd
  | rest => do
    let (v, rest) ← item rest
    readMoreItems item rest.length [v] rest

def readMember (item : Reader Json) (cs : List Char) :
    Except ReadError ((String × Json) × List Char) :=
  match skipBlanks cs with
  | '"' :: rest => do
    let (key, rest) ← readString rest
    match skipBlanks rest with
    | ':' :: rest =>
      let (v, rest) ← item rest
      return ((key, v), rest)
    | rest => .error (.missing rest)
  | rest => .error (.missing rest)

/-- The members of an object after the first, up to and with the closing brace. -/
def readMoreMembers (item : Reader Json) (bound : Nat) (acc : List (String × Json))
    (cs : List Char) : Except ReadError (Json × List Char) :=
  match skipBlanks cs, bound with
  | '\x7d' :: rest, _ => .ok (ofMembers acc.reverse, rest)
  | ',' :: rest, bound + 1 => do
    let (m, rest) ← readMember item rest
    readMoreMembers item bound (m :: acc) rest
  | rest, _ => .error (.missing rest)

def readMembers (item : Reader Json) (cs : List Char) : Except ReadError (Json × List Char) :=
  match skipBlanks cs with
  | '\x7d' :: rest => .ok (object [], rest)
  | rest => do
    let (m, rest) ← readMember item rest
    readMoreMembers item rest.length [m] rest

/-! ## Values -/

/-- Reads one value in which arrays and objects are nested at most `depth` deep. -/
def readValue (depth : Nat) (cs : List Char) : Except ReadError (Json × List Char) :=
  match skipBlanks cs, depth with
  | 'n' :: rest, _ => readLiteral null ['u', 'l', 'l'] rest
  | 't' :: rest, _ => readLiteral (bool true) ['r', 'u', 'e'] rest
  | 'f' :: rest, _ => readLiteral (bool false) ['a', 'l', 's', 'e'] rest
  | '"' :: rest, _ => do
    let (s, rest) ← readString rest
    return (string s, rest)
  | '[' :: rest, depth + 1 => readItems (readValue depth) rest
  | '\x7b' :: rest, depth + 1 => readMembers (readValue depth) rest
  | c :: rest, _ =>
    if c.isDigit || c == '-' then do
      let (n, rest) ← readNumber (c :: rest)
      return (number n, rest)
    else .error .malformed
  | [], _ => .error .unexpectedEnd

/-- Reads a text that is one value nested at most `depth` deep. -/
def readNested (depth : Nat) (text : String) : Except ReadError Json := do
  let (v, rest) ← readValue depth text.toList
  if (skipBlanks rest).isEmpty then return v else .error .malformed

def read (text : String) : Except ReadError Json :=
  readNested 127 text

end JsonRecords.Json
