import JsonRecords.Yaml.Scalar

/-!
# Tokens

The tokens of a YAML text: its scalars, indicators and properties, and the tokens that stand for the
layout of blocks.  This module has the type and the readers of directives, anchors and tags; the
layout is read in its own module.
-/

namespace JsonRecords.Yaml

inductive Style where
  | plain | quoted | block
  deriving DecidableEq, Repr

inductive Token where
  | version (major minor : Nat)
  | tagDirective (handle lead : String)
  | documentStart | documentEnd
  | blockSequenceStart | blockMappingStart | blockEnd
  | flowSequenceStart | flowSequenceEnd | flowMappingStart | flowMappingEnd
  | blockEntry | flowEntry | key | value
  | alias (name : String)
  | anchor (name : String)
  | tag (handle suffix : String)
  | scalar (text : String) (style : Style)
  | streamEnd
  deriving DecidableEq, Repr

/-! ## Tags -/

/-- The characters of a tag; in a tag that is written out in full, or as the value of a directive,
brackets and commas too. -/
def isTagChar (full : Bool) (c : Char) : Bool :=
  isNameChar c ||
    [';', '/', '?', ':', '@', '&', '=', '+', '$', '.', '%', '!', '~', '*', '\'', '(',
      ')'].contains c ||
    (full && [',', '[', ']'].contains c)

/-- Bytes written as a percent sign and two digits are read as UTF-8. -/
def decodePercent : List Char → Option (List UInt8)
  | [] => some []
  | '%' :: a :: b :: rest => do
    let a ← hexDigit? a
    let b ← hexDigit? b
    return UInt8.ofNat (16 * a + b) :: (← decodePercent rest)
  | '%' :: _ => none
  | c :: rest => do return String.utf8EncodeChar c ++ (← decodePercent rest)

def tagText (cs : List Char) : Option String := do
  String.fromUTF8? ⟨(← decodePercent cs).toArray⟩

/-- Reads the characters of a tag; an empty one is allowed only where something came before it. -/
def readTagChars (full emptyAllowed : Bool) (c : Cursor) : Option (List Char × Cursor) :=
  let (cs, c) := c.takeWhile (isTagChar full)
  if cs.isEmpty && !emptyAllowed then none else some (cs, c)

/-- A handle: an exclamation mark, or a name between two of them, of which the second may lack. -/
def readHandle (c : Cursor) : Option (List Char × Cursor) :=
  match c.rest with
  | '!' :: _ =>
    let (name, c) := (c.skip 1).takeWhile isNameChar
    if c.rest.head? = some '!' then some ('!' :: name ++ ['!'], c.skip 1) else some ('!' :: name, c)
  | _ => none

/-- A tag with a blank after it, or a comma in a flow collection.  The tag is a handle with a
suffix, or a text of its own. -/
def readTag (inFlow : Bool) (c : Cursor) : Option (Token × Cursor) := do
  let (handle, suffix, c) ←
    match c.rest with
    | '!' :: '<' :: _ => do
      let (cs, c) ← readTagChars true false (c.skip 2)
      if c.rest.head? = some '>' then pure ("", cs, c.skip 1) else none
    | _ => do
      let (handle, c) ← readHandle c
      if 1 < handle.length ∧ handle.getLast? = some '!' then
        let (cs, c) ← readTagChars false false c
        pure (String.ofList handle, cs, c)
      else
        let (cs, c) ← readTagChars false true c
        let suffix := handle.drop 1 ++ cs
        pure (if suffix.isEmpty then ("", ['!'], c) else ("!", suffix, c))
  if startsBlank c.rest || (inFlow && c.rest.head? == some ',') then
    return (.tag handle (← tagText suffix), c)
  else none

/-! ## Anchors -/

/-- The name of an anchor or an alias after its indicator. -/
def readAnchorName (c : Cursor) : Option (String × Cursor) :=
  let (name, c) := (c.skip 1).takeWhile isNameChar
  let ended := startsBlank c.rest ||
    (c.rest.head?.map fun d => ['?', ':', ',', ']', '\x7d', '%', '@', '\x60'].contains d).getD false
  if name.isEmpty || !ended then none else some (String.ofList name, c)

/-! ## Directives -/

/-- A number of at most nine digits. -/
def readVersionNumber (c : Cursor) : Option (Nat × Cursor) :=
  let (ds, c) := c.takeWhile Char.isDigit
  if ds.isEmpty || 9 < ds.length then none
  else some (ds.foldl (fun n d => 10 * n + (d.toNat - 48)) 0, c)

def readVersion (c : Cursor) : Option (Token × Cursor) := do
  let (major, c) ← readVersionNumber (c.skipWhile isBlank)
  if c.rest.head? = some '.' then
    let (minor, c) ← readVersionNumber (c.skip 1)
    return (.version major minor, c)
  else none

def readTagDirective (c : Cursor) : Option (Token × Cursor) := do
  let (handle, c) ← readHandle (c.skipWhile isBlank)
  if handle.length ≠ 1 ∧ handle.getLast? ≠ some '!' then none
  else if !(c.rest.head?.map isBlank).getD false then none
  else
    let (cs, c) ← readTagChars true false (c.skipWhile isBlank)
    if startsBlank c.rest then return (.tagDirective (String.ofList handle) (← tagText cs), c)
    else none

/-- A directive after its percent sign, to the end of its line. -/
def readDirective (c : Cursor) : Option (Token × Cursor) := do
  let (name, c) := (c.skip 1).takeWhile isNameChar
  if !startsBlank c.rest then none
  else
    let (token, c) ← match String.ofList name with
      | "YAML" => readVersion c
      | "TAG" => readTagDirective c
      | _ => none
    return (token, ← c.finishLine)

end JsonRecords.Yaml
