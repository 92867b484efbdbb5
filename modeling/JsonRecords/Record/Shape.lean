import JsonRecords.Json.Value
import JsonRecords.Pattern.Basic

/-!
# Record types and shapes

A `RecordType` says how objects become records: which fields are declared, which patterns the other
keys are held against, and whether further keys are allowed.  A `Shape` says what becomes of a value
at some place: an object becomes a record if the shape has a record type, an array becomes a list if
the shape has a shape for its items, and every other value stays as it is.

A record type is open if a record of it takes over all keys of an object, and closed if it has the
declared fields and the keys that match a pattern only.  `RecordType.shapeOf?` is the shape of a
key: that of the declared field, else that of the first pattern the key matches.
-/

namespace JsonRecords

mutual

structure Shape where
  record : Option RecordType
  items : Option Shape

structure RecordType where
  allowsAdditional : Bool
  additionalExplicit : Bool
  fields : List (String × Shape)
  patterns : List (Pattern × Shape)

end

inductive FieldPolicy where
  | open_ | closed
  deriving DecidableEq, Repr

def FieldPolicy.name : FieldPolicy → String
  | .open_ => "open"
  | .closed => "closed"

/-- The shape that leaves every value as it is. -/
def Shape.plain : Shape := ⟨none, none⟩

namespace RecordType

/-- A record type with patterns is open only if the schema says so. -/
def policy (t : RecordType) : FieldPolicy :=
  if t.allowsAdditional && (t.patterns.isEmpty || t.additionalExplicit) then .open_ else .closed

def fieldNames (t : RecordType) : List String := t.fields.map Prod.fst

def patternTexts (t : RecordType) : List String := t.patterns.map (·.1.text)

def isDeclared (t : RecordType) (name : String) : Bool := t.fieldNames.contains name

def fieldShape? (t : RecordType) (name : String) : Option Shape := t.fields.lookup name

/-- The patterns that a key matches, in order. -/
def matching (t : RecordType) (key : String) : List (Pattern × Shape) :=
  t.patterns.filter fun p => p.1.accepts key

def firstMatch? (t : RecordType) (key : String) : Option (Pattern × Shape) :=
  t.patterns.find? fun p => p.1.accepts key

def shapeOf? (t : RecordType) (key : String) : Option Shape :=
  (t.fieldShape? key).or ((t.firstMatch? key).map Prod.snd)

/-- The shape of a pattern by its text. -/
def patternShape? (t : RecordType) (text : String) : Option Shape :=
  (t.patterns.find? fun p => p.1.text == text).map Prod.snd

end RecordType

/-! ## Equality

Declared fields may come in any order, patterns may not. -/

mutual

def Shape.same : Shape → Shape → Bool
  | ⟨r, i⟩, ⟨r', i'⟩ => sameRecord r r' && sameItems i i'

def sameRecord : Option RecordType → Option RecordType → Bool
  | none, none => true
  | some t, some t' => t.same t'
  | _, _ => false

def sameItems : Option Shape → Option Shape → Bool
  | none, none => true
  | some s, some s' => s.same s'
  | _, _ => false

def RecordType.same : RecordType → RecordType → Bool
  | ⟨a, e, fs, ps⟩, ⟨a', e', fs', ps'⟩ =>
    a == a' && e == e' && fs.length == fs'.length && sameFields fs fs' && samePatterns ps ps'

/-- Every field on the left has the same shape on the right. -/
def sameFields : List (String × Shape) → List (String × Shape) → Bool
  | [], _ => true
  | (name, s) :: rest, fs =>
    (match fs.lookup name with
      | some s' => s.same s'
      | none => false) && sameFields rest fs

def samePatterns : List (Pattern × Shape) → List (Pattern × Shape) → Bool
  | [], [] => true
  | (p, s) :: rest, (p', s') :: rest' => p.text == p'.text && s.same s' && samePatterns rest rest'
  | _, _ => false

end

end JsonRecords
