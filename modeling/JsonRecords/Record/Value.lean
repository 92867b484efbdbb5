import JsonRecords.Record.Shape

/-!
# Bound values

What a JSON value becomes when it is bound to a shape: an object becomes a record, an array a list,
and everything a shape says nothing about stays a raw value.  A record keeps the type it was bound
to and has its own list of fields, which may differ between two records of one type.

`BoundValue.toJson` gives the value back as JSON, without what binding dropped.
-/

namespace JsonRecords

mutual

inductive BoundValue where
  | record (r : Record)
  | list (items : List BoundValue)
  | raw (value : Json)

structure Record where
  type : RecordType
  fields : List (String × BoundValue)

end

/-- The kinds of bound values. -/
inductive BoundKind where
  | record | list
  | raw (kind : Kind)
  deriving DecidableEq, Repr

def BoundKind.name : BoundKind → String
  | .record => "record"
  | .list => "list"
  | .raw kind => kind.name

def BoundValue.kind : BoundValue → BoundKind
  | .record _ => .record
  | .list _ => .list
  | .raw v => .raw v.kind

/-! ## Back to JSON -/

mutual

def BoundValue.toJson : BoundValue → Json
  | .record r => r.toJson
  | .list items => .array (toJsonItems items)
  | .raw v => v

def Record.toJson : Record → Json
  | ⟨_, fields⟩ => .object (toJsonFields fields)

def toJsonItems : List BoundValue → List Json
  | [] => []
  | b :: rest => b.toJson :: toJsonItems rest

def toJsonFields : List (String × BoundValue) → List (String × Json)
  | [] => []
  | (name, b) :: rest => (name, b.toJson) :: toJsonFields rest

end

/-! ## Fields -/

namespace Record

def fieldNames (r : Record) : List String := r.fields.map Prod.fst

def get? (r : Record) (name : String) : Option BoundValue := r.fields.lookup name

def hasField (r : Record) (name : String) : Bool := r.fieldNames.contains name

end Record

/-! ## Equality

Fields may come in any order; the types of two records have to be equal too. -/

mutual

def BoundValue.same : BoundValue → BoundValue → Bool
  | .record r, .record r' => r.same r'
  | .list xs, .list ys => sameBoundItems xs ys
  | .raw v, .raw w => v.same w
  | _, _ => false

def Record.same : Record → Record → Bool
  | ⟨t, fs⟩, ⟨t', fs'⟩ => fs.length == fs'.length && sameBoundFields fs fs' && t.same t'

def sameBoundItems : List BoundValue → List BoundValue → Bool
  | [], [] => true
  | x :: xs, y :: ys => x.same y && sameBoundItems xs ys
  | _, _ => false

/-- Every field on the left has the same value on the right. -/
def sameBoundFields : List (String × BoundValue) → List (String × BoundValue) → Bool
  | [], _ => true
  | (name, b) :: rest, fs =>
    (match fs.lookup name with
      | some c => b.same c
      | none => false) && sameBoundFields rest fs

end

end JsonRecords
