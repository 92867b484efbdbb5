import JsonRecords.Record.Value

/-!
# Binding

`Shape.bind` turns a JSON value into a bound value.  It never fails: where the value has not the
form its shape asks for, the value stays raw.  Each key of an object is bound by the shape that the
record type has for it; `RecordType.expose` then chooses the fields of the record.  An open record
has all keys of the object in their order.  A closed one has the declared fields in the order of the
type, null where the object lacks one, and after them the other keys that match a pattern.
-/

namespace JsonRecords

/-- The object cannot be bound because it is none. -/
inductive BindError where
  | expectedObject (found : Kind)
  deriving DecidableEq, Repr

def BindError.detail : BindError → String
  | .expectedObject found => "a record must be bound from a JSON object, found " ++ found.name

def BindError.message (e : BindError) : String := "bind error: " ++ e.detail

namespace RecordType

/-- Whether a closed record has the key although it is not declared. -/
def admits (t : RecordType) (key : String) : Bool :=
  !t.isDeclared key && (t.firstMatch? key).isSome

def expose (t : RecordType) (bound : List (String × BoundValue)) : List (String × BoundValue) :=
  match t.policy with
  | .open_ => bound
  | .closed =>
    (t.fieldNames.map fun name => (name, (bound.lookup name).getD (.raw .null))) ++
      bound.filter fun e => t.admits e.1

end RecordType

mutual

def Shape.bind (s : Shape) : Json → BoundValue
  | .object ms =>
    match s.record with
    | some t => .record ⟨t, t.expose (bindMembers t ms)⟩
    | none => .raw (.object ms)
  | .array vs =>
    match s.items with
    | some item => .list (bindItems item vs)
    | none => .raw (.array vs)
  | v => .raw v

def bindMembers (t : RecordType) : List (String × Json) → List (String × BoundValue)
  | [] => []
  | (key, v) :: rest => (key, Shape.bind ((t.shapeOf? key).getD .plain) v) :: bindMembers t rest

def bindItems (s : Shape) : List Json → List BoundValue
  | [] => []
  | v :: rest => Shape.bind s v :: bindItems s rest

end

namespace RecordType

def bindMembers (t : RecordType) (ms : List (String × Json)) : Record :=
  ⟨t, t.expose (JsonRecords.bindMembers t ms)⟩

/-- Binds a whole value, which has to be an object. -/
def bind (t : RecordType) (v : Json) : Except BindError Record :=
  match v with
  | .object ms => .ok (t.bindMembers ms)
  | v => .error (.expectedObject v.kind)

end RecordType

/-! ## The part of a shape that a value uses -/

inductive Use where
  | record (t : RecordType)
  | list (items : Shape)
  | plain

def Use.name : Use → String
  | .record _ => "record"
  | .list _ => "list"
  | .plain => "scalar"

def Shape.useFor (s : Shape) : Json → Use
  | .object _ => (s.record.map .record).getD .plain
  | .array _ => (s.items.map .list).getD .plain
  | _ => .plain

end JsonRecords
