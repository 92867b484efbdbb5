import JsonRecords.Record.Value
import JsonRecords.Text.Quoted

/-!
# Looking values up by path

A path is a list of segments set apart by points.  The first names a field of a record; each further
one names a field of the record, or gives an index into the list, that the path has reached.  Raw
values have nothing inside.
-/

namespace JsonRecords

inductive FieldError where
  | noSuchField (field : String) (available : List String)
  | indexOutOfBounds (index length : Nat)
  | notTraversable (segment : String) (kind : BoundKind)
  deriving DecidableEq, Repr

def FieldError.detail : FieldError → String
  | .noSuchField field available =>
    "no field " ++ Quoted.encode field ++ " on record (available: " ++
      ", ".intercalate available ++ ")"
  | .indexOutOfBounds index length =>
    "index " ++ toString index ++ " out of bounds for list of length " ++ toString length
  | .notTraversable segment kind =>
    "cannot look up " ++ Quoted.encode segment ++ " in a " ++ kind.name ++ " value"

def FieldError.message (e : FieldError) : String := "field access error: " ++ e.detail

/-! ## Indices -/

def digitsValue? (ds : List Char) : Option Nat :=
  if ds.isEmpty || ds.any (!·.isDigit) then none
  else some (ds.foldl (fun n d => 10 * n + (d.toNat - 48)) 0)

/-- The index a segment stands for: digits, with a plus sign in front if need be, for a number of 64
bits. -/
def readIndex? (segment : String) : Option Nat := do
  let n ← match segment.toList with
    | '+' :: ds => digitsValue? ds
    | ds => digitsValue? ds
  if n < 0x10000000000000000 then some n else none

/-! ## Paths -/

def Record.field (r : Record) (name : String) : Except FieldError BoundValue :=
  match r.get? name with
  | some b => .ok b
  | none => .error (.noSuchField name r.fieldNames)

def BoundValue.step (b : BoundValue) (segment : String) : Except FieldError BoundValue :=
  match b with
  | .record r => r.field segment
  | .list items =>
    match readIndex? segment with
    | none => .error (.notTraversable segment .list)
    | some index =>
      match items[index]? with
      | some item => .ok item
      | none => .error (.indexOutOfBounds index items.length)
  | .raw v => .error (.notTraversable segment (.raw v.kind))

/-- The pieces of a path between its points; there is always a first. -/
def pathSegments (path : String) : List String :=
  (path.toList.splitOn '.').map String.ofList

def Record.lookup (r : Record) (path : String) : Except FieldError BoundValue :=
  match pathSegments path with
  | [] => r.field path
  | first :: rest => do rest.foldlM BoundValue.step (← r.field first)

/-! ## Reading raw values -/

namespace BoundValue

def raw? : BoundValue → Option Json
  | raw v => some v
  | _ => none

def string? (b : BoundValue) : Option String :=
  match b with
  | raw (.string s) => some s
  | _ => none

def bool? (b : BoundValue) : Option Bool :=
  match b with
  | raw (.bool v) => some v
  | _ => none

/-- The value as an integer between two bounds; a binary64 number is none, whatever its value. -/
def integer? (least most : Int) (b : BoundValue) : Option Int :=
  match b with
  | raw (.number (.integer n)) => if least ≤ n ∧ n ≤ most then some n else none
  | _ => none

def signed? (b : BoundValue) : Option Int :=
  b.integer? (-0x8000000000000000) 0x7FFFFFFFFFFFFFFF

def unsigned? (b : BoundValue) : Option Int := b.integer? 0 0xFFFFFFFFFFFFFFFF

/-- The value as a binary64 number, an integer rounded to the nearest. -/
def float? (b : BoundValue) : Option Binary64 :=
  match b with
  | raw (.number (.float x)) => some x
  | raw (.number (.integer n)) => Binary64.ofRatio (n < 0) n.natAbs 1
  | _ => none

def isNull (b : BoundValue) : Bool :=
  match b with
  | raw .null => true
  | _ => false

def length? (b : BoundValue) : Option Nat :=
  match b with
  | list items => some items.length
  | _ => none

def fieldCount? (b : BoundValue) : Option Nat :=
  match b with
  | record r => some r.fields.length
  | _ => none

end BoundValue

end JsonRecords
