import JsonRecords.Json.Value
import JsonRecords.Text.Quoted

/-!
# Type sets

The keyword `type` of a schema names one type or lists several.  Either way it stands for a set of
types: what is no name of a type adds nothing, and neither order nor repetition counts.

`TypeSet.ofKeyword` reads the keyword, and `TypeSet.names` lists a set in the canonical order, the
order of `TypeName.all`.
-/

namespace JsonRecords

inductive TypeName where
  | object | array | string | number | integer | boolean | null
  deriving DecidableEq, Repr

namespace TypeName

def all : List TypeName := [object, array, string, number, integer, boolean, null]

/-- The spelling of a type in a schema. -/
def text : TypeName → String
  | object => "object"
  | array => "array"
  | string => "string"
  | number => "number"
  | integer => "integer"
  | boolean => "boolean"
  | null => "null"

/-- The type that a text names. -/
def ofText? : String → Option TypeName
  | "object" => some object
  | "array" => some array
  | "string" => some string
  | "number" => some number
  | "integer" => some integer
  | "boolean" => some boolean
  | "null" => some null
  | _ => none

theorem ofText?_text (t : TypeName) : ofText? t.text = some t := by
  cases t <;> rfl

/-- What is read as a type is the spelling of that type. -/
theorem text_of_ofText? {s : String} {t : TypeName} (h : ofText? s = some t) : s = t.text := by
  unfold ofText? at h
  split at h <;> cases h <;> rfl

/-- A type has one spelling. -/
theorem ofText?_eq_some_iff {s : String} {t : TypeName} : ofText? s = some t ↔ s = t.text := by
  constructor
  · exact text_of_ofText?
  · rintro rfl
    exact ofText?_text t

theorem text_inj {t t' : TypeName} : t.text = t'.text ↔ t = t' := by
  rw [← ofText?_eq_some_iff, ofText?_text, Option.some_inj]

theorem mem_all (t : TypeName) : t ∈ all := by
  cases t <;> decide

/-- The name of a type in the serialised form. -/
def serialName : TypeName → String
  | object => "object"
  | array => "array"
  | string => "string"
  | number => "number"
  | integer => "integer"
  | boolean => "boolean"
  | null => "null"

def ofSerialName? (s : String) : Option TypeName :=
  all.find? (·.serialName == s)

/-- The serialised form has the spellings of the schema. -/
theorem serialName_eq_text (t : TypeName) : t.serialName = t.text := by
  cases t <;> rfl

theorem ofSerialName?_eq_ofText? (s : String) : ofSerialName? s = ofText? s := by
  cases h : ofText? s with
  | none =>
    refine List.find?_eq_none.2 fun t _ hname => ?_
    have hs : s = t.text := (eq_of_beq hname).symm.trans (serialName_eq_text t)
    rw [ofText?_eq_some_iff.2 hs] at h
    cases h
  | some t =>
    obtain rfl := text_of_ofText? h
    cases t <;> decide

end TypeName

/-- The name is no name of a type. -/
structure UnknownTypeName where
  name : String
  deriving DecidableEq, Repr

def UnknownTypeName.message (e : UnknownTypeName) : String :=
  "unknown JSON type name " ++ Quoted.encode e.name

def TypeName.parse (s : String) : Except UnknownTypeName TypeName :=
  match TypeName.ofText? s with
  | some t => .ok t
  | none => .error ⟨s⟩

structure TypeSet where
  contains : TypeName → Bool

namespace TypeSet

@[ext] theorem ext {s t : TypeSet} (h : ∀ name, s.contains name = t.contains name) : s = t := by
  cases s
  cases t
  simpa using funext h

def empty : TypeSet := ⟨fun _ => false⟩

def ofList (names : List TypeName) : TypeSet := ⟨fun t => names.contains t⟩

/-- The members in canonical order. -/
def toList (s : TypeSet) : List TypeName := TypeName.all.filter s.contains

def names (s : TypeSet) : List String := s.toList.map TypeName.text

def size (s : TypeSet) : Nat := s.toList.length

def isEmpty (s : TypeSet) : Bool := s.toList.isEmpty

/-! ## Reading the keyword -/

/-- The strings that a keyword consists of: itself or its members. -/
def keywordTexts : Json → List String
  | .string s => [s]
  | .array items => items.filterMap fun
    | .string s => some s
    | _ => none
  | _ => []

def ofKeyword (keyword : Json) : TypeSet :=
  ofList ((keywordTexts keyword).filterMap TypeName.ofText?)

/-- The type set of a schema node; nodes without the keyword have none. -/
def ofSchema (schema : Json) : TypeSet :=
  ((schema.get? "type").map ofKeyword).getD empty

theorem ofSchema_of_get? {schema keyword : Json} (h : schema.get? "type" = some keyword) :
    ofSchema schema = ofKeyword keyword := by
  rw [ofSchema, h]
  rfl

theorem ofSchema_of_get?_eq_none {schema : Json} (h : schema.get? "type" = none) :
    ofSchema schema = empty := by
  rw [ofSchema, h]
  rfl

/-- A node that is no object has no keywords. -/
theorem ofSchema_of_not_isObject {schema : Json} (h : schema.isObject = false) :
    ofSchema schema = empty := by
  have htypes : schema.get? "type" = none := by
    cases schema with
    | object ms => cases h
    | _ => rfl
  exact ofSchema_of_get?_eq_none htypes

/-- Only the keyword counts. -/
theorem ofSchema_congr {schema schema' : Json} (h : schema.get? "type" = schema'.get? "type") :
    ofSchema schema = ofSchema schema' := by
  rw [ofSchema, ofSchema, h]

/-- A type is in the set of a node exactly if the node has the keyword and the keyword names it. -/
theorem contains_ofSchema_iff {schema : Json} {t : TypeName} :
    (ofSchema schema).contains t = true ↔
      ∃ keyword, schema.get? "type" = some keyword ∧ (ofKeyword keyword).contains t = true := by
  cases h : schema.get? "type" with
  | none => simp [ofSchema_of_get?_eq_none h, empty]
  | some keyword => simp [ofSchema_of_get? h]

/-! ## The serialised form -/

/-- The names in canonical order. -/
def encode (s : TypeSet) : Json := .array (s.toList.map fun t => .string t.serialName)

theorem encode_eq (s : TypeSet) : s.encode = .array (s.names.map .string) := by
  simp [encode, names, TypeName.serialName_eq_text]

/-- A member of the serialised form: a name, or a name with nothing as its content. -/
def decodeMember : Json → Option TypeName
  | .string s => TypeName.ofSerialName? s
  | .object [(key, .null)] => TypeName.ofSerialName? key
  | _ => none

theorem decodeMember_serialName (t : TypeName) : decodeMember (.string t.serialName) = some t := by
  rw [decodeMember, TypeName.ofSerialName?_eq_ofText?, TypeName.serialName_eq_text,
    TypeName.ofText?_text]

def decode : Json → Option TypeSet
  | .array items => (items.mapM decodeMember).map ofList
  | _ => none

@[simp] theorem contains_ofList (names : List TypeName) (t : TypeName) :
    (ofList names).contains t = names.contains t := rfl

theorem mem_toList {s : TypeSet} {t : TypeName} : t ∈ s.toList ↔ s.contains t := by
  simp [toList, TypeName.mem_all]

end TypeSet

end JsonRecords
