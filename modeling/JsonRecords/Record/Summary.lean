import JsonRecords.Record.Shape

/-!
# Record types as JSON

`RecordType.summary` describes a record type for readers: its policy, whether it allows additional
fields, and its fields and patterns, collected by name and by text, with what is nested in them.
`RecordType.toJson` is the serialised form, which lists the patterns and states both flags.
-/

namespace JsonRecords

/-- The members of an object that are there only sometimes. -/
def optionalMember (key : String) (v : Option Json) : List (String × Json) :=
  match v with
  | some v => [(key, v)]
  | none => []

mutual

def Shape.summary : Shape → Json
  | ⟨record, items⟩ =>
    .object (optionalMember "record" (summaryOfRecord record) ++
      optionalMember "list" (summaryOfItems items))

def summaryOfRecord : Option RecordType → Option Json
  | some t => some t.summary
  | none => none

def summaryOfItems : Option Shape → Option Json
  | some s => some (.object [("items", s.summary)])
  | none => none

def RecordType.summary : RecordType → Json
  | ⟨allowsAdditional, additionalExplicit, fields, patterns⟩ =>
    .object
      [("policy", .string
          (RecordType.policy ⟨allowsAdditional, additionalExplicit, fields, patterns⟩).name),
       ("allows_additional_fields", .bool allowsAdditional),
       ("fields", .ofMembers (summaryOfFields fields)),
       ("patterns", .ofMembers (summaryOfPatterns patterns))]

def summaryOfFields : List (String × Shape) → List (String × Json)
  | [] => []
  | (name, s) :: rest => (name, s.summary) :: summaryOfFields rest

def summaryOfPatterns : List (Pattern × Shape) → List (String × Json)
  | [] => []
  | (p, s) :: rest => (p.text, s.summary) :: summaryOfPatterns rest

end

mutual

/-- The members that stand for a shape in the serialised form. -/
def Shape.jsonMembers : Shape → List (String × Json)
  | ⟨record, items⟩ =>
    optionalMember "record" (jsonOfRecord record) ++ optionalMember "list" (jsonOfItems items)

def jsonOfRecord : Option RecordType → Option Json
  | some t => some t.toJson
  | none => none

def jsonOfItems : Option Shape → Option Json
  | some s => some (.object [("items", .object s.jsonMembers)])
  | none => none

def RecordType.toJson : RecordType → Json
  | ⟨allowsAdditional, additionalExplicit, fields, patterns⟩ =>
    .object
      [("fields", .object (jsonOfFields fields)),
       ("allows_additional_fields", .bool allowsAdditional),
       ("additional_fields_explicit", .bool additionalExplicit),
       ("patterns", .array (jsonOfPatterns patterns))]

def jsonOfFields : List (String × Shape) → List (String × Json)
  | [] => []
  | (name, s) :: rest => (name, .object s.jsonMembers) :: jsonOfFields rest

def jsonOfPatterns : List (Pattern × Shape) → List Json
  | [] => []
  | (p, s) :: rest => .object (("pattern", .string p.text) :: s.jsonMembers) :: jsonOfPatterns rest

end

end JsonRecords
