import JsonRecords.Record.Shape
import JsonRecords.Schema.Error

/-!
# The shape a schema node stands for

What a node of a schema says about values, leaving open how references are followed: `shapeOf`
descends through the keywords and hands each `$ref` to `follow`.  A node that is no object says
nothing, a node with a `$ref` says what the reference leads to, and any other node stands for a
record if its types include `object` and for a list if they include `array`.

The effects are those of following references, so the definitions are stated for any monad in which
a schema error can be raised.  Fields come before patterns and both in document order, which decides
the error that is reported when there are several.
-/

namespace JsonRecords

namespace Json

/-- The members of a keyword whose value is an object; any other value has none. -/
def keywordMembers (schema : Json) (keyword : String) : List (String × Json) :=
  ((schema.get? keyword).map members).getD []

theorem sizeOf_lt_of_mem_keywordMembers {schema : Json} {keyword : String} {e : String × Json}
    (h : e ∈ schema.keywordMembers keyword) : sizeOf e.2 < sizeOf schema := by
  unfold keywordMembers at h
  cases hk : schema.get? keyword with
  | none => simp [hk] at h
  | some v =>
    rw [hk] at h
    exact Nat.lt_trans (sizeOf_lt_of_mem_members h) (sizeOf_lt_of_get?_eq_some hk)

end Json

/-- Additional fields are refused by a literal `false` alone. -/
def allowsAdditional (schema : Json) : Bool :=
  match schema.get? "additionalProperties" with
  | some (.bool false) => false
  | _ => true

def statesAdditional (schema : Json) : Bool :=
  (schema.get? "additionalProperties").isSome

section

variable {m : Type → Type} [Monad m] [MonadExceptOf SchemaError m]

def readPattern (text : String) : m Pattern :=
  match Pattern.ofText? text with
  | some p => pure p
  | none => throw (.invalid (.invalidPattern text))

/-- The record type of an object schema, given the shapes of the nodes below it. -/
def recordTypeWith (schema : Json) (below : (node : Json) → sizeOf node < sizeOf schema → m Shape) :
    m RecordType := do
  let fields ← (schema.keywordMembers "properties").attach.mapM fun ⟨e, he⟩ => do
    return (e.1, ← below e.2 (Json.sizeOf_lt_of_mem_keywordMembers he))
  let patterns ← (schema.keywordMembers "patternProperties").attach.mapM fun ⟨e, he⟩ => do
    let p ← readPattern e.1
    return (p, ← below e.2 (Json.sizeOf_lt_of_mem_keywordMembers he))
  return {
    allowsAdditional := allowsAdditional schema
    additionalExplicit := statesAdditional schema
    fields
    patterns }

/-- The shape of the items of an array schema. -/
def itemsWith (schema : Json) (below : (node : Json) → sizeOf node < sizeOf schema → m Shape) :
    m Shape :=
  match h : schema.get? "items" with
  | some node => below node (Json.sizeOf_lt_of_get?_eq_some h)
  | none => pure .plain

/-- The shape of a node, its references followed by `follow`. -/
def shapeOf (follow : String → m Shape) (schema : Json) : m Shape :=
  if schema.isObject then
    match schema.get? "$ref" with
    | some (.string text) => follow text
    | some v => throw (.invalid (.malformedReference v.kind))
    | none => do
      let types := TypeSet.ofSchema schema
      let record ← if types.contains .object then
          some <$> recordTypeWith schema fun node _ => shapeOf follow node
        else pure none
      let items ← if types.contains .array then
          some <$> itemsWith schema fun node _ => shapeOf follow node
        else pure none
      return { record, items }
  else pure .plain
termination_by sizeOf schema

/-- The record type of a node taken as an object schema, whatever its types and without regard to a
`$ref` on it. -/
def recordTypeOf (follow : String → m Shape) (schema : Json) : m RecordType :=
  recordTypeWith schema fun node _ => shapeOf follow node

def itemsOf (follow : String → m Shape) (schema : Json) : m Shape :=
  itemsWith schema fun node _ => shapeOf follow node

/-- The record type of a whole document, which has to be the schema of a record. -/
def rootTypeOf (follow : String → m Shape) (ctx : Context) : m RecordType := do
  let types := TypeSet.ofSchema ctx.document
  if !types.contains .object then throw (.invalid (.rootNotObject ctx.label types.names))
  else if ((ctx.document.get? "properties").map (!·.isObject)).getD false then
    throw (.invalid (.propertiesNotMap ctx.label))
  else recordTypeOf follow ctx.document

end

end JsonRecords
