import JsonRecords.Schema.Target
import JsonRecords.Schema.TypeSet

/-!
# What can be wrong with a schema

A schema fails to compile because a file cannot be loaded, because a document is no schema of a
record, or because a reference leads nowhere or in a circle.  `SchemaError.detail` says what is
wrong and `SchemaError.message` says it behind the name of the group the error belongs to.
-/

namespace JsonRecords

inductive InvalidSchema where
  | rootNotObject (label : String) (found : List String)
  | propertiesNotMap (label : String)
  /-- Why the text is no pattern is not told: the explanation is the pattern engine's own, differs
  from one engine to the next, and has a mark in its place in the message. -/
  | invalidPattern (pattern : String)
  | malformedReference (found : Kind)
  deriving DecidableEq, Repr

inductive ReferenceError where
  | notFound (reference pointer : String)
  /-- The targets on the way from a target back to it. -/
  | cyclic (chain : List Target)
  deriving DecidableEq, Repr

inductive SchemaError where
  | load (e : LoadError)
  | invalid (e : InvalidSchema)
  | reference (e : ReferenceError)
  deriving DecidableEq, Repr

/-! ## Messages -/

def quotedList (names : List String) : String :=
  "[" ++ ", ".intercalate (names.map Quoted.encode) ++ "]"

def InvalidSchema.detail : InvalidSchema → String
  | .rootNotObject label found =>
    "top-level of schema " ++ label ++ " must be type: object (found type set " ++
      quotedList found ++ ")"
  | .propertiesNotMap label =>
    "schema " ++ label ++ " is type 'object' but 'properties' is not a map"
  | .invalidPattern pattern =>
    "invalid patternProperties pattern " ++ Quoted.encode pattern ++ ": <regex>"
  | .malformedReference found => "$ref must be a string, found " ++ found.name

def ReferenceError.detail : ReferenceError → String
  | .notFound reference pointer =>
    "unable to find schema at $ref path <" ++ pointer ++ "> (reference " ++
      Quoted.encode reference ++ ")"
  | .cyclic chain => "cyclic $ref chain: " ++ " -> ".intercalate (chain.map Target.text)

namespace SchemaError

def detail : SchemaError → String
  | load e => e.message
  | invalid e => e.detail
  | reference e => e.detail

def message (e : SchemaError) : String :=
  (match e with
    | load _ => "schema load error: "
    | invalid _ => "invalid schema: "
    | reference _ => "reference error: ") ++ e.detail

/-- The fault below the error, if there is one. -/
def cause? : SchemaError → Option String
  | load e => some e.cause
  | _ => none

end SchemaError

end JsonRecords
