import JsonRecords.Json.Reader
import JsonRecords.Files.Store
import JsonRecords.Yaml.Document

/-!
# Loading documents

A document is read as YAML if its file has the extension `yaml` or `yml`, and as JSON otherwise.
-/

namespace JsonRecords

inductive DocumentError where
  | read (path : String) (cause : FileError)
  | parseJson (path : String) (cause : Json.ReadError)
  | parseYaml (path : String)
  deriving DecidableEq, Repr

/-- What failed and, below it, why. -/
def DocumentError.chain : DocumentError → List String
  | .read path cause => ["failed to read document " ++ path, cause.message]
  | .parseJson path cause => ["failed to parse " ++ path ++ " as JSON", cause.message]
  | .parseYaml path => ["failed to parse " ++ path ++ " as YAML", "<yaml>"]

def isYamlPath (path : String) : Bool :=
  match Path.extension? path with
  | some "yaml" => true
  | some "yml" => true
  | _ => false

def loadDocument (store : Store) (path : String) : Except DocumentError Json :=
  match store.read path with
  | .error cause => .error (.read path cause)
  | .ok content =>
    if isYamlPath path then
      match Yaml.read content with
      | some v => .ok v
      | none => .error (.parseYaml path)
    else
      match Json.read content with
      | .ok v => .ok v
      | .error cause => .error (.parseJson path cause)

end JsonRecords
