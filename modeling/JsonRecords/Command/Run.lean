import JsonRecords.Command.Arguments
import JsonRecords.Command.Document
import JsonRecords.Json.Printer
import JsonRecords.Record.Binding
import JsonRecords.Record.Compiler
import JsonRecords.Record.Lookup
import JsonRecords.Record.Summary

/-!
# The commands

`inspect` compiles a schema and describes its record type.  `bindDocument` compiles a schema, loads
a document, binds it, and gives back the record or the value at a path in it; the first of these
steps that fails decides the error.  `run` is the whole program on a store of files: its exit code
and what it prints.
-/

namespace JsonRecords.Command

inductive CommandError where
  | schema (path : String) (e : SchemaError)
  | document (e : DocumentError)
  | bind (path : String) (e : BindError)
  | field (path : String) (e : FieldError)
  deriving DecidableEq, Repr

/-- What failed, outermost first. -/
def CommandError.chain : CommandError → List String
  | .schema path e =>
    ["failed to compile schema " ++ path, e.message, e.detail] ++ e.cause?.toList
  | .document e => e.chain
  | .bind path e => ["cannot bind " ++ path, e.detail]
  | .field path e => ["no value at " ++ Quoted.encode path, e.detail]

/-- The directory that schema paths start from, unless one is given: that of the environment if it
names one, else the working directory. -/
def defaultRoot (store : Store) (environment : Option String) : String :=
  match environment with
  | some "" => store.workDir
  | some dir => dir
  | none => store.workDir

def compileSchema (store : Store) (root schema : String) : Except CommandError RecordType :=
  match compileFile store root schema with
  | .ok t => .ok t
  | .error e => .error (.schema schema e)

def inspect (store : Store) (root schema : String) : Except CommandError Json := do
  return (← compileSchema store root schema).summary

/-- The value of a record that the output shows. -/
def select (record : Record) : Option String → Except CommandError Json
  | none => .ok record.toJson
  | some path =>
    match record.lookup path with
    | .ok b => .ok b.toJson
    | .error e => .error (.field path e)

def bindDocument (store : Store) (root schema document : String) (field : Option String) :
    Except CommandError Json := do
  let t ← compileSchema store root schema
  match loadDocument store document with
  | .error e => .error (.document e)
  | .ok v =>
    match t.bind v with
    | .error e => .error (.bind document e)
    | .ok record => select record field

/-! ## The program -/

structure Outcome where
  exitCode : Nat
  output : String
  /-- What went wrong, outermost first. -/
  faults : List String := []
  deriving DecidableEq, Repr

def versionText : String := "schemarec 0.1.0\n"

def helpText : String :=
  "Usage: schemarec [OPTIONS] <COMMAND>\n\n" ++
  "Commands:\n" ++
  "  inspect SCHEMA                        describe the record type of a schema\n" ++
  "  bind SCHEMA DOCUMENT [--field PATH]   bind a document, or show one value of it\n\n" ++
  "Options:\n" ++
  "  -v, --verbose   say more\n" ++
  "  --root DIR      directory that schema paths start from\n" ++
  "  -h, --help      show this text\n" ++
  "  -V, --version   show the version\n"

def perform (store : Store) (root : String) : Action → Except CommandError Json
  | .inspect schema => inspect store root schema
  | .bind schema document field => bindDocument store root schema document field

/-- The directory that schema paths start from. -/
def Request.rootIn (request : Request) (store : Store) (environment : Option String) : String :=
  request.root.getD (defaultRoot store environment)

def run (store : Store) (environment : Option String) (args : List String) : Outcome :=
  match Request.parse args with
  | .error .usage => { exitCode := 2, output := "", faults := ["wrong usage, see --help"] }
  | .error .version => { exitCode := 0, output := versionText }
  | .error .help => { exitCode := 0, output := helpText }
  | .ok request =>
    match perform store (request.rootIn store environment) request.action with
    | .ok v => { exitCode := 0, output := v.pretty ++ "\n" }
    | .error e => { exitCode := 1, output := "", faults := e.chain }

end JsonRecords.Command
