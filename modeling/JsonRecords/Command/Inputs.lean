import JsonRecords.Command.Run

/-!
# The files of a command

A command knows the files it is given by name, and meets others in references while it compiles.
`neededPaths` lists both as far as a store shows them: the paths of the command line, and those that
the references of any document of the store lead to.  Once a store holds what is at all these paths,
it holds every file the command asks for.
-/

namespace JsonRecords

namespace Json

mutual

/-- The texts of all references at any depth. -/
def references : Json → List String
  | array items => referencesOfItems items
  | object ms => referencesOfMembers ms
  | _ => []

def referencesOfItems : List Json → List String
  | [] => []
  | item :: items => references item ++ referencesOfItems items

def referencesOfMembers : List (String × Json) → List String
  | [] => []
  | ("$ref", string text) :: ms => text :: referencesOfMembers ms
  | (_, v) :: ms => references v ++ referencesOfMembers ms

end

end Json

/-- The paths of the other files that references in the document lead to. -/
def Context.linkedPaths (ctx : Context) : List String :=
  (ctx.document.references.map Reference.parse).filterMap fun r =>
    if r.isLocal then none else some (Path.join ctx.baseDir r.file)

namespace Command

def Action.paths (root : String) : Action → List String
  | .inspect schema => [Path.join root schema]
  | .bind schema document _ => [Path.join root schema, document]

def neededPaths (store : Store) (environment : Option String) (args : List String) : List String :=
  match Request.parse args with
  | .error _ => []
  | .ok request =>
    request.action.paths (request.rootIn store environment) ++
      store.documents.flatMap Context.linkedPaths

end Command

end JsonRecords
