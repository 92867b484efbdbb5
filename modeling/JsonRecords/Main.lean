import JsonRecords.Command.Inputs

/-!
# The program

Brings the files of a command from the file system into a store, a round of needed paths at a time,
and shows the outcome of the command on that store.
-/

namespace JsonRecords.Command

/-- Takes what is met on the way along the steps into the store.  A link is kept with the place it
really leads to. -/
partial def fetchSteps (here : List String) (store : Store) : List String → IO Store
  | [] => return store
  | "." :: rest => fetchSteps here store rest
  | ".." :: rest => fetchSteps here.dropLast store rest
  | step :: rest => do
    let names := here ++ [step]
    let file := (← IO.currentDir) / AbsolutePath.text ⟨names⟩
    match ← file.symlinkMetadata.toBaseIO with
    | .error _ => return store
    | .ok status =>
      match status.type with
      | .dir => fetchSteps names (store.set names .directory) rest
      | .symlink =>
        match ← (IO.FS.realPath file).toBaseIO with
        | .error _ => return store
        | .ok real =>
          let target := real.toString
          fetchSteps [] (store.set names (.link target)) (Path.steps target ++ rest)
      | _ =>
        match ← (IO.FS.readBinFile file).toBaseIO with
        | .error _ => return store
        | .ok bytes =>
          let entry := ((String.fromUTF8? bytes).map Entry.text).getD .binary
          return store.set names entry

def fetch (store : Store) (path : String) : IO Store :=
  fetchSteps [] store (store.stepsFromRoot path)

/-- Fetches needed paths until the store shows no new ones. -/
partial def fetchAll (needed : Store → List String) (fetched : List String) (store : Store) :
    IO Store := do
  let paths := (needed store).filter (!fetched.contains ·)
  if paths.isEmpty then return store
  else fetchAll needed (paths ++ fetched) (← paths.foldlM fetch store)

end JsonRecords.Command

open JsonRecords in
def main (args : List String) : IO UInt32 := do
  let environment ← IO.getEnv "SCHEMAREC_ROOT"
  let workDir := (← IO.currentDir).toString
  let store ← Command.fetchAll (Command.neededPaths · environment args) [] (.empty workDir)
  let outcome := Command.run store environment args
  IO.print outcome.output
  unless outcome.faults.isEmpty do
    IO.eprintln (": ".intercalate outcome.faults)
  return UInt32.ofNat outcome.exitCode
