import JsonRecords.Files.Path

/-!
# A store of files

A store is a finite tree of directories, files and symbolic links, and the directory that relative
paths start from.  `locate` walks a path through it the way an operating system does: a step `..`
leads from where the walk is to the directory above, a link is replaced by its target, which a
relative target follows from the directory of the link, and no more than forty links are followed.

`read` gives the text of a file, and `canonical` its place: the path to it without links.  Both are
told from the same walk.
-/

namespace JsonRecords

inductive FileError where
  | notFound
  | notADirectory
  | isADirectory
  | nameTooLong
  | tooManyLinks
  | notText
  | nulInPath
  deriving DecidableEq, Repr

def FileError.message : FileError → String
  | .notFound => "No such file or directory (os error 2)"
  | .notADirectory => "Not a directory (os error 20)"
  | .isADirectory => "Is a directory (os error 21)"
  | .nameTooLong => "File name too long (os error 36)"
  | .tooManyLinks => "Too many levels of symbolic links (os error 40)"
  | .notText => "stream did not contain valid UTF-8"
  | .nulInPath => "file name contained an unexpected NUL byte"

inductive Entry where
  | directory
  | text (content : String)
  /-- A file that is not the UTF-8 form of a text. -/
  | binary
  | link (target : String)
  deriving DecidableEq, Repr

structure Store where
  workDir : String
  entries : List (List String × Entry)
  deriving Repr

namespace Store

/-- The root is always a directory. -/
def entryAt (store : Store) (names : List String) : Option Entry :=
  if names.isEmpty then some .directory else store.entries.lookup names

/-! ## Walking -/

structure Place where
  names : List String
  entry : Entry
  deriving DecidableEq, Repr

def linkLimit : Nat := 40

def nameLimit : Nat := 255

/-- One stretch of a walk, up to the next link: `here` is the directory reached, and `follow` goes
on from a directory with the steps still to take. -/
def walkSteps (store : Store)
    (follow : List String → List String → Except FileError Place) (here : List String) :
    List String → Except FileError Place
  | [] => .ok ⟨here, .directory⟩
  | step :: rest =>
    if step = "." then walkSteps store follow here rest
    else if step = ".." then walkSteps store follow here.dropLast rest
    else if nameLimit < step.utf8ByteSize then .error .nameTooLong
    else
      match store.entryAt (here ++ [step]) with
      | none => .error .notFound
      | some .directory => walkSteps store follow (here ++ [step]) rest
      | some (.link target) =>
        follow (if Path.isAbsolute target then [] else here) (Path.steps target ++ rest)
      | some file =>
        if rest.isEmpty then .ok ⟨here ++ [step], file⟩ else .error .notADirectory

/-- A walk that follows at most `links` links. -/
def walk (store : Store) : (links : Nat) → (here steps : List String) → Except FileError Place
  | 0 => walkSteps store fun _ _ => .error .tooManyLinks
  | links + 1 => walkSteps store (walk store links)

def pathLimit : Nat := 4096

/-- The steps from the root that a path stands for. -/
def stepsFromRoot (store : Store) (path : String) : List String :=
  if Path.isAbsolute path then Path.steps path else Path.pieces store.workDir ++ Path.steps path

/-- Why a text cannot be asked for as a path, whatever is in the store. -/
def pathFault? (path : String) : Option FileError :=
  if path.toList.contains '\x00' then some .nulInPath
  else if path = "" then some .notFound
  else if pathLimit ≤ path.utf8ByteSize then some .nameTooLong
  else none

def locate (store : Store) (path : String) : Except FileError Place :=
  match pathFault? path with
  | some e => .error e
  | none => store.walk linkLimit [] (store.stepsFromRoot path)

/-! ## Reading -/

def read (store : Store) (path : String) : Except FileError String := do
  match (← store.locate path).entry with
  | .text content => .ok content
  | .binary => .error .notText
  | _ => .error .isADirectory

/-- The place of a file as a path, unless the place is so deep that its path is too long. -/
def canonical (store : Store) (path : String) : Except FileError AbsolutePath := do
  let real : AbsolutePath := ⟨(← store.locate path).names⟩
  match pathFault? real.text with
  | some e => .error e
  | none => .ok real

/-! ## Writing -/

def setEntry (entries : List (List String × Entry)) (names : List String) (entry : Entry) :
    List (List String × Entry) :=
  match entries with
  | [] => [(names, entry)]
  | (other, old) :: rest =>
    if other = names then (names, entry) :: rest else (other, old) :: setEntry rest names entry

/-- An empty store whose working directory exists. -/
def empty (workDir : String) : Store :=
  let names := Path.pieces workDir
  { workDir
    entries := (List.range names.length).map fun n => (names.take (n + 1), .directory) }

def set (store : Store) (names : List String) (entry : Entry) : Store :=
  { store with entries := setEntry store.entries names entry }

/-- Goes the steps from a directory and makes the directories that are not there yet. -/
def makeDirectories (store : Store) (here : List String) : List String → Store × List String
  | [] => (store, here)
  | step :: rest =>
    match store.walk linkLimit here [step] with
    | .ok place => makeDirectories store place.names rest
    | .error _ => makeDirectories (store.set (here ++ [step]) .directory) (here ++ [step]) rest

/-- Where the file of a name in a directory is or would be made: a link there leads on. -/
def placeOf (store : Store) : (links : Nat) → (here : List String) → (name : String) → List String
  | 0, here, name => here ++ [name]
  | links + 1, here, name =>
    match store.entryAt (here ++ [name]) with
    | some (.link target) =>
      let start := if Path.isAbsolute target then [] else here
      let steps := Path.pieces target
      match store.walk links start steps.dropLast, steps.getLast? with
      | .ok dir, some last => placeOf store links dir.names last
      | _, _ => here ++ [name]
    | _ => here ++ [name]

/-- The directory that a path lies in, with what has to be made for it, and its name there. -/
def directoryFor (store : Store) (path : String) : Store × List String × String :=
  let steps := (store.stepsFromRoot path).filter (· ≠ ".")
  let (store, here) := store.makeDirectories [] steps.dropLast
  (store, here, steps.getLast?.getD ".")

/-- Puts an entry at a path, with the directories it needs. -/
def put (store : Store) (path : String) (entry : Entry) : Store :=
  let (store, here, name) := store.directoryFor path
  match entry with
  | .directory => (store.makeDirectories here [name]).1
  | .link _ => store.set (here ++ [name]) entry
  | _ => store.set (store.placeOf linkLimit here name) entry

/-- Removes what is at a path, a link itself and not what it leads to. -/
def remove (store : Store) (path : String) : Store :=
  let steps := (store.stepsFromRoot path).filter (· ≠ ".")
  match store.walk linkLimit [] steps.dropLast, steps.getLast? with
  | .ok dir, some name =>
    { store with entries := store.entries.filter fun e => !(dir.names ++ [name]).isPrefixOf e.1 }
  | _, _ => store

end Store

end JsonRecords
