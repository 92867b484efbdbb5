/-!
# Paths

A path is the text a file is asked for by, and it is kept as it was written: joining two paths puts
them side by side.  What a path means is the list of its steps.  `steps` leaves out the empty ones;
a slash at the end says that the path leads to a directory, and a step `.` in its place says the
same.

An `AbsolutePath` is where a file really is, the names on the way to it from the root.
-/

namespace JsonRecords

structure AbsolutePath where
  names : List String
  deriving DecidableEq, Repr

def AbsolutePath.text (path : AbsolutePath) : String :=
  if path.names.isEmpty then "/" else String.join (path.names.map ("/" ++ ·))

/-- The directory that holds the file; the root holds itself. -/
def AbsolutePath.parent (path : AbsolutePath) : AbsolutePath :=
  ⟨path.names.dropLast⟩

namespace Path

def isAbsolute (path : String) : Bool :=
  path.toList.head? == some '/'

def endsInSlash (path : String) : Bool :=
  path.toList.getLast? == some '/'

/-- An absolute path stands alone, any other goes behind the directory. -/
def join (dir path : String) : String :=
  if isAbsolute path then path
  else if dir = "" ∨ endsInSlash dir then dir ++ path
  else dir ++ "/" ++ path

/-! ## Steps -/

def pieces (path : String) : List String :=
  ((path.toList.splitOn '/').map String.ofList).filter (· ≠ "")

def steps (path : String) : List String :=
  pieces path ++ if endsInSlash path then ["."] else []

/-- The steps by which paths are compared: a step `.` counts only where a relative path begins. -/
def comparedSteps (path : String) : List String :=
  match pieces path with
  | "." :: rest =>
    if isAbsolute path then rest.filter (· ≠ ".") else "." :: rest.filter (· ≠ ".")
  | rest => rest.filter (· ≠ ".")

/-- Whether two paths are the same but for repeated slashes and steps `.`. -/
def same (p q : String) : Bool :=
  isAbsolute p == isAbsolute q && comparedSteps p == comparedSteps q

/-! ## Extensions -/

/-- The last step, unless the path ends by going up. -/
def fileName? (path : String) : Option String :=
  match ((pieces path).filter (· ≠ ".")).getLast? with
  | some ".." => none
  | name => name

/-- What follows the last point of the file name, if anything comes before that point. -/
def extension? (path : String) : Option String := do
  let name := (← fileName? path).toList.reverse
  let back := name.takeWhile (· != '.')
  match name.dropWhile (· != '.') with
  | _ :: _ :: _ => return String.ofList back.reverse
  | _ => none

end Path

end JsonRecords
