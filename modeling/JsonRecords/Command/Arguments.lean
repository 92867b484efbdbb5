/-!
# Command lines

The command line is read from left to right.  Options that are common to all subcommands may stand
before or behind the subcommand, and then the later one counts; within one of these two places an
option with a value may be given once only.  An option takes its value from behind an equals sign or
from the next word; a word that begins with a hyphen is no such value unless it is the hyphen alone.
After `--` everything is a plain word.
-/

namespace JsonRecords.Command

/-- What the program is asked to do. -/
inductive Action where
  | inspect (schema : String)
  | bind (schema document : String) (field : Option String)
  deriving DecidableEq, Repr

structure Request where
  root : Option String
  action : Action
  deriving DecidableEq, Repr

/-- Why there is nothing to do. -/
inductive Refusal where
  | usage
  | version
  | help
  deriving DecidableEq, Repr

/-! ## Words and options -/

inductive Word where
  | plain
  /-- The two hyphens after which there are no options. -/
  | escape
  | long (name : String) (value : Option String)
  | short (letters : List Char)
  deriving DecidableEq, Repr

def Word.ofText (text : String) : Word :=
  match text.toList with
  | ['-', '-'] => .escape
  | '-' :: '-' :: rest =>
    let name := String.ofList (rest.takeWhile (· != '='))
    match rest.dropWhile (· != '=') with
    | _ :: value => .long name (some (String.ofList value))
    | [] => .long name none
  | '-' :: c :: rest => .short (c :: rest)
  | _ => .plain

/-- The place in a command line: before the subcommand or behind it. -/
inductive Place where
  | program | inspect | bind
  deriving DecidableEq, Repr

/-- What has been read in one place. -/
structure Given where
  root : Option String := none
  field : Option String := none
  words : List String := []

/-- Sets an option that takes a value.  Directories may not be empty, fields may. -/
def Given.set (given : Given) (place : Place) (name value : String) : Except Refusal Given :=
  match name with
  | "root" =>
    if given.root.isNone ∧ value ≠ "" then .ok { given with root := some value } else .error .usage
  | "field" =>
    if place = .bind ∧ given.field.isNone then .ok { given with field := some value }
    else .error .usage
  | _ => .error .usage

/-- The letters of a word of short options. -/
def readLetters (place : Place) : List Char → Except Refusal Unit
  | [] => .ok ()
  | 'v' :: rest => readLetters place rest
  | 'h' :: _ => .error .help
  | 'V' :: _ => .error (if place = .program then .version else .usage)
  | _ => .error .usage

/-- Reads the words of one place.  The first plain word of the program is its subcommand and ends
the place; the rest goes with it. -/
def readPlace (place : Place) (given : Given) : List String → Except Refusal (Given × List String)
  | [] => .ok (given, [])
  | word :: rest =>
    match Word.ofText word with
    | .plain =>
      if place = .program then .ok (given, word :: rest)
      else readPlace place { given with words := given.words ++ [word] } rest
    | .escape =>
      if place = .program then .error .usage
      else .ok ({ given with words := given.words ++ rest }, [])
    | .short letters =>
      match readLetters place letters with
      | .ok () => readPlace place given rest
      | .error e => .error e
    | .long "verbose" none => readPlace place given rest
    | .long "help" none => .error .help
    | .long "version" none => .error (if place = .program then .version else .usage)
    | .long name (some value) =>
      match given.set place name value with
      | .ok given => readPlace place given rest
      | .error e => .error e
    | .long name none =>
      match rest with
      | value :: rest =>
        if Word.ofText value = .plain then
          match given.set place name value with
          | .ok given => readPlace place given rest
          | .error e => .error e
        else .error .usage
      | [] => .error .usage

/-! ## The whole command line -/

def Given.action (given : Given) (place : Place) : Except Refusal Action :=
  match place, given.words with
  | .inspect, [schema] => if schema = "" then .error .usage else .ok (.inspect schema)
  | .bind, [schema, document] =>
    if schema = "" ∨ document = "" then .error .usage
    else .ok (.bind schema document given.field)
  | _, _ => .error .usage

def Request.parse (args : List String) : Except Refusal Request := do
  let (before, rest) ← readPlace .program {} args
  let (place, words) ← match rest with
    | "inspect" :: words => Except.ok (Place.inspect, words)
    | "bind" :: words => .ok (.bind, words)
    | "help" :: _ => .error .help
    | _ => .error .usage
  let (behind, _) ← readPlace place {} words
  return { root := behind.root.or before.root, action := ← behind.action place }

end JsonRecords.Command
