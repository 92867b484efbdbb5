import JsonRecords.Record.Schema
import JsonRecords.Schema.Reference

/-!
# Compiling schemas

Compiling a schema finds the shapes of its nodes with all references followed.  The shape of each
target is found once in the life of a compiler and kept for later.  The targets being worked on are
kept on a path, the last one first; a reference back to one of them is an error that reports the
targets from there on.

A reference may lead to a node that is larger than the one it stands in, so descending through nodes
is no reason for an end.  But each reference followed puts one more target on the path, no target is
put there twice, and the documents of the store and the one at the root have finitely many targets.
-/

namespace JsonRecords

/-! ## Targets that are left -/

def Store.targetsFrom (store : Store) (root : Context) : List Target :=
  (root :: store.documents).flatMap Context.targets

/-- How many targets are not on the path yet. -/
def targetsLeft (targets path : List Target) : Nat :=
  targets.countP (!path.contains ·)

theorem targetsLeft_cons_lt {targets path : List Target} {t : Target} (ht : t ∈ targets)
    (hp : t ∉ path) : targetsLeft targets (t :: path) < targetsLeft targets path := by
  unfold targetsLeft
  induction targets with
  | nil => simp at ht
  | cons u rest ih =>
    have hle : rest.countP (!(t :: path).contains ·) ≤ rest.countP (!path.contains ·) :=
      List.countP_mono_left fun v _ hv => by simp_all
    rw [List.countP_cons, List.countP_cons]
    by_cases hu : u = t
    · subst hu
      simpa [hp, Nat.lt_succ_iff] using hle
    · have ht' := ih ((List.mem_cons.1 ht).resolve_left fun e => hu e.symm)
      have : ((!(t :: path).contains u) = true) = ((!path.contains u) = true) := by
        simp [hu]
      simp only [this]
      omega

/-! ## The compiler -/

/-- The shapes found so far. -/
structure Compiler where
  compiled : List (Target × Shape) := []

namespace Compiler

def shape? (c : Compiler) (t : Target) : Option Shape := c.compiled.lookup t

def keep (c : Compiler) (t : Target) (s : Shape) : Compiler := ⟨(t, s) :: c.compiled⟩

end Compiler

abbrev CompileM := ExceptT SchemaError (StateM Compiler)

/-- The targets of a circle, given the path at the time its first target comes up again. -/
def cycleThrough (t : Target) (path : List Target) : List Target :=
  t :: (path.takeWhile (· ≠ t)).reverse ++ [t]

/-- The shape that a reference in a context leads to, while the targets on `path` are being worked
on. -/
def followAlong (store : Store) (root : Context) (path : List Target) (ctx : Context)
    (hctx : ctx ∈ root :: store.documents) (text : String) : CompileM Shape :=
  match hr : resolve store text ctx with
  | .error e => throw e
  | .ok r => do
    match (← get).shape? r.target with
    | some s => return s
    | none =>
      if hp : r.target ∈ path then throw (.reference (.cyclic (cycleThrough r.target path)))
      else
        have hctx' : r.context ∈ root :: store.documents :=
          (resolve_context hr).elim (fun h => h ▸ hctx) (List.mem_cons_of_mem _)
        have : targetsLeft (store.targetsFrom root) (r.target :: path) <
            targetsLeft (store.targetsFrom root) path :=
          targetsLeft_cons_lt (List.mem_flatMap.2 ⟨_, hctx', target_mem_targets hr⟩) hp
        let s ← shapeOf (followAlong store root (r.target :: path) r.context hctx') r.node
        modify (·.keep r.target s)
        return s
termination_by targetsLeft (store.targetsFrom root) path

/-- The shape that a reference in a context leads to. -/
def follow (store : Store) (ctx : Context) (text : String) : CompileM Shape :=
  followAlong store ctx [] ctx List.mem_cons_self text

namespace Compiler

/-- The record type of the document of a context. -/
def compileRoot (store : Store) (ctx : Context) : CompileM RecordType :=
  rootTypeOf (follow store ctx) ctx

/-- The record type of a node taken as an object schema. -/
def compileObject (store : Store) (ctx : Context) (node : Json) : CompileM RecordType :=
  recordTypeOf (follow store ctx) node

/-- The shape of the items of a node taken as an array schema. -/
def compileItems (store : Store) (ctx : Context) (node : Json) : CompileM Shape :=
  itemsOf (follow store ctx) node

def run (c : Compiler) (x : CompileM α) : Except SchemaError α × Compiler :=
  StateT.run (ExceptT.run x) c

end Compiler

/-! ## Compiling once -/

def compileContext (store : Store) (ctx : Context) : Except SchemaError RecordType :=
  (({} : Compiler).run (Compiler.compileRoot store ctx)).1

/-- Compiles the schema in a file, whose path starts from a directory unless it is absolute. -/
def compileFile (store : Store) (rootDir path : String) : Except SchemaError RecordType :=
  match Context.load store path rootDir with
  | .ok ctx => compileContext store ctx
  | .error e => .error (.load e)

theorem compileFile_of_load {store : Store} {rootDir path : String} {ctx : Context}
    (h : Context.load store path rootDir = .ok ctx) :
    compileFile store rootDir path = compileContext store ctx := by
  unfold compileFile
  simp only [h]

/-- Compiles a schema in memory; the files it names start from a directory. -/
def compileDocument (store : Store) (document : Json) (baseDir : String) :
    Except SchemaError RecordType :=
  compileContext store (.ofDocument document baseDir)

end JsonRecords
