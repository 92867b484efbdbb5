import JsonRecords.Proofs.PlainCompiler

/-!
# Running a compiler

What a computation of a compiler does when it is run: it gives an answer or an error, and a compiler
that may have learned something.  The equations for `followAlong` say what following a reference
comes to in each of its four cases: the reference leads nowhere, the target is known, it is being
worked on, or it has to be compiled.

`Compiler.Call` lists the calls that can be made, and `Compiler.answers` makes one after the other
on one compiler.
-/

namespace JsonRecords

open Json

namespace Compiler

section

variable {α β : Type} (c : Compiler)

theorem run_get_bind (f : Compiler → CompileM α) : c.run (get >>= f) = c.run (f c) := rfl

theorem run_bind (x : CompileM α) (f : α → CompileM β) :
    c.run (x >>= f) = match c.run x with
      | (.ok a, c') => c'.run (f a)
      | (.error e, c') => (.error e, c') := by
  simp only [run, ExceptT.run_bind, StateT.run_bind]
  cases h : StateT.run (ExceptT.run x) c with
  | mk answer c' => cases answer <;> rfl

theorem run_map (f : α → β) (x : CompileM α) :
    c.run (f <$> x) = ((c.run x).1.map f, (c.run x).2) := by
  rw [map_eq_pure_bind, run_bind]
  cases h : c.run x with
  | mk answer c' => cases answer <;> rfl

end

section

variable (c : Compiler) (t : Target) (s : Shape)

@[simp] theorem shape?_keep_self : (c.keep t s).shape? t = some s := by
  rw [shape?, keep, List.lookup_cons_self]

theorem shape?_keep_of_ne {u : Target} (hne : u ≠ t) : (c.keep t s).shape? u = c.shape? u := by
  rw [shape?, keep, List.lookup_cons, beq_false_of_ne hne]
  rfl

end

end Compiler

/-! ## Following a reference -/

section

variable {store : Store} {root ctx : Context} {path : List Target} {text : String} {r : Resolved}
  {s : Shape} {e : SchemaError} {c : Compiler} (hctx : ctx ∈ root :: store.documents)
include hctx

theorem run_followAlong_of_error (hr : resolve store text ctx = .error e) :
    c.run (followAlong store root path ctx hctx text) = (.error e, c) := by
  rw [followAlong]
  split
  · rename_i e' he'
    rw [hr] at he'
    cases he'
    rfl
  · rename_i r' hr'
    rw [hr] at hr'
    cases hr'

theorem followAlong_of_ok (hr : resolve store text ctx = .ok r) :
    followAlong store root path ctx hctx text = (do
      match (← get).shape? r.target with
      | some s => return s
      | none =>
        if r.target ∈ path then throw (.reference (.cyclic (cycleThrough r.target path)))
        else
          let s ← shapeOf (followAlong store root (r.target :: path) r.context
            (mem_contexts_of_resolve hctx hr)) r.node
          modify (·.keep r.target s)
          return s) := by
  rw [followAlong]
  split
  · rename_i e' he'
    rw [hr] at he'
    cases he'
  · rename_i r' hr'
    obtain rfl := Except.ok.inj (hr.symm.trans hr')
    rfl

theorem run_followAlong_of_known (hr : resolve store text ctx = .ok r)
    (hs : c.shape? r.target = some s) :
    c.run (followAlong store root path ctx hctx text) = (.ok s, c) := by
  rw [followAlong_of_ok hctx hr, Compiler.run_get_bind, hs]
  rfl

theorem run_followAlong_of_mem (hr : resolve store text ctx = .ok r)
    (hs : c.shape? r.target = none) (hp : r.target ∈ path) :
    c.run (followAlong store root path ctx hctx text) =
      (.error (.reference (.cyclic (cycleThrough r.target path))), c) := by
  rw [followAlong_of_ok hctx hr, Compiler.run_get_bind, hs]
  dsimp only
  rw [if_pos hp]
  rfl

theorem run_followAlong_of_not_mem (hr : resolve store text ctx = .ok r)
    (hs : c.shape? r.target = none) (hp : r.target ∉ path) :
    c.run (followAlong store root path ctx hctx text) =
      match c.run (shapeOf (followAlong store root (r.target :: path) r.context
        (mem_contexts_of_resolve hctx hr)) r.node) with
      | (.ok s, c') => (.ok s, c'.keep r.target s)
      | (.error e, c') => (.error e, c') := by
  rw [followAlong_of_ok hctx hr, Compiler.run_get_bind, hs]
  dsimp only
  rw [if_neg hp, Compiler.run_bind]
  cases Compiler.run c (shapeOf _ r.node) with
  | mk answer c' => cases answer <;> rfl

end

/-! ## Calls of a compiler -/

namespace Compiler

/-- What a compiler can be asked: for the record type of a whole document, for that of a node taken
as an object schema, and for the items of a node taken as an array schema. -/
inductive Call where
  | root (ctx : Context)
  | object (ctx : Context) (node : Json)
  | items (ctx : Context) (node : Json)

inductive Answer where
  | record (t : RecordType)
  | shape (s : Shape)

namespace Call

def context : Call → Context
  | root ctx => ctx
  | object ctx _ => ctx
  | items ctx _ => ctx

def compile (store : Store) : Call → CompileM Answer
  | root ctx => .record <$> compileRoot store ctx
  | object ctx node => .record <$> compileObject store ctx node
  | items ctx node => .shape <$> compileItems store ctx node

/-- The answer of the plain compiler. -/
def compilePlain (store : Store) : Call → Except SchemaError Answer
  | root ctx => .record <$> rootTypeOf (plainFollow store ctx) ctx
  | object ctx node => .record <$> recordTypeOf (plainFollow store ctx) node
  | items ctx node => .shape <$> itemsOf (plainFollow store ctx) node

end Call

namespace Call

variable {m : Type → Type} [Monad m] [MonadExceptOf SchemaError m]

/-- The answer to a call, given what references lead to. -/
def answerWith (follow : String → m Shape) : Call → m Answer
  | root ctx => .record <$> rootTypeOf follow ctx
  | object _ node => .record <$> recordTypeOf follow node
  | items _ node => .shape <$> itemsOf follow node

theorem compile_eq (store : Store) (call : Call) :
    call.compile store = call.answerWith (follow store call.context) := by
  cases call <;> rfl

theorem compilePlain_eq (store : Store) (call : Call) :
    call.compilePlain store = call.answerWith (plainFollow store call.context) := by
  cases call <;> rfl

end Call

/-- The answers to calls made one after the other on one compiler. -/
def answers (store : Store) (c : Compiler) : List Call → List (Except SchemaError Answer)
  | [] => []
  | call :: rest =>
    let (answer, c') := c.run (call.compile store)
    answer :: answers store c' rest

end Compiler

/-- Calls are related if following references is. -/
theorem Simulation.answerWith {m n : Type → Type} [Monad m] [MonadExceptOf SchemaError m]
    [Monad n] [MonadExceptOf SchemaError n] [LawfulMonad m] [LawfulMonad n] (S : Simulation m n)
    {f : String → m Shape} {g : String → n Shape} (call : Compiler.Call)
    (h : ∀ text, S.rel (f text) (g text)) : S.rel (call.answerWith f) (call.answerWith g) := by
  have hshape : ∀ v, S.rel (JsonRecords.shapeOf f v) (JsonRecords.shapeOf g v) :=
    fun v => S.shapeOf fun text _ => h text
  cases call with
  | root ctx => exact S.map _ (S.rootTypeOf fun v _ => hshape v)
  | object ctx node => exact S.map _ (S.recordTypeOf fun v _ => hshape v)
  | items ctx node => exact S.map _ (S.itemsOf fun v _ => hshape v)

end JsonRecords
