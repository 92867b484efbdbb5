import JsonRecords.Proofs.CompilerRuns

/-!
# The compiler step by step

`shapeOf` and `followAlong` call each other, and what lets them be defined at all is a proof that
they come to an end.  A machine needs no such proof.  Each of its steps makes one call, reads one
keyword or hands one answer back, and nothing is said about how many steps there are.

A state holds what is being done (`Control`), what is to be done with the answer (`Frame`, the
innermost first), what the compiler has learned, and the targets being worked on, the last one
first.  A reference that has to be compiled puts its target on that path and leaves a frame behind
that takes it off again, on an answer and on an error alike; on an answer it also keeps the shape.
-/

namespace JsonRecords.Machine

open Json

/-! ## States -/

/-- What can be asked for in a context.  The tasks with more than a node are in the middle of one:
the fields or patterns found so far come before the members left. -/
inductive Task where
  /-- The record type of the whole document. -/
  | root
  /-- The record type of a node taken as an object schema. -/
  | object (node : Json)
  | fields (node : Json) (found : List (String × Shape)) (left : List (String × Json))
  | patterns (node : Json) (fields : List (String × Shape)) (found : List (Pattern × Shape))
      (left : List (String × Json))
  /-- The shape of the items of a node taken as an array schema. -/
  | items (node : Json)
  /-- The shape of a node. -/
  | node (node : Json)
  /-- The shape of a node whose record type is known. -/
  | rest (node : Json) (record : Option RecordType)
  /-- The shape that a reference leads to. -/
  | reference (text : String)

/-- What waits for an answer. -/
inductive Frame where
  | field (ctx : Context) (node : Json) (found : List (String × Shape)) (name : String)
      (left : List (String × Json))
  | pattern (ctx : Context) (node : Json) (fields : List (String × Shape))
      (found : List (Pattern × Shape)) (p : Pattern) (left : List (String × Json))
  | record (ctx : Context) (node : Json)
  | items (record : Option RecordType)
  | target (t : Target)

inductive Control where
  | call (ctx : Context) (task : Task)
  | answer (a : Compiler.Answer)
  | raise (e : SchemaError)

structure State where
  control : Control
  frames : List Frame
  compiler : Compiler
  path : List Target

/-! ## Steps -/

/-- The first step of a task. -/
def enter (store : Store) (ctx : Context) (frames : List Frame) (c : Compiler)
    (path : List Target) : Task → State
  | .root =>
    let types := TypeSet.ofSchema ctx.document
    if !types.contains .object then
      ⟨.raise (.invalid (.rootNotObject ctx.label types.names)), frames, c, path⟩
    else if ((ctx.document.get? "properties").map (!·.isObject)).getD false then
      ⟨.raise (.invalid (.propertiesNotMap ctx.label)), frames, c, path⟩
    else ⟨.call ctx (.object ctx.document), frames, c, path⟩
  | .object node =>
    ⟨.call ctx (.fields node [] (node.keywordMembers "properties")), frames, c, path⟩
  | .fields node found [] =>
    ⟨.call ctx (.patterns node found [] (node.keywordMembers "patternProperties")), frames, c, path⟩
  | .fields node found ((name, v) :: left) =>
    ⟨.call ctx (.node v), .field ctx node found name left :: frames, c, path⟩
  | .patterns node fields found [] =>
    ⟨.answer (.record ⟨allowsAdditional node, statesAdditional node, fields, found⟩),
      frames, c, path⟩
  | .patterns node fields found ((text, v) :: left) =>
    match Pattern.ofText? text with
    | some p => ⟨.call ctx (.node v), .pattern ctx node fields found p left :: frames, c, path⟩
    | none => ⟨.raise (.invalid (.invalidPattern text)), frames, c, path⟩
  | .items node =>
    match node.get? "items" with
    | some v => ⟨.call ctx (.node v), frames, c, path⟩
    | none => ⟨.answer (.shape .plain), frames, c, path⟩
  | .node node =>
    if node.isObject then
      match node.get? "$ref" with
      | some (.string text) => ⟨.call ctx (.reference text), frames, c, path⟩
      | some v => ⟨.raise (.invalid (.malformedReference v.kind)), frames, c, path⟩
      | none =>
        if (TypeSet.ofSchema node).contains .object then
          ⟨.call ctx (.object node), .record ctx node :: frames, c, path⟩
        else ⟨.call ctx (.rest node none), frames, c, path⟩
    else ⟨.answer (.shape .plain), frames, c, path⟩
  | .rest node record =>
    if (TypeSet.ofSchema node).contains .array then
      ⟨.call ctx (.items node), .items record :: frames, c, path⟩
    else ⟨.answer (.shape ⟨record, none⟩), frames, c, path⟩
  | .reference text =>
    match resolve store text ctx with
    | .error e => ⟨.raise e, frames, c, path⟩
    | .ok r =>
      match c.shape? r.target with
      | some s => ⟨.answer (.shape s), frames, c, path⟩
      | none =>
        if r.target ∈ path then
          ⟨.raise (.reference (.cyclic (cycleThrough r.target path))), frames, c, path⟩
        else ⟨.call r.context (.node r.node), .target r.target :: frames, c, r.target :: path⟩

/-- An answer is handed to the frame that waits for it; no frame waits for both kinds. -/
def resume (frames : List Frame) (c : Compiler) (path : List Target) :
    Frame → Compiler.Answer → Option State
  | .field ctx node found name left, .shape s =>
    some ⟨.call ctx (.fields node (found ++ [(name, s)]) left), frames, c, path⟩
  | .pattern ctx node fields found p left, .shape s =>
    some ⟨.call ctx (.patterns node fields (found ++ [(p, s)]) left), frames, c, path⟩
  | .record ctx node, .record t => some ⟨.call ctx (.rest node (some t)), frames, c, path⟩
  | .items record, .shape s => some ⟨.answer (.shape ⟨record, some s⟩), frames, c, path⟩
  | .target t, .shape s => some ⟨.answer (.shape s), frames, c.keep t s, path.tail⟩
  | _, _ => none

/-- The targets that are being worked on when a frame is left. -/
def Frame.leave : Frame → List Target → List Target
  | .target _, path => path.tail
  | _, path => path

def step (store : Store) : State → Option State
  | ⟨.call ctx task, frames, c, path⟩ => some (enter store ctx frames c path task)
  | ⟨.answer a, frame :: frames, c, path⟩ => resume frames c path frame a
  | ⟨.raise e, frame :: frames, c, path⟩ => some ⟨.raise e, frames, c, frame.leave path⟩
  | ⟨_, [], _, _⟩ => none

/-- The state after a number of steps, if there are as many. -/
def steps (store : Store) : Nat → State → Option State
  | 0, σ => some σ
  | n + 1, σ => (step store σ).bind (steps store n)

theorem steps_add {store : Store} {m : Nat} {σ σ' : State} (h : steps store m σ = some σ')
    (n : Nat) : steps store (m + n) σ = steps store n σ' := by
  induction m generalizing σ with
  | zero =>
    cases h
    rw [Nat.zero_add]
  | succ m ih =>
    rw [Nat.succ_add]
    rw [steps] at h ⊢
    cases hstep : step store σ with
    | none => simp [hstep] at h
    | some τ =>
      rw [hstep] at h
      exact ih h

/-! ## Beginning and end -/

/-- The state in which a call is made. -/
def State.ofCall (c : Compiler) (path : List Target) : Compiler.Call → State
  | .root ctx => ⟨.call ctx .root, [], c, path⟩
  | .object ctx node => ⟨.call ctx (.object node), [], c, path⟩
  | .items ctx node => ⟨.call ctx (.items node), [], c, path⟩

/-- The state in which a computation has come to its end and its outcome is handed back. -/
def State.ofOutcome (frames : List Frame) (path : List Target) :
    Except SchemaError Compiler.Answer × Compiler → State
  | (.ok a, c) => ⟨.answer a, frames, c, path⟩
  | (.error e, c) => ⟨.raise e, frames, c, path⟩

theorem step_ofOutcome (store : Store) (path : List Target)
    (outcome : Except SchemaError Compiler.Answer × Compiler) :
    step store (.ofOutcome [] path outcome) = none := by
  obtain ⟨_ | _, c⟩ := outcome <;> rfl

end JsonRecords.Machine
