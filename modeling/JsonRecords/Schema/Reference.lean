import JsonRecords.Schema.Error

/-!
# References

A reference names a file and points into it; the two are parted by the first `#`.  Without a file it
points into the document it stands in, and without a `#` it names a whole file.

`resolve` follows a reference from a context.  The fragment it finds comes with the context its own
references have to be followed from, which is that of the other file when a file was named.  What it
finds is all in `resolve_eq_ok_iff`.  So it ends in the context it set out from or in a document of
the store, at one of the targets of that context (`resolve_context`, `target_mem_targets`).
-/

namespace JsonRecords

structure Reference where
  file : String
  pointer : String
  deriving DecidableEq, Repr

namespace Reference

def parse (text : String) : Reference :=
  let cs := text.toList
  { file := String.ofList (cs.takeWhile (· != '#'))
    pointer := String.ofList ((cs.dropWhile (· != '#')).drop 1) }

/-- Whether the reference points into the document it stands in. -/
def isLocal (r : Reference) : Bool := r.file.isEmpty

end Reference

/-- The fragment a reference leads to. -/
structure Resolved where
  node : Json
  context : Context
  pointer : String

def Resolved.target (r : Resolved) : Target :=
  ⟨r.context.source, r.pointer⟩

/-- The context of the document that a reference points into. -/
def Reference.contextFrom (store : Store) (r : Reference) (ctx : Context) :
    Except SchemaError Context :=
  if r.isLocal then .ok ctx
  else
    match Context.load store r.file ctx.baseDir with
    | .ok other => .ok other
    | .error e => .error (.load e)

def resolve (store : Store) (text : String) (ctx : Context) : Except SchemaError Resolved :=
  let r := Reference.parse text
  match r.contextFrom store ctx with
  | .error e => .error e
  | .ok context =>
    let segments := Pointer.segments r.pointer
    match context.document.walk segments with
    | some node => .ok { node, context, pointer := Pointer.text segments }
    | none => .error (.reference (.notFound text r.pointer))

/-! ## Where references lead -/

variable {store : Store} {text : String} {ctx other : Context} {r : Resolved}

theorem Reference.contextFrom_eq_ok_iff {reference : Reference} :
    reference.contextFrom store ctx = .ok other ↔
      reference.isLocal = true ∧ ctx = other ∨
      reference.isLocal = false ∧
        Context.load store reference.file ctx.baseDir = .ok other := by
  unfold contextFrom
  cases reference.isLocal with
  | true => simp
  | false => cases Context.load store reference.file ctx.baseDir <;> simp

/-- A reference leads to the node that its pointer names, in the document that it points into. -/
theorem resolve_eq_ok_iff :
    resolve store text ctx = .ok r ↔
      (Reference.parse text).contextFrom store ctx = .ok r.context ∧
      r.context.document.walk (Pointer.segments (Reference.parse text).pointer) = some r.node ∧
      r.pointer = Pointer.text (Pointer.segments (Reference.parse text).pointer) := by
  unfold resolve
  constructor
  · intro h
    dsimp only at h
    split at h
    · cases h
    · rename_i context hcontext
      split at h
      · rename_i node hwalk
        cases h
        exact ⟨hcontext, hwalk, by dsimp only⟩
      · cases h
  · rintro ⟨hcontext, hwalk, hpointer⟩
    obtain ⟨node, context, pointer⟩ := r
    simp only at hcontext hwalk hpointer
    simp only [hcontext, hwalk, hpointer]

theorem resolve_context (h : resolve store text ctx = .ok r) :
    r.context = ctx ∨ r.context ∈ store.documents := by
  obtain ⟨hcontext, -, -⟩ := resolve_eq_ok_iff.1 h
  rcases Reference.contextFrom_eq_ok_iff.1 hcontext with ⟨-, hlocal⟩ | ⟨-, hload⟩
  · exact Or.inl hlocal.symm
  · exact Or.inr (Context.mem_documents_of_load hload)

theorem target_mem_targets (h : resolve store text ctx = .ok r) :
    r.target ∈ r.context.targets := by
  obtain ⟨-, hwalk, hpointer⟩ := resolve_eq_ok_iff.1 h
  rw [Context.targets, Resolved.target, hpointer]
  exact List.mem_map.2 ⟨_, Json.mem_paths_of_walk hwalk, rfl⟩

end JsonRecords
