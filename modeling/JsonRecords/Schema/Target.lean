import JsonRecords.Schema.Context
import JsonRecords.Schema.Pointer

/-!
# Reference targets

What a reference leads to is identified by the file it is in and the pointer to it, in the one form
that stands for its segments.  All documents in memory have the same identity, that of no file.
-/

namespace JsonRecords

structure Target where
  source : Option AbsolutePath
  pointer : String
  deriving DecidableEq, Repr

def Target.text (target : Target) : String :=
  match target.source with
  | some path => path.text ++ "#" ++ target.pointer
  | none => "#" ++ target.pointer

/-- Everything in the document of a context that a reference can lead to. -/
def Context.targets (ctx : Context) : List Target :=
  ctx.document.paths.map fun path => ⟨ctx.source, Pointer.text path⟩

end JsonRecords
