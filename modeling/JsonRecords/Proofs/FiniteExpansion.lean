import JsonRecords.Proofs.SharedTargets

/-!
# Compiling is finding the finite expansion

A new compiler succeeds on a node exactly if the node has an expansion, and then it gives that
expansion (`compile_iff_expands`).  In one direction this says that the circles the compiler reports
are circles: where it fails, the references go on forever or lead nowhere.  In the other it says
that the compiler is not fooled: where the references come to an end it finds the end, though it may
meet a target many times on the way.

The plain compiler has this property by `expands_of_plainAlong` and `plainAlong_of_expands`, and a
new compiler answers as the plain one does.
-/

namespace JsonRecords

open Json

variable {store : Store} {home ctx : Context} {node : Json} {s : Shape} {t : RecordType}

/-- The shape of a node with its references followed. -/
def Compiler.compileNode (store : Store) (ctx : Context) (node : Json) : CompileM Shape :=
  shapeOf (follow store ctx) node

/-- Contexts as a user of the library can have them: documents in memory, and files. -/
def Context.Arises (store : Store) (ctx : Context) : Prop :=
  (∃ document baseDir, ctx = .ofDocument document baseDir) ∨
    ∃ path dir, Context.load store path dir = .ok ctx

theorem Context.Arises.exists_home (h : ctx.Arises store) :
    ∃ home : Context, home.source = none ∧ ctx.IsAbout store home := by
  rcases h with ⟨document, baseDir, rfl⟩ | hloaded
  · exact ⟨.ofDocument document baseDir, rfl, Or.inl rfl⟩
  · exact ⟨.ofDocument .null "", rfl, Or.inr hloaded⟩

/-! ## The root -/

/-- The root has to be the schema of a record, and then it is an object schema like any other. -/
theorem rootTypeOf_eq_ok_iff {follow : String → Except SchemaError Shape} :
    rootTypeOf follow ctx = .ok t ↔
      IsRecordSchema ctx.document ∧ recordTypeOf follow ctx.document = .ok t := by
  rcases rootForm follow ctx with ⟨hschema, heq⟩ | ⟨hno, e, heq⟩
  · simp [hschema, heq]
  · simp [hno, heq, throw, throwThe, MonadExceptOf.throw]

/-- A reference is at fault only if the root is the schema of a record. -/
theorem isRecordSchema_of_reference {follow : String → Except SchemaError Shape}
    {e : ReferenceError} (h : rootTypeOf follow ctx = .error (.reference e)) :
    IsRecordSchema ctx.document := by
  rcases rootForm follow ctx with ⟨hschema, -⟩ | ⟨-, e', heq⟩
  · exact hschema
  · rw [heq] at h
    cases h

/-! ## The compiler -/

theorem run_compileNode (hhome : home.source = none) (habout : ctx.IsAbout store home) :
    (({} : Compiler).run (Compiler.compileNode store ctx node)).1 =
      shapeOf (plainFollow store ctx) node :=
  ((sharing store home).shapeOf (fun text _ => sharing_follow hhome habout text) {}
    Compiler.sound_empty).1

/-- A new compiler finds the expansion of a node, if there is one. -/
theorem run_compileNode_eq_ok_iff (hctx : ctx.Arises store) :
    (({} : Compiler).run (Compiler.compileNode store ctx node)).1 = .ok s ↔
      Expands store ctx node s := by
  obtain ⟨home, hhome, habout⟩ := hctx.exists_home
  rw [run_compileNode hhome habout, shapeOf_plainFollow_eq_ok_iff hhome habout]

theorem compileContext_eq (hhome : home.source = none) (habout : ctx.IsAbout store home) :
    compileContext store ctx = rootTypeOf (plainFollow store ctx) ctx :=
  ((sharing store home).rootTypeOf
    (fun _ _ => (sharing store home).shapeOf fun text _ => sharing_follow hhome habout text) {}
    Compiler.sound_empty).1

/-- A document compiles to the expansion of its root, provided it is the schema of a record. -/
theorem compileContext_eq_ok_iff (hctx : ctx.Arises store) :
    compileContext store ctx = .ok t ↔
      IsRecordSchema ctx.document ∧ ExpandsToRecord store ctx ctx.document t := by
  obtain ⟨home, hhome, habout⟩ := hctx.exists_home
  rw [compileContext_eq hhome habout, rootTypeOf_eq_ok_iff,
    recordTypeOf_plainFollow_eq_ok_iff hhome habout]

theorem compileDocument_eq_ok_iff {document : Json} {baseDir : String} :
    compileDocument store document baseDir = .ok t ↔ IsRecordSchema document ∧
      ExpandsToRecord store (.ofDocument document baseDir) document t :=
  compileContext_eq_ok_iff (Or.inl ⟨document, baseDir, rfl⟩)

/-- **The compiler finds the finite expansion, and nothing else.**  In a context that can arise, a
new compiler succeeds on a node exactly if the node has an expansion, and on a document exactly if
the document is the schema of a record and has an expansion.  What it gives is that expansion, and
where it reports a circle there is none. -/
theorem compile_iff_expands (store : Store) (ctx : Context) (hctx : ctx.Arises store) :
    (∀ node s, (({} : Compiler).run (Compiler.compileNode store ctx node)).1 = .ok s ↔
      Expands store ctx node s) ∧
    (∀ t, compileContext store ctx = .ok t ↔
      IsRecordSchema ctx.document ∧ ExpandsToRecord store ctx ctx.document t) ∧
    (∀ node chain, (({} : Compiler).run (Compiler.compileNode store ctx node)).1 =
        .error (.reference (.cyclic chain)) → ¬ ∃ s, Expands store ctx node s) ∧
    (∀ chain, compileContext store ctx = .error (.reference (.cyclic chain)) →
      ¬ ∃ t, ExpandsToRecord store ctx ctx.document t) := by
  obtain ⟨home, hhome, habout⟩ := hctx.exists_home
  have hnode : ∀ node s, (({} : Compiler).run (Compiler.compileNode store ctx node)).1 = .ok s ↔
      Expands store ctx node s := by
    intro node s
    rw [run_compileNode hhome habout, shapeOf_plainFollow_eq_ok_iff hhome habout]
  refine ⟨hnode, fun t => compileContext_eq_ok_iff hctx, ?_, ?_⟩
  · rintro node chain h ⟨s, hs⟩
    rw [(hnode node s).2 hs] at h
    cases h
  · rintro chain h ⟨t, ht⟩
    have hschema : IsRecordSchema ctx.document := by
      rw [compileContext_eq hhome habout] at h
      exact isRecordSchema_of_reference h
    rw [(compileContext_eq_ok_iff hctx).2 ⟨hschema, ht⟩] at h
    cases h

/-- A file of the circle may be referred to as long as nothing in it is.  So the room has a record
type with a pattern, and items, by itself and behind a reference. -/
theorem compileNode_whole_file :
    (Context.ofFile leftDocument ⟨["s", "left.json"]⟩).Arises circle ∧
    (({} : Compiler).run (Compiler.compileNode circle
      (.ofFile leftDocument ⟨["s", "left.json"]⟩)
      (.object [("$ref", .string "left.json")]))).1 = .ok .plain ∧
    (Context.ofDocument entrance "s").Arises circle ∧
    (({} : Compiler).run (Compiler.compileNode circle (.ofDocument entrance "s")
      (refTo "room.json"))).1 = .ok roomShape ∧
    room.Arises circle ∧ compileContext circle room = .ok roomType := by
  have hleft : (Context.ofFile leftDocument ⟨["s", "left.json"]⟩).Arises circle :=
    Or.inr ⟨_, _, load_left⟩
  have hentrance : (Context.ofDocument entrance "s").Arises circle := Or.inl ⟨_, _, rfl⟩
  have hroom : room.Arises circle := Or.inr ⟨_, _, load_room⟩
  have hr : resolve circle "left.json" (.ofFile leftDocument ⟨["s", "left.json"]⟩) =
      .ok ⟨leftDocument, .ofFile leftDocument ⟨["s", "left.json"]⟩, ""⟩ := by
    rfl
  have hschema : IsRecordSchema roomDocument := ⟨rfl, fun v hv => by cases hv⟩
  obtain ⟨hplain, -⟩ := compile_iff_expands circle _ hleft
  obtain ⟨hshape, -⟩ := compile_iff_expands circle _ hentrance
  obtain ⟨-, hrecord, -⟩ := compile_iff_expands circle _ hroom
  refine ⟨hleft, (hplain _ _).2 (.reference rfl hr expands_left), hentrance,
    (hshape _ _).2 (.reference rfl resolve_room expands_room), hroom, ?_⟩
  exact (hrecord roomType).2 ⟨hschema, expandsToRecord_room⟩

end JsonRecords
