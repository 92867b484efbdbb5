import JsonRecords.Schema.Reference
import JsonRecords.Proofs.PointerText

/-!
# What a target identifies

A target names a file and a place in it, or a place in a document that is in no file.  As long as
only one document in memory is about, its name stands for one node in one context: the path of a
file decides the document and the directory (`Context.IsLoaded.eq_of_source_eq`), the pointer
decides the node (`Pointer.text_injective`), and both together decide what was resolved
(`Resolved.eq_of_target_eq`).
-/

namespace JsonRecords

/-- The context came out of a file of the store. -/
def Context.IsLoaded (store : Store) (ctx : Context) : Prop :=
  ∃ path baseDir, Context.load store path baseDir = .ok ctx

/-- The context is the one document in memory that is about, or a file. -/
def Context.IsAbout (store : Store) (ctx home : Context) : Prop :=
  ctx = home ∨ ctx.IsLoaded store

variable {store : Store} {home ctx ctx' : Context} {text : String} {r r' : Resolved}

theorem Context.IsLoaded.source_ne_none (h : ctx.IsLoaded store) : ctx.source ≠ none := by
  obtain ⟨path, baseDir, hload⟩ := h
  obtain ⟨names, content, document, -, -, rfl⟩ := exists_file_of_load hload
  simp [ofFile]

/-- The path of a file decides its context. -/
theorem Context.IsLoaded.eq_of_source_eq (h : ctx.IsLoaded store) (h' : ctx'.IsLoaded store)
    (e : ctx.source = ctx'.source) : ctx = ctx' := by
  obtain ⟨path, baseDir, hload⟩ := h
  obtain ⟨path', baseDir', hload'⟩ := h'
  obtain ⟨names, content, document, hentry, hread, rfl⟩ := exists_file_of_load hload
  obtain ⟨names', content', document', hentry', hread', rfl⟩ := exists_file_of_load hload'
  have hnames : names = names' := by simpa [ofFile] using e
  subst hnames
  have hcontent : content = content' := by simpa [hentry] using hentry'
  subst hcontent
  have hdocument : document = document' := by simpa [hread] using hread'
  rw [hdocument]

theorem Context.IsAbout.eq_of_source_eq (hhome : home.source = none) (h : ctx.IsAbout store home)
    (h' : ctx'.IsAbout store home) (e : ctx.source = ctx'.source) : ctx = ctx' := by
  rcases h with h | h <;> rcases h' with h' | h'
  · rw [h, h']
  · rw [h, hhome] at e
    exact absurd e.symm h'.source_ne_none
  · rw [h', hhome] at e
    exact absurd e h.source_ne_none
  · exact h.eq_of_source_eq h' e

/-! ## Resolved references -/

/-- The reference leads to the node its pointer names, in a context that is about. -/
structure Resolved.IsAbout (store : Store) (home : Context) (r : Resolved) : Prop where
  context : r.context.IsAbout store home
  node : ∃ segments, Pointer.SlashFree segments ∧ r.pointer = Pointer.text segments ∧
    r.context.document.walk segments = some r.node

theorem Context.IsAbout.resolve (h : ctx.IsAbout store home)
    (hr : JsonRecords.resolve store text ctx = .ok r) : r.IsAbout store home := by
  obtain ⟨hcontext, hwalk, hpointer⟩ := resolve_eq_ok_iff.1 hr
  refine ⟨?_, _, Pointer.slashFree_segments _, hpointer, hwalk⟩
  rcases Reference.contextFrom_eq_ok_iff.1 hcontext with ⟨-, hlocal⟩ | ⟨-, hload⟩
  · exact hlocal ▸ h
  · exact Or.inr ⟨_, _, hload⟩

/-- A target is the name of one thing. -/
theorem Resolved.eq_of_target_eq (hhome : home.source = none) (h : r.IsAbout store home)
    (h' : r'.IsAbout store home) (e : r.target = r'.target) : r = r' := by
  obtain ⟨node, context, pointer⟩ := r
  obtain ⟨node', context', pointer'⟩ := r'
  simp only [Resolved.target, Target.mk.injEq] at e
  obtain ⟨hsource, rfl⟩ := e
  obtain rfl := h.context.eq_of_source_eq hhome h'.context hsource
  obtain ⟨segments, hfree, hpointer, hwalk⟩ := h.node
  obtain ⟨segments', hfree', hpointer', hwalk'⟩ := h'.node
  obtain rfl := Pointer.text_injective hfree hfree' (hpointer.symm.trans hpointer')
  have hnode : node = node' := Option.some.inj (hwalk.symm.trans hwalk')
  rw [hnode]

end JsonRecords
