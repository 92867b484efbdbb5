import JsonRecords.Proofs.FiniteExpansion

/-!
# Several documents on one compiler

A target does not tell documents in memory apart, as none of them has a source.  So a compiler that
has compiled one and goes on to another may give the second what it kept for the first
(`answers_recordThenList`): compilers are to be used for one document in memory only.

What is kept is the only way in which documents meet, however.  The compiler keeps shapes for the
references of a document (`Context.Meets`), and it keeps expansions.  If no later document has a
reference to a target of the same name that expands differently (`Agrees`), then each document is
answered as a new compiler answers it, whatever the others are (`answers_eq_compileContext`).
-/

namespace JsonRecords

open Json

variable {store : Store} {home ctx earlier later : Context} {done contexts : List Context}
  {r r' : Resolved} {c : Compiler}

/-! ## Documents that agree -/

/-- What the references in a document lead to, and the references in that, and so on. -/
inductive Context.Meets (store : Store) (ctx : Context) : Resolved → Prop where
  | root {v : Json} {text : String} {r : Resolved} (hv : v ∈ ctx.document.nodesOfObject)
      (ht : v.Mentions text) (hr : resolve store text ctx = .ok r) : Meets store ctx r
  | onward {r r' : Resolved} (h : Meets store ctx r) (hneeded : IsNeededFor store r' r) :
      Meets store ctx r'

/-- Where references in the two documents lead to targets of one name, and the target has an
expansion in the earlier document, it has the same one in the later document. -/
def Agrees (store : Store) (earlier later : Context) : Prop :=
  ∀ r r', earlier.Meets store r → later.Meets store r' → r.target = r'.target →
    ∀ s, Expands store r.context r.node s → Expands store r'.context r'.node s

theorem Context.Meets.isAbout (h : ctx.Meets store r) (hctx : ctx.IsAbout store home) :
    r.IsAbout store home := by
  induction h with
  | root _ _ hr => exact hctx.resolve hr
  | onward _ hneeded ih => exact hneeded.isAbout ih

/-- Files agree with everything that is about, and so does the one document in memory. -/
theorem agrees_of_isAbout (hhome : home.source = none) (hearlier : earlier.IsAbout store home)
    (hlater : later.IsAbout store home) : Agrees store earlier later := by
  intro r r' hr hr' htarget s hs
  obtain rfl := Resolved.eq_of_target_eq hhome (hr.isAbout hearlier) (hr'.isAbout hlater) htarget
  exact hs

theorem Context.Arises.agrees_self (hctx : ctx.Arises store) : Agrees store ctx ctx := by
  obtain ⟨home, hhome, habout⟩ := hctx.exists_home
  exact agrees_of_isAbout hhome habout habout

/-! ## What is kept for the documents that are done -/

/-- Each shape that the compiler keeps is the expansion of what some reference in one of the
documents leads to. -/
def Compiler.KnowsOnly (store : Store) (done : List Context) (c : Compiler) : Prop :=
  ∀ t s, c.shape? t = some s → ∃ ctx ∈ done, ∃ r, ctx.Meets store r ∧ r.target = t ∧
    Expands store r.context r.node s

theorem Compiler.knowsOnly_empty : Compiler.KnowsOnly store [] {} := by
  intro t s hs
  simp [shape?] at hs

theorem Compiler.KnowsOnly.cons (h : c.KnowsOnly store done) :
    c.KnowsOnly store (ctx :: done) := by
  intro t s hs
  obtain ⟨ctx', hctx', hr⟩ := h t s hs
  exact ⟨ctx', List.mem_cons_of_mem _ hctx', hr⟩

/-- While a document is compiled, the shapes kept for documents that agree with it are as good as
its own. -/
theorem keepsExpansions_knowsOnly (hagrees : ∀ ctx' ∈ ctx :: done, Agrees store ctx' ctx) :
    KeepsExpansions store (ctx.Meets store) (·.KnowsOnly store (ctx :: done)) where
  below := .onward
  expands := by
    intro c r s hc hr hs
    obtain ⟨ctx', hctx', r', hr', htarget, hexpands⟩ := hc _ s hs
    exact hagrees ctx' hctx' r' r hr' hr htarget s hexpands
  keep := by
    intro c r s hc hr h t s' hs'
    by_cases htarget : t = r.target
    · subst htarget
      rw [Compiler.shape?_keep_self] at hs'
      cases hs'
      exact ⟨ctx, List.mem_cons_self, r, hr, rfl, h⟩
    · rw [Compiler.shape?_keep_of_ne _ _ _ htarget] at hs'
      exact hc t s' hs'

/-- One more document is answered as a new compiler answers it. -/
theorem run_compileRoot_of_knowsOnly (hctx : ctx.Arises store) (hc : c.KnowsOnly store done)
    (hagrees : ∀ ctx' ∈ done, Agrees store ctx' ctx) :
    (c.run (Compiler.compileRoot store ctx)).1 = compileContext store ctx ∧
      (c.run (Compiler.compileRoot store ctx)).2.KnowsOnly store (ctx :: done) := by
  obtain ⟨home, hhome, habout⟩ := hctx.exists_home
  have hkeeps := keepsExpansions_knowsOnly
    (List.forall_mem_cons.2 ⟨hctx.agrees_self, hagrees⟩)
  rw [compileContext_eq hhome habout]
  refine (sharingWhile (·.KnowsOnly store (ctx :: done))).rootTypeOf (fun v hv => ?_) c hc.cons
  refine (sharingWhile _).shapeOf fun text ht => ?_
  exact sharingWhile_followAlong hkeeps hhome habout List.mem_cons_self
    (fun r hr => .root hv ht hr) fun _ _ => Awaits.nil

theorem answers_of_knowsOnly (harises : ∀ ctx ∈ contexts, ctx.Arises store)
    (hc : c.KnowsOnly store done) (hdone : ∀ ctx ∈ done, ∀ ctx' ∈ contexts, Agrees store ctx ctx')
    (hagree : contexts.Pairwise (Agrees store)) :
    c.answers store (contexts.map .root) =
      contexts.map fun ctx => (compileContext store ctx).map .record := by
  induction contexts generalizing c done with
  | nil => rfl
  | cons ctx rest ih =>
    obtain ⟨hfirst, hrest⟩ := List.pairwise_cons.1 hagree
    obtain ⟨hanswer, hknows⟩ := run_compileRoot_of_knowsOnly
      (harises ctx List.mem_cons_self) hc fun ctx' h => hdone ctx' h ctx List.mem_cons_self
    rw [List.map_cons, List.map_cons, Compiler.answers, ← hanswer]
    simp only [Compiler.Call.compile, Compiler.run_map]
    refine congrArg _ (ih (fun ctx' h => harises ctx' (List.mem_cons_of_mem _ h)) hknows ?_ hrest)
    refine List.forall_mem_cons.2 ⟨hfirst, fun ctx' h ctx'' h' => ?_⟩
    exact hdone ctx' h ctx'' (List.mem_cons_of_mem _ h')

/-- **Documents that agree do not disturb each other.**  A new compiler that is asked for one
document after the other, files and any number of documents in memory, answers each as a compiler of
its own would, provided that every document agrees with those after it. -/
theorem answers_eq_compileContext (store : Store) (contexts : List Context)
    (harises : ∀ ctx ∈ contexts, ctx.Arises store) (hagree : contexts.Pairwise (Agrees store)) :
    Compiler.answers store {} (contexts.map .root) =
      contexts.map fun ctx => (compileContext store ctx).map .record :=
  answers_of_knowsOnly harises Compiler.knowsOnly_empty (by simp) hagree

/-! ## Documents with a target of one name -/

def noFiles : Store where
  workDir := "/"
  entries := []

/-- The schema of a record with one field, whose reference leads to a definition in the document. -/
def withDefinition (field : String) (definition : Json) : Context :=
  .ofDocument (.object [("type", .string "object"),
    ("properties", .object [(field, .object [("$ref", .string "#/d")])]), ("d", definition)]) ""

def ofType (name : String) : Json := .object [("type", .string name)]

theorem not_mentions_ofType (name text : String) : ¬ (ofType name).Mentions text := by
  have hreference : (ofType name).get? "$ref" = none := by rfl
  have hbelow : (ofType name).nodesBelow = [] := by
    have hproperties : (ofType name).get? "properties" = none := by rfl
    have hpatterns : (ofType name).get? "patternProperties" = none := by rfl
    have hitems : (ofType name).get? "items" = none := by rfl
    simp [nodesBelow, nodesOfObject, keywordMembers, hproperties, hpatterns, hitems]
  rintro (href | ⟨-, hv, -⟩)
  · simp [hreference] at href
  · simp [hbelow] at hv

theorem eq_of_meets_withDefinition {field name : String}
    (h : (withDefinition field (ofType name)).Meets noFiles r) :
    r = ⟨ofType name, withDefinition field (ofType name), "/d"⟩ := by
  induction h with
  | @root v text r hv ht hr =>
    have hnodes : (withDefinition field (ofType name)).document.nodesOfObject =
        [.object [("$ref", .string "#/d")]] := by rfl
    obtain rfl : v = .object [("$ref", .string "#/d")] := by simpa [hnodes] using hv
    obtain rfl : text = "#/d" := ht.eq_of_reference rfl
    have hresolve : resolve noFiles "#/d" (withDefinition field (ofType name)) =
      .ok ⟨ofType name, withDefinition field (ofType name), "/d"⟩ := by rfl
    exact Except.ok.inj (hr.symm.trans hresolve)
  | onward _ hneeded ih =>
    obtain ⟨text, ht, -⟩ := hneeded
    rw [ih] at ht
    exact absurd ht (not_mentions_ofType name text)

theorem agrees_withDefinition (field field' name : String) :
    Agrees noFiles (withDefinition field (ofType name)) (withDefinition field' (ofType name)) := by
  intro r r' hr hr' _ s hs
  rw [eq_of_meets_withDefinition hr] at hs
  rw [eq_of_meets_withDefinition hr']
  exact hs.of_not_mentions (not_mentions_ofType name)

/-- Both documents have a definition at the same place, and it is the same. -/
def sameDefinition : List Context :=
  [withDefinition "a" (ofType "object"), withDefinition "b" (ofType "object")]

theorem answers_sameDefinition :
    (∀ ctx ∈ sameDefinition, ctx.Arises noFiles) ∧ sameDefinition.Pairwise (Agrees noFiles) ∧
    Compiler.answers noFiles {} (sameDefinition.map .root) =
      sameDefinition.map fun ctx => (compileContext noFiles ctx).map .record := by
  have harises : ∀ ctx ∈ sameDefinition, ctx.Arises noFiles := by
    simp only [sameDefinition, List.forall_mem_cons]
    exact ⟨Or.inl ⟨_, _, rfl⟩, Or.inl ⟨_, _, rfl⟩, List.forall_mem_nil _⟩
  have hagree : sameDefinition.Pairwise (Agrees noFiles) := by
    simp [sameDefinition, agrees_withDefinition]
  exact ⟨harises, hagree, answers_eq_compileContext noFiles sameDefinition harises hagree⟩

/-- The documents have different definitions at the same place. -/
def recordThenList : List Context :=
  [withDefinition "a" (ofType "object"), withDefinition "a" (ofType "array")]

/-- Whether the answer is a record type in which the types of a field include `array`. -/
def Compiler.Answer.hasList (field : String) : Compiler.Answer → Bool
  | .record t => ((t.fields.lookup field).bind (·.items)).isSome
  | .shape _ => false

/-- The second document is given the definition of the first one: its field is the list that it asks
for only if the compiler is a new one. -/
theorem answers_recordThenList :
    Compiler.answers noFiles {} (recordThenList.map .root) ≠
      recordThenList.map fun ctx => (compileContext noFiles ctx).map .record := by
  intro h
  have hlists := congrArg (List.map (·.toOption.map (Compiler.Answer.hasList "a"))) h
  have hshared : (Compiler.answers noFiles {} (recordThenList.map .root)).map
      (·.toOption.map (Compiler.Answer.hasList "a")) = [some false, some false] := by
    decide +kernel
  have hnew : (recordThenList.map fun ctx => (compileContext noFiles ctx).map .record).map
      (·.toOption.map (Compiler.Answer.hasList "a")) = [some false, some true] := by
    decide +kernel
  rw [hshared, hnew] at hlists
  simp at hlists

end JsonRecords
