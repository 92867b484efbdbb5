import JsonRecords.Proofs.CompilerRuns
import JsonRecords.Proofs.ReorderedSchemas

/-!
# Distinct names

In a document no object has a key twice, so no type that the compiler builds declares a name twice
or has two patterns with the same text, at whatever depth (`Shape.Distinct`).  This is what makes
the lists of fields and patterns maps: looking up a name finds the only entry there is, and printing
them as the members of an object loses none of them.

A compiler may hand out what it kept in an earlier call, which need not fit the document at hand.
The proof asks nothing of a kept shape but that its names are distinct: `Compiler.Ensures` says of a
computation that it keeps only such shapes if none but such were kept before, and it is carried
through the descent (`ensures_shapeOf`) and along the references (`ensures_followAlong`).
-/

namespace JsonRecords

open Json Association

variable {store : Store} {root ctx : Context} {path : List Target} {text : String} {r : Resolved}
  {node : Json} {s : Shape} {t u : RecordType} {c : Compiler}

/-! ## Types with distinct names -/

/-- No field is declared twice, and no two patterns have the same text. -/
structure RecordType.NamesDistinct (t : RecordType) : Prop where
  fields : t.fieldNames.Nodup
  patterns : t.patternTexts.Nodup

/-- The names are distinct in all record types of a shape, at any depth. -/
def Shape.Distinct (s : Shape) : Prop :=
  ∀ t, Reaches t s → t.NamesDistinct

/-- The shape that makes records of objects and leaves arrays as they are. -/
def RecordType.toShape (t : RecordType) : Shape := ⟨some t, none⟩

/-- What a record type of a shape reaches, the shape reaches. -/
theorem Reaches.trans (hu : Reaches u t.toShape) (ht : Reaches t s) : Reaches u s := by
  induction ht with
  | here ht =>
    cases hu with
    | here h =>
      cases h
      exact .here ht
    | field h he hu =>
      cases h
      exact .field ht he hu
    | pattern h he hu =>
      cases h
      exact .pattern ht he hu
    | items h _ => cases h
  | field h he _ ih => exact .field h he ih
  | pattern h he _ ih => exact .pattern h he ih
  | items hi _ ih => exact .items hi ih

theorem reaches_toShape (t : RecordType) : Reaches t t.toShape := .here rfl

theorem not_reaches_plain (t : RecordType) : ¬ Reaches t .plain := by
  intro ht
  cases ht with
  | here h => cases h
  | field h _ _ => cases h
  | pattern h _ _ => cases h
  | items h _ => cases h

/-- What the shape of a key reaches, the type reaches. -/
theorem reaches_of_shapeFor {key : String} (h : Reaches u (t.shapeFor key)) :
    Reaches u t.toShape := by
  cases hbelow : t.shapeOf? key with
  | none =>
    rw [RecordType.shapeFor, hbelow] at h
    exact absurd h (not_reaches_plain u)
  | some below =>
    rw [RecordType.shapeFor, hbelow] at h
    exact reaches_of_shapeOf? rfl hbelow h

theorem reaches_iff : Reaches t s ↔
    (∃ u, s.record = some u ∧ Reaches t u.toShape) ∨ ∃ i, s.items = some i ∧ Reaches t i := by
  constructor
  · intro h
    cases h with
    | here h => exact .inl ⟨t, h, reaches_toShape t⟩
    | field h he ht => exact .inl ⟨_, h, .field rfl he ht⟩
    | pattern h he ht => exact .inl ⟨_, h, .pattern rfl he ht⟩
    | items h ht => exact .inr ⟨_, h, ht⟩
  · rintro (⟨u, hu, ht⟩ | ⟨i, hi, ht⟩)
    · exact ht.trans (.here hu)
    · exact .items hi ht

namespace Shape

theorem distinct_plain : Shape.plain.Distinct :=
  fun t ht => absurd ht (not_reaches_plain t)

theorem Distinct.reached (hs : s.Distinct) (ht : Reaches t s) : t.toShape.Distinct :=
  fun u hu => hs u (hu.trans ht)

theorem distinct_iff : s.Distinct ↔
    (∀ t, s.record = some t → t.toShape.Distinct) ∧ ∀ i, s.items = some i → i.Distinct := by
  constructor
  · intro h
    exact ⟨fun t ht => h.reached (.here ht), fun i hi t ht => h t (.items hi ht)⟩
  · rintro ⟨hrecord, hitems⟩ t ht
    rcases reaches_iff.1 ht with ⟨u, hu, ht⟩ | ⟨i, hi, ht⟩
    · exact hrecord u hu t ht
    · exact hitems i hi t ht

end Shape

theorem RecordType.distinct_shapeFor (ht : t.toShape.Distinct) (key : String) :
    (t.shapeFor key).Distinct :=
  fun u hu => ht u (reaches_of_shapeFor hu)

theorem RecordType.distinct_iff : t.toShape.Distinct ↔
    t.NamesDistinct ∧ (∀ e ∈ t.fields, e.2.Distinct) ∧ ∀ e ∈ t.patterns, e.2.Distinct := by
  constructor
  · intro h
    exact ⟨h t (reaches_toShape t), fun e he u hu => h u (.field rfl he hu),
      fun e he u hu => h u (.pattern rfl he hu)⟩
  · rintro ⟨hnames, hfields, hpatterns⟩ u hu
    cases hu with
    | here h =>
      cases h
      exact hnames
    | field h he hu =>
      cases h
      exact hfields _ he u hu
    | pattern h he hu =>
      cases h
      exact hpatterns _ he u hu
    | items h _ => cases h

/-! ## Computations that keep names distinct -/

namespace Compiler

/-- All shapes that the compiler keeps have distinct names. -/
def KeepsDistinct (c : Compiler) : Prop :=
  ∀ target s, c.shape? target = some s → s.Distinct

theorem keepsDistinct_empty : KeepsDistinct {} := by
  intro target s hs
  simp [shape?] at hs

theorem KeepsDistinct.keep {target : Target} (hc : c.KeepsDistinct) (hs : s.Distinct) :
    (c.keep target s).KeepsDistinct := by
  intro other s' hs'
  by_cases h : other = target
  · subst h
    rw [shape?_keep_self] at hs'
    cases hs'
    exact hs
  · rw [shape?_keep_of_ne _ _ _ h] at hs'
    exact hc other s' hs'

/-- Run on a compiler that keeps shapes with distinct names only, the computation leaves such a
compiler behind, and what it gives has the property. -/
def Ensures (P : α → Prop) (x : CompileM α) : Prop :=
  ∀ c : Compiler, c.KeepsDistinct →
    (c.run x).2.KeepsDistinct ∧ ∀ a, (c.run x).1 = .ok a → P a

namespace Ensures

variable {α β : Type} {P : α → Prop} {Q : β → Prop} {x : CompileM α}

theorem pure {a : α} (h : P a) : Ensures P (pure a) := by
  intro c hc
  refine ⟨hc, fun a' ha' => ?_⟩
  cases ha'
  exact h

theorem raise (e : SchemaError) : Ensures P (throw e) := by
  intro c hc
  refine ⟨hc, fun a ha => ?_⟩
  cases ha

theorem bind {f : α → CompileM β} (hx : Ensures P x) (hf : ∀ a, P a → Ensures Q (f a)) :
    Ensures Q (x >>= f) := by
  intro c hc
  obtain ⟨hkeeps, hanswer⟩ := hx c hc
  rw [run_bind]
  cases h : c.run x with
  | mk answer c' =>
    rw [h] at hkeeps hanswer
    cases answer with
    | error e => exact ⟨hkeeps, fun b hb => by cases hb⟩
    | ok a => exact hf a (hanswer a rfl) c' hkeeps

theorem map {f : α → β} (hx : Ensures P x) (hf : ∀ a, P a → Q (f a)) : Ensures Q (f <$> x) := by
  rw [map_eq_pure_bind]
  exact hx.bind fun a ha => .pure (hf a ha)

theorem mapM {R : α → β → Prop} {f : α → CompileM β} {as : List α}
    (h : ∀ a ∈ as, Ensures (R a) (f a)) : Ensures (List.Forall₂ R as) (as.mapM f) := by
  induction as with
  | nil => exact .pure .nil
  | cons a rest ih =>
    obtain ⟨ha, hrest⟩ := List.forall_mem_cons.1 h
    rw [List.mapM_cons]
    refine ha.bind fun b hb => (ih hrest).bind fun bs hbs => ?_
    exact .pure (.cons hb hbs)

theorem readPattern (text : String) :
    Ensures (fun p => p.text = text) (readPattern (m := CompileM) text) := by
  unfold JsonRecords.readPattern
  split
  · exact .pure (Pattern.text_of_ofText?_eq_some ‹_›)
  · exact .raise _

end Ensures

end Compiler

/-! ## The descent through a schema -/

section

open Compiler

variable {f : String → CompileM Shape}

theorem ensures_recordTypeOf (hnode : node.WellFormed)
    (h : ∀ v ∈ node.nodesOfObject, Ensures Shape.Distinct (shapeOf f v)) :
    Ensures (fun t => t.toShape.Distinct) (recordTypeOf f node) := by
  have hnodup : ∀ keyword, (keys (node.keywordMembers keyword)).Nodup :=
    (SameContent.refl hnode).nodup_keywordMembers
  rw [recordTypeOf_eq]
  have hfields : Ensures
      (List.Forall₂ (fun m e => e.1 = m.1 ∧ e.2.Distinct) (node.keywordMembers "properties"))
      (readFields (shapeOf f) (node.keywordMembers "properties")) := by
    refine Ensures.mapM fun m hm => ?_
    have hm : m.2 ∈ node.nodesOfObject := List.mem_append_left _ (List.mem_map_of_mem hm)
    exact (h m.2 hm).bind fun s hs => .pure ⟨rfl, hs⟩
  have hpatterns : Ensures
      (List.Forall₂ (fun m e => e.1.text = m.1 ∧ e.2.Distinct)
        (node.keywordMembers "patternProperties"))
      (readPatterns (shapeOf f) (node.keywordMembers "patternProperties")) := by
    refine Ensures.mapM fun m hm => (Ensures.readPattern m.1).bind fun p hp => ?_
    have hm : m.2 ∈ node.nodesOfObject := List.mem_append_right _ (List.mem_map_of_mem hm)
    exact (h m.2 hm).bind fun s hs => .pure ⟨hp, hs⟩
  refine hfields.bind fun fields hf => hpatterns.bind fun patterns hp => .pure ?_
  have hnames := hnodup "properties"
  have htexts := hnodup "patternProperties"
  rw [← ((forall₂_members_iff (P := fun _ s => s.Distinct) id).1 hf).1] at hnames
  rw [← ((forall₂_members_iff (P := fun _ s => s.Distinct) Pattern.text).1 hp).1] at htexts
  refine RecordType.distinct_iff.2 ⟨⟨hnames, htexts⟩, fun e he => ?_, fun e he => ?_⟩
  · obtain ⟨m, -, -, hs⟩ := exists_of_forall₂_of_mem hf he
    exact hs
  · obtain ⟨m, -, -, hs⟩ := exists_of_forall₂_of_mem hp he
    exact hs

theorem ensures_itemsOf (node : Json)
    (h : ∀ v, node.get? "items" = some v → Ensures Shape.Distinct (shapeOf f v)) :
    Ensures Shape.Distinct (itemsOf f node) := by
  rw [itemsOf_eq]
  split
  · exact h _ ‹_›
  · exact .pure Shape.distinct_plain

theorem ensures_rootTypeOf (hctx : ctx.document.WellFormed)
    (h : ∀ v ∈ ctx.document.nodesOfObject, Ensures Shape.Distinct (shapeOf f v)) :
    Ensures (fun t => t.toShape.Distinct) (rootTypeOf f ctx) := by
  rcases rootForm f ctx with ⟨-, hroot⟩ | ⟨-, e, hroot⟩
  · rw [hroot]
    exact ensures_recordTypeOf hctx h
  · rw [hroot]
    exact .raise _

/-- A descent keeps names distinct if following the references in the node does. -/
theorem ensures_shapeOf (hnode : node.WellFormed)
    (h : ∀ text, node.Mentions text → Ensures Shape.Distinct (f text)) :
    Ensures Shape.Distinct (shapeOf f node) := by
  -- the nodes below are well-formed too, and they are smaller
  induction hsize : sizeOf node using Nat.strongRecOn generalizing node with
  | _ size ih =>
    subst hsize
    rcases nodeForm node with hobject | ⟨text, href⟩ | ⟨v, href, hv⟩ | ⟨hobject, href⟩
    · rw [shapeOf_of_not_isObject f node hobject]
      exact .pure Shape.distinct_plain
    · rw [shapeOf_of_reference f node href]
      exact h text (.here href)
    · rw [shapeOf_of_malformed f node href hv]
      exact .raise _
    · have hbelow : ∀ v ∈ node.nodesBelow, Ensures Shape.Distinct (shapeOf f v) := by
        intro v hv
        obtain ⟨w, -, hw⟩ := (SameContent.refl hnode).exists_mem_nodesBelow hv
        refine ih _ (sizeOf_lt_of_mem_nodesBelow hv) ?_ (fun text ht => h text ?_) rfl
        · exact hw.symm.wellFormed
        · exact .nested href hv ht
      rw [shapeOf_of_keywords f node hobject href]
      have hrecord : Ensures (fun record => ∀ t, record = some t → t.toShape.Distinct)
          (recordPart f node) := by
        unfold recordPart
        split
        · rename_i htypes
          have htype := ensures_recordTypeOf hnode fun v hv =>
            hbelow v (by simp [nodesBelow, htypes, hv])
          exact htype.map fun t ht u hu => Option.some.inj hu ▸ ht
        · exact .pure fun t ht => by cases ht
      have hitems : Ensures (fun items => ∀ i, items = some i → i.Distinct)
          (itemsPart f node) := by
        unfold itemsPart
        split
        · rename_i htypes
          have hshape := ensures_itemsOf node fun v hv =>
            hbelow v (by simp [nodesBelow, htypes, hv])
          exact hshape.map fun s hs i hi => Option.some.inj hi ▸ hs
        · exact .pure fun i hi => by cases hi
      exact hrecord.bind fun record hrecord => hitems.bind fun items hitems =>
        .pure (Shape.distinct_iff.2 ⟨hrecord, hitems⟩)

end

/-! ## Following references -/

/-- A reference in a well-formed document leads to a node of a well-formed document. -/
theorem wellFormed_of_resolve (hctx : ctx.document.WellFormed)
    (hr : resolve store text ctx = .ok r) : r.context.document.WellFormed ∧ r.node.WellFormed := by
  have hsame : ctx.SameContent ctx := ⟨.refl hctx, rfl⟩
  obtain ⟨r', -, hcontext, hnode⟩ := hsame.resolve hr
  exact ⟨hcontext.document.wellFormed, hnode.wellFormed⟩

open Compiler in
theorem ensures_followAlong (hwellFormed : ctx.document.WellFormed)
    (hctx : ctx ∈ root :: store.documents) :
    Ensures Shape.Distinct (followAlong store root path ctx hctx text) := by
  induction hleft : targetsLeft (store.targetsFrom root) path using Nat.strongRecOn
    generalizing path ctx text with
  | _ left ih =>
    subst hleft
    intro c hc
    cases hr : resolve store text ctx with
    | error e =>
      rw [run_followAlong_of_error hctx hr]
      exact ⟨hc, fun s hs => by cases hs⟩
    | ok r =>
      obtain ⟨hdocument, hnode⟩ := wellFormed_of_resolve hwellFormed hr
      cases hs : c.shape? r.target with
      | some s =>
        rw [run_followAlong_of_known hctx hr hs]
        refine ⟨hc, fun s' hs' => ?_⟩
        cases hs'
        exact hc _ _ hs
      | none =>
        by_cases hp : r.target ∈ path
        · rw [run_followAlong_of_mem hctx hr hs hp]
          exact ⟨hc, fun s hs => by cases hs⟩
        · have hbelow : Ensures Shape.Distinct
              (shapeOf (followAlong store root (r.target :: path) r.context
                (mem_contexts_of_resolve hctx hr)) r.node) :=
            ensures_shapeOf hnode fun text _ => ih _ (targetsLeft_lt hctx hr hp) hdocument _ rfl
          obtain ⟨hkeeps, hanswer⟩ := hbelow c hc
          rw [run_followAlong_of_not_mem hctx hr hs hp]
          cases hrun : c.run (shapeOf (followAlong store root (r.target :: path) r.context
              (mem_contexts_of_resolve hctx hr)) r.node) with
          | mk answer c' =>
            rw [hrun] at hkeeps hanswer
            cases answer with
            | error e => exact ⟨hkeeps, fun s hs => by cases hs⟩
            | ok s =>
              refine ⟨hkeeps.keep (hanswer s rfl), fun s' hs' => ?_⟩
              cases hs'
              exact hanswer s rfl

/-! ## What is built -/

namespace Compiler

/-- The node that a call is about. -/
def Call.subject : Call → Json
  | .root ctx => ctx.document
  | .object _ node => node
  | .items _ node => node

/-- No object has a key twice in what the call is about, as in all that is loaded. -/
structure Call.WellFormed (call : Call) : Prop where
  document : call.context.document.WellFormed
  subject : call.subject.WellFormed

/-- The shape that is the answer, or that makes the records of the answer. -/
def Answer.toShape : Answer → Shape
  | .record t => t.toShape
  | .shape s => s

theorem ensures_compile (store : Store) {call : Call} (hcall : call.WellFormed) :
    Ensures (fun a => a.toShape.Distinct) (call.compile store) := by
  have hbelow : ∀ v, v.WellFormed →
      Ensures Shape.Distinct (shapeOf (follow store call.context) v) := fun v hv =>
    ensures_shapeOf hv fun text _ => ensures_followAlong hcall.document _
  have hrecord : ∀ node : Json, node.WellFormed → ∀ v ∈ node.nodesOfObject,
      Ensures Shape.Distinct (shapeOf (follow store call.context) v) := by
    intro node hnode v hv
    obtain ⟨w, -, hw⟩ := (SameContent.refl hnode).exists_mem_nodesOfObject hv
    exact hbelow v hw.symm.wellFormed
  rw [call.compile_eq]
  cases call with
  | root ctx =>
    have htype := ensures_rootTypeOf hcall.document (hrecord _ hcall.document)
    exact htype.map fun _ ht => ht
  | object ctx node =>
    have htype := ensures_recordTypeOf hcall.subject (hrecord _ hcall.subject)
    exact htype.map fun _ ht => ht
  | items ctx node =>
    have hshape := ensures_itemsOf node fun v hv => hbelow v ?_
    · exact hshape.map fun _ hs => hs
    · have hitems := (SameContent.refl hcall.subject).get? "items"
      rw [Call.subject, hv] at hitems
      cases hitems with
      | some h => exact h.wellFormed

theorem distinct_of_mem_answers {calls : List Call} {a : Answer} (hc : c.KeepsDistinct)
    (hcalls : ∀ call ∈ calls, call.WellFormed) (ha : .ok a ∈ c.answers store calls) :
    a.toShape.Distinct := by
  induction calls generalizing c with
  | nil => cases ha
  | cons call rest ih =>
    obtain ⟨hcall, hrest⟩ := List.forall_mem_cons.1 hcalls
    obtain ⟨hkeeps, hanswer⟩ := ensures_compile store hcall c hc
    rw [answers] at ha
    rcases List.mem_cons.1 ha with ha | ha
    · exact hanswer a ha.symm
    · exact ih hkeeps hrest ha

end Compiler

/-- The type is one that a compiler has built: it stands, at some depth, in an answer to one of the
calls made on a new compiler. -/
def RecordType.IsBuilt (store : Store) (t : RecordType) : Prop :=
  ∃ calls : List Compiler.Call, (∀ call ∈ calls, call.WellFormed) ∧
    ∃ a, .ok a ∈ Compiler.answers store {} calls ∧ Reaches t a.toShape

theorem RecordType.IsBuilt.distinct (h : t.IsBuilt store) : t.toShape.Distinct := by
  obtain ⟨calls, hcalls, a, ha, ht⟩ := h
  exact (Compiler.distinct_of_mem_answers Compiler.keepsDistinct_empty hcalls ha).reached ht

theorem isBuilt_of_compileContext (hctx : ctx.document.WellFormed)
    (h : compileContext store ctx = .ok t) : t.IsBuilt store := by
  refine ⟨[.root ctx], by simpa using ⟨hctx, hctx⟩, .record t, ?_, reaches_toShape t⟩
  simp only [Compiler.answers, Compiler.Call.compile, Compiler.run_map, List.mem_singleton]
  rw [compileContext] at h
  rw [h]
  rfl

/-- The types of documents in memory are built. -/
theorem isBuilt_of_compileDocument {document : Json} {baseDir : String}
    (hdocument : document.WellFormed) (h : compileDocument store document baseDir = .ok t) :
    t.IsBuilt store :=
  isBuilt_of_compileContext hdocument h

/-- The types of files are built. -/
theorem isBuilt_of_compileFile {rootDir path : String}
    (h : compileFile store rootDir path = .ok t) : t.IsBuilt store := by
  cases hload : Context.load store path rootDir with
  | error e =>
    unfold compileFile at h
    simp only [hload] at h
    cases h
  | ok ctx =>
    rw [compileFile_of_load hload] at h
    exact isBuilt_of_compileContext (Context.sameContent_of_load hload).document.wellFormed h

end JsonRecords
