import JsonRecords.Proofs.DirectBinding
import JsonRecords.Proofs.EqualContent
import JsonRecords.Proofs.LoadedDocuments

/-!
# Schemas with their keys in another order

The members of a schema are compiled in document order, references are followed when they come up,
and the first fault ends it all.  So a document whose keys stand in another order is compiled along
another way.  But whether it compiles does not depend on the order, and the order of the keys
decides nothing in the record type but the order of fields and of patterns
(`compileDocument_of_same`).

The way of the compiler plays no part in the proof, since compiling is finding the expansion.  A
document has an expansion if the reordered one has (`exists_expands_of_sameContent`): the node in
each place expands because the node with the same key does.  And two expansions are equal up to the
order of fields and patterns (`Expands.reordered`), as each of them is determined place by place.
-/

namespace JsonRecords

open Json Association

variable {store : Store} {ctx ctx' : Context} {node node' : Json} {text : String} {r : Resolved}
  {s s' : Shape} {t t' : RecordType}

/-! ## Record types up to the order of fields and patterns -/

mutual

/-- Shapes that differ in nothing but the order of fields and patterns in their record types. -/
inductive Shape.Reordered : Shape → Shape → Prop where
  | intro {s s' : Shape} (record : Option.Rel RecordType.Reordered s.record s'.record)
      (items : Option.Rel Shape.Reordered s.items s'.items) : Shape.Reordered s s'

/-- The same flags, the same names of fields, once each and in some order, with the same shapes, and
the same patterns, likewise. -/
inductive RecordType.Reordered : RecordType → RecordType → Prop where
  | intro {t t' : RecordType} (allows : t.allowsAdditional = t'.allowsAdditional)
      (explicit : t.additionalExplicit = t'.additionalExplicit)
      (names : t.fieldNames.Perm t'.fieldNames) (distinctNames : t.fieldNames.Nodup)
      (fields : ∀ name below below', t.fieldShape? name = some below →
        t'.fieldShape? name = some below' → Shape.Reordered below below')
      (texts : t.patternTexts.Perm t'.patternTexts) (distinctTexts : t.patternTexts.Nodup)
      (patterns : ∀ text below below', t.patternShape? text = some below →
        t'.patternShape? text = some below' → Shape.Reordered below below') :
      RecordType.Reordered t t'

end

/-! ## What does not depend on the order of keys -/

theorem Json.keywordMembers_eq (node : Json) (keyword : String) :
    node.keywordMembers keyword = ((node.get? keyword).getD .null).members := by
  rw [keywordMembers]
  cases node.get? keyword <;> rfl

namespace Json.SameContent

/-- What stands under a keyword, null if nothing does. -/
theorem getD_null (h : SameContent node node') (keyword : String) :
    SameContent ((node.get? keyword).getD .null) ((node'.get? keyword).getD .null) := by
  have hvalue := h.get? keyword
  revert hvalue
  generalize node.get? keyword = v
  generalize node'.get? keyword = v'
  rintro (hvalue | -)
  · exact hvalue
  · exact .refl .null

theorem keywordMembers (h : SameContent node node') (keyword : String) :
    SameEntries SameContent (node.keywordMembers keyword) (node'.keywordMembers keyword) := by
  rw [keywordMembers_eq, keywordMembers_eq]
  exact (h.getD_null keyword).members

theorem nodup_keywordMembers (h : SameContent node node') (keyword : String) :
    (keys (node.keywordMembers keyword)).Nodup := by
  rw [keywordMembers_eq]
  exact (h.getD_null keyword).nodup_keys

theorem get?_eq_none_iff (h : SameContent node node') (key : String) :
    node.get? key = none ↔ node'.get? key = none := by
  rw [← Option.not_isSome_iff_eq_none, ← Option.not_isSome_iff_eq_none,
    isSome_eq_of_rel (h.get? key)]

/-- A value that is the same as itself only stands under a key on both sides or on neither. -/
theorem get?_eq_some_iff (h : SameContent node node') (key : String) {c : Json}
    (hc : ∀ {v w : Json}, v.same w = true → (v = c ↔ w = c)) :
    node.get? key = some c ↔ node'.get? key = some c := by
  have hvalue := h.get? key
  revert hvalue
  generalize node.get? key = v
  generalize node'.get? key = v'
  rintro (hvalue | -)
  · rw [Option.some.injEq, Option.some.injEq, hc hvalue.same]
  · simp

theorem get?_eq_string_iff (h : SameContent node node') (key : String) :
    node.get? key = some (.string text) ↔ node'.get? key = some (.string text) :=
  h.get?_eq_some_iff key eq_string_iff_of_same

theorem get?_eq_bool_iff (h : SameContent node node') (key : String) (b : Bool) :
    node.get? key = some (.bool b) ↔ node'.get? key = some (.bool b) :=
  h.get?_eq_some_iff key eq_bool_iff_of_same

theorem keywordTexts_eq (h : SameContent node node') :
    TypeSet.keywordTexts node = TypeSet.keywordTexts node' := by
  cases node with
  | string text =>
    obtain rfl := (eq_string_iff_of_same h.same).1 rfl
    rfl
  | array vs =>
    obtain ⟨ws, rfl⟩ := exists_array_of_same h.same
    have hitems := h.items
    clear h
    induction hitems with
    | nil => rfl
    | @cons v w vs ws hvw _ ih =>
      have hstring : ∀ text, v = .string text ↔ w = .string text := fun text =>
        eq_string_iff_of_same hvw.same
      simp only [TypeSet.keywordTexts, List.filterMap_cons] at ih ⊢
      cases v <;> cases w <;> simp_all
  | _ => cases node' <;> first | rfl | cases h.same

theorem ofSchema_eq (h : SameContent node node') :
    TypeSet.ofSchema node = TypeSet.ofSchema node' := by
  have hvalue := h.get? "type"
  unfold TypeSet.ofSchema
  revert hvalue
  generalize node.get? "type" = v
  generalize node'.get? "type" = v'
  rintro (hvalue | -)
  · simp only [Option.map_some, Option.getD_some, TypeSet.ofKeyword, hvalue.keywordTexts_eq]
  · rfl

/-- Each node directly below an object schema has the content of one below the other. -/
theorem exists_mem_nodesOfObject (h : SameContent node node') {v' : Json}
    (hv' : v' ∈ node'.nodesOfObject) : ∃ v ∈ node.nodesOfObject, SameContent v v' := by
  have hkeyword : ∀ keyword, v' ∈ (node'.keywordMembers keyword).map Prod.snd →
      ∃ v ∈ (node.keywordMembers keyword).map Prod.snd, SameContent v v' := by
    intro keyword hv'
    obtain ⟨e', he', rfl⟩ := List.mem_map.1 hv'
    have hfound := lookup_eq_some_of_mem (h.symm.nodup_keywordMembers keyword) he'
    obtain ⟨v, hv, hsame⟩ := (h.keywordMembers keyword).exists_lookup_left hfound
    exact ⟨v, List.mem_map.2 ⟨_, mem_of_lookup_eq_some hv, rfl⟩, hsame⟩
  rw [nodesOfObject, List.mem_append] at hv'
  simp only [nodesOfObject, List.mem_append]
  rcases hv' with hv' | hv'
  · obtain ⟨v, hv, hsame⟩ := hkeyword _ hv'
    exact ⟨v, Or.inl hv, hsame⟩
  · obtain ⟨v, hv, hsame⟩ := hkeyword _ hv'
    exact ⟨v, Or.inr hv, hsame⟩

theorem exists_mem_nodesBelow (h : SameContent node node') {v' : Json}
    (hv' : v' ∈ node'.nodesBelow) : ∃ v ∈ node.nodesBelow, SameContent v v' := by
  rw [nodesBelow, ← h.ofSchema_eq, List.mem_append] at hv'
  simp only [nodesBelow, List.mem_append]
  rcases hv' with hv' | hv'
  · split at hv'
    · obtain ⟨v, hv, hsame⟩ := h.exists_mem_nodesOfObject hv'
      exact ⟨v, Or.inl (by simp [*]), hsame⟩
    · cases hv'
  · split at hv'
    · have hitems := h.get? "items"
      rw [Option.mem_toList.1 hv'] at hitems
      generalize hv : node.get? "items" = v at hitems
      cases hitems with
      | some hsame => exact ⟨_, Or.inr (by simp [*]), hsame⟩
    · cases hv'

end Json.SameContent

/-- A context with the document reordered: file names start from the same directory. -/
structure Context.SameContent (ctx ctx' : Context) : Prop where
  document : Json.SameContent ctx.document ctx'.document
  baseDir : ctx.baseDir = ctx'.baseDir

theorem Context.sameContent_of_load {path dir : String}
    (h : Context.load store path dir = .ok ctx) : ctx.SameContent ctx := by
  obtain ⟨names, content, document, -, hread, rfl⟩ := Context.exists_file_of_load h
  exact ⟨.refl (Json.wellFormed_of_read hread), rfl⟩

/-- A reference leads to the same content from either of two contexts. -/
theorem Context.SameContent.resolve (h : ctx.SameContent ctx')
    (hr : JsonRecords.resolve store text ctx = .ok r) :
    ∃ r', JsonRecords.resolve store text ctx' = .ok r' ∧ r.context.SameContent r'.context ∧
      Json.SameContent r.node r'.node := by
  have hcontext : ∀ context, (Reference.parse text).contextFrom store ctx = .ok context →
      ∃ context', (Reference.parse text).contextFrom store ctx' = .ok context' ∧
        context.SameContent context' := by
    intro context hcontext
    rcases Reference.contextFrom_eq_ok_iff.1 hcontext with ⟨hlocal, rfl⟩ | ⟨hforeign, hload⟩
    · exact ⟨ctx', Reference.contextFrom_eq_ok_iff.2 (Or.inl ⟨hlocal, rfl⟩), h⟩
    · have hload' := hload
      rw [h.baseDir] at hload'
      exact ⟨context, Reference.contextFrom_eq_ok_iff.2 (Or.inr ⟨hforeign, hload'⟩),
        Context.sameContent_of_load hload⟩
  obtain ⟨hfrom, hnode, hpointer⟩ := resolve_eq_ok_iff.1 hr
  obtain ⟨context', hfrom', hsame⟩ := hcontext r.context hfrom
  have hwalk := hsame.document.walk (Pointer.segments (Reference.parse text).pointer)
  rw [hnode] at hwalk
  obtain ⟨node', hnode', hnodes⟩ := exists_of_some_rel hwalk
  have hr' : JsonRecords.resolve store text ctx' = .ok ⟨node', context', r.pointer⟩ :=
    resolve_eq_ok_iff.2 ⟨hfrom', hnode', hpointer⟩
  exact ⟨_, hr', hsame, hnodes⟩

/-! ## Members in their places -/

section

variable {α : Type} {P : Json → Shape → Prop} {ms : List (String × Json)}
  {entries : List (α × Shape)}

/-- Entries stand for members in the same places. -/
theorem forall₂_members_iff (name : α → String) :
    List.Forall₂ (fun m e => name e.1 = m.1 ∧ P m.2 e.2) ms entries ↔
      entries.map (fun e => name e.1) = keys ms ∧
        ∀ p ∈ (ms.map Prod.snd).zip (entries.map Prod.snd), P p.1 p.2 := by
  induction ms generalizing entries with
  | nil => cases entries <;> simp [keys]
  | cons m rest ih =>
    cases entries with
    | nil => simp [keys]
    | cons e entries =>
      simp only [List.forall₂_cons, ih, keys, List.map_cons, List.cons.injEq, List.zip_cons_cons,
        List.forall_mem_cons]
      tauto

theorem exists_forall₂ {α β : Type} {R : α → β → Prop} {as : List α}
    (h : ∀ a ∈ as, ∃ b, R a b) : ∃ bs, List.Forall₂ R as bs := by
  induction as with
  | nil => exact ⟨[], .nil⟩
  | cons a rest ih =>
    obtain ⟨⟨b, hb⟩, hrest⟩ := List.forall_mem_cons.1 h
    obtain ⟨bs, hbs⟩ := ih hrest
    exact ⟨b :: bs, .cons hb hbs⟩

end

/-! ## Expansions put together -/

/-- An object schema has a record type if its patterns are patterns and each node below has a
shape. -/
theorem exists_recordType {P : Json → Shape → Prop}
    (hpatterns : ∀ text ∈ keys (node.keywordMembers "patternProperties"),
      ∃ p : Pattern, p.text = text)
    (hbelow : ∀ v ∈ node.nodesOfObject, ∃ s, P v s) :
    ∃ t, OutlinesRecord node t ∧ ∀ p ∈ recordParts node t, P p.1 p.2 := by
  rw [nodesOfObject, List.forall_mem_append, List.forall_mem_map, List.forall_mem_map] at hbelow
  obtain ⟨fields, hfields⟩ : ∃ fields : List (String × Shape),
      List.Forall₂ (fun m e => e.1 = m.1 ∧ P m.2 e.2)
        (node.keywordMembers "properties") fields := by
    refine exists_forall₂ fun m hm => ?_
    obtain ⟨s, hs⟩ := hbelow.1 m hm
    exact ⟨(m.1, s), rfl, hs⟩
  obtain ⟨patterns, hmatches⟩ : ∃ patterns : List (Pattern × Shape),
      List.Forall₂ (fun m e => e.1.text = m.1 ∧ P m.2 e.2)
        (node.keywordMembers "patternProperties") patterns := by
    refine exists_forall₂ fun m hm => ?_
    obtain ⟨p, hp⟩ := hpatterns m.1 (List.mem_map_of_mem hm)
    obtain ⟨s, hs⟩ := hbelow.2 m hm
    exact ⟨(p, s), hp, hs⟩
  obtain ⟨hnames, hfields⟩ := (forall₂_members_iff id).1 hfields
  obtain ⟨htexts, hmatches⟩ := (forall₂_members_iff Pattern.text).1 hmatches
  refine ⟨⟨allowsAdditional node, statesAdditional node, fields, patterns⟩,
    ⟨allowsAdditional_eq_false_iff, statesAdditional_eq_true_iff, hnames, htexts⟩, ?_⟩
  rw [recordParts, List.forall_mem_append]
  exact ⟨hfields, hmatches⟩

theorem exists_itemsShape {P : Json → Shape → Prop}
    (hbelow : ∀ v, node.get? "items" = some v → ∃ s, P v s) :
    ∃ i, OutlinesItems node i ∧ ∀ p ∈ itemsParts node i, P p.1 p.2 := by
  cases hv : node.get? "items" with
  | none => exact ⟨.plain, by simp [OutlinesItems], by simp [itemsParts, hv]⟩
  | some v =>
    obtain ⟨s, hs⟩ := hbelow v hv
    exact ⟨s, by simp [OutlinesItems, hv], by simp [itemsParts, hv, hs]⟩

/-- A node without a reference has a shape under the same conditions. -/
theorem exists_shape {P : Json → Shape → Prop}
    (hpatterns : (TypeSet.ofSchema node).contains .object = true →
      ∀ text ∈ keys (node.keywordMembers "patternProperties"), ∃ p : Pattern, p.text = text)
    (hbelow : ∀ v ∈ node.nodesBelow, ∃ s, P v s) :
    ∃ s, Outlines node s ∧ ∀ p ∈ parts node s, P p.1 p.2 := by
  rw [nodesBelow, List.forall_mem_append] at hbelow
  obtain ⟨hobject, harray⟩ := hbelow
  have hrecord : (TypeSet.ofSchema node).contains .object = true →
      ∃ t, OutlinesRecord node t ∧ ∀ p ∈ recordParts node t, P p.1 p.2 := by
    intro htypes
    rw [if_pos htypes] at hobject
    exact exists_recordType (hpatterns htypes) hobject
  have hitems : (TypeSet.ofSchema node).contains .array = true →
      ∃ i, OutlinesItems node i ∧ ∀ p ∈ itemsParts node i, P p.1 p.2 := by
    intro htypes
    rw [if_pos htypes] at harray
    exact exists_itemsShape fun v hv => harray v (Option.mem_toList.2 hv)
  obtain ⟨record, hisRecord, hrecord⟩ := exists_option hrecord
  obtain ⟨items, hisList, hitems⟩ := exists_option hitems
  refine ⟨⟨record, items⟩, ⟨hisRecord, hisList, fun t ht => (hrecord t ht).1,
    fun i hi => (hitems i hi).1⟩, ?_⟩
  simp only [parts, List.forall_mem_append, List.forall_mem_flatMap, Option.mem_toList]
  exact ⟨fun t ht => (hrecord t ht).2, fun i hi => (hitems i hi).2⟩

/-! ## Expansions of reordered schemas -/

/-- The patterns of a reordered schema are patterns if those of the schema are. -/
theorem OutlinesRecord.exists_pattern (h : OutlinesRecord node t)
    (hnode : Json.SameContent node node') :
    ∀ text ∈ keys (node'.keywordMembers "patternProperties"), ∃ p : Pattern, p.text = text := by
  intro text htext
  have htext := (hnode.keywordMembers "patternProperties").keys.mem_iff.2 htext
  rw [← h.patterns, List.mem_map] at htext
  obtain ⟨e, -, he⟩ := htext
  exact ⟨e.1, he⟩

/-- A reordered object schema has an expansion if the nodes below it have. -/
theorem exists_expandsToRecord_of_below (h : OutlinesRecord node t)
    (hnode : Json.SameContent node node')
    (hbelow : ∀ p ∈ recordParts node t, ∀ v', Json.SameContent p.1 v' →
      ∃ s', Expands store ctx' v' s') : ∃ t', ExpandsToRecord store ctx' node' t' := by
  refine exists_recordType (h.exists_pattern hnode) fun v' hv' => ?_
  obtain ⟨v, hv, hsame⟩ := hnode.exists_mem_nodesOfObject hv'
  obtain ⟨s, hs⟩ := h.exists_mem_recordParts hv
  exact hbelow (v, s) hs v' hsame

/-- Where a node has an expansion, a reordered node has one. -/
theorem exists_expands_of_sameContent (h : Expands store ctx node s)
    (hctx : ctx.SameContent ctx') (hnode : Json.SameContent node node') :
    ∃ s', Expands store ctx' node' s' := by
  induction h generalizing ctx' node' with
  | noObject hobject => exact ⟨.plain, .noObject (hnode.isObject_eq ▸ hobject)⟩
  | reference href hr _ ih =>
    obtain ⟨r', hr', hcontexts, hnodes⟩ := hctx.resolve hr
    obtain ⟨s', hs'⟩ := ih hcontexts hnodes
    exact ⟨s', .reference ((hnode.get?_eq_string_iff "$ref").1 href) hr' hs'⟩
  | @keywords ctx node s hobject href outline each ih =>
    have hpatterns : (TypeSet.ofSchema node').contains .object = true →
        ∀ text ∈ keys (node'.keywordMembers "patternProperties"), ∃ p : Pattern, p.text = text := by
      intro htypes
      rw [← hnode.ofSchema_eq, ← outline.hasRecord, Option.isSome_iff_exists] at htypes
      obtain ⟨t, ht⟩ := htypes
      exact (outline.record t ht).exists_pattern hnode
    obtain ⟨s', houtline, heach⟩ := exists_shape hpatterns fun v' hv' => by
      obtain ⟨v, hv, hsame⟩ := hnode.exists_mem_nodesBelow hv'
      obtain ⟨s, hs⟩ := exists_mem_parts outline hv
      exact ih (v, s) hs hctx hsame
    exact ⟨s', expands_of_outlines ((hnode.get?_eq_none_iff "$ref").1 href) houtline heach⟩

/-! ## What reordered schemas expand to -/

/-- The entries of patterns by the texts of the patterns. -/
theorem RecordType.patternShape?_eq_lookup (t : RecordType) (text : String) :
    t.patternShape? text = (t.patterns.map fun e => (e.1.text, e.2)).lookup text := by
  unfold patternShape?
  induction t.patterns with
  | nil => rfl
  | cons e rest ih =>
    rw [List.map_cons, List.lookup_cons, List.find?_cons, ← ih, BEq.comm]
    cases text == e.1.text <;> rfl

/-- The shape of a field is what stands beside the node of the property of that name. -/
theorem OutlinesRecord.exists_property (h : OutlinesRecord node t) {name : String} {below : Shape}
    (hbelow : t.fieldShape? name = some below) :
    ∃ v, (node.keywordMembers "properties").lookup name = some v ∧
      (v, below) ∈ recordParts node t := by
  have hfound := lookup_rel (R := fun v s => (v, s) ∈ recordParts node t) h.fields
    (fun p hp => List.mem_append_left _ hp) name
  rw [← RecordType.fieldShape?, hbelow] at hfound
  obtain ⟨v, hv, hpart⟩ := exists_of_rel_some hfound
  exact ⟨v, hv, hpart⟩

theorem OutlinesRecord.exists_patternProperty (h : OutlinesRecord node t) {text : String}
    {below : Shape} (hbelow : t.patternShape? text = some below) :
    ∃ v, (node.keywordMembers "patternProperties").lookup text = some v ∧
      (v, below) ∈ recordParts node t := by
  have htexts : (t.patterns.map fun e => (e.1.text, e.2)).map Prod.fst =
      keys (node.keywordMembers "patternProperties") := by
    rw [List.map_map]
    exact h.patterns
  have hfound := lookup_rel (R := fun v s => (v, s) ∈ recordParts node t) htexts
    (fun p hp => List.mem_append_right _ (by rwa [List.map_map] at hp)) text
  rw [← RecordType.patternShape?_eq_lookup, hbelow] at hfound
  obtain ⟨v, hv, hpart⟩ := exists_of_rel_some hfound
  exact ⟨v, hv, hpart⟩

/-- Record types with the outlines of reordered schemas are equal up to order if the shapes in them
are. -/
theorem OutlinesRecord.reordered (h : OutlinesRecord node t) (h' : OutlinesRecord node' t')
    (hnode : Json.SameContent node node')
    (hparts : ∀ p ∈ recordParts node t, ∀ p' ∈ recordParts node' t',
      Json.SameContent p.1 p'.1 → p.2.Reordered p'.2) : t.Reordered t' := by
  have hfields := hnode.keywordMembers "properties"
  have hpatterns := hnode.keywordMembers "patternProperties"
  refine .intro ?_ ?_ ?_ ?_ ?_ ?_ ?_ ?_
  · have hrefuses := (h.refuses.trans (hnode.get?_eq_bool_iff _ false)).trans h'.refuses.symm
    exact Bool.eq_iff_iff.2 (by simpa using not_congr hrefuses)
  · have hstates := (h.explicit.trans (not_congr (hnode.get?_eq_none_iff _))).trans h'.explicit.symm
    exact Bool.eq_iff_iff.2 hstates
  · rw [RecordType.fieldNames, RecordType.fieldNames, h.fields, h'.fields]
    exact hfields.keys
  · rw [RecordType.fieldNames, h.fields]
    exact hnode.nodup_keywordMembers _
  · intro name below below' hbelow hbelow'
    obtain ⟨v, hv, hpart⟩ := h.exists_property hbelow
    obtain ⟨v', hv', hpart'⟩ := h'.exists_property hbelow'
    exact hparts _ hpart _ hpart' (hfields.values name v v' hv hv')
  · rw [RecordType.patternTexts, RecordType.patternTexts, h.patterns, h'.patterns]
    exact hpatterns.keys
  · rw [RecordType.patternTexts, h.patterns]
    exact hnode.nodup_keywordMembers _
  · intro text below below' hbelow hbelow'
    obtain ⟨v, hv, hpart⟩ := h.exists_patternProperty hbelow
    obtain ⟨v', hv', hpart'⟩ := h'.exists_patternProperty hbelow'
    exact hparts _ hpart _ hpart' (hpatterns.values text v v' hv hv')

/-- Shapes with the outlines of reordered schemas are equal up to order under the same condition. -/
theorem Outlines.reordered (h : Outlines node s) (h' : Outlines node' s')
    (hnode : Json.SameContent node node')
    (hparts : ∀ p ∈ parts node s, ∀ p' ∈ parts node' s',
      Json.SameContent p.1 p'.1 → p.2.Reordered p'.2) : s.Reordered s' := by
  refine .intro (rel_of_isSome_eq ?_ fun t t' ht ht' => ?_)
    (rel_of_isSome_eq ?_ fun i i' hi hi' => ?_)
  · rw [h.hasRecord, h'.hasRecord, hnode.ofSchema_eq]
  · refine (h.record t ht).reordered (h'.record t' ht') hnode fun p hp p' hp' => ?_
    exact hparts p (by simp [parts, ht, hp]) p' (by simp [parts, ht', hp'])
  · rw [h.hasItems, h'.hasItems, hnode.ofSchema_eq]
  · have hitems := hnode.get? "items"
    cases hv : node.get? "items" with
    | none =>
      have hv' := (hnode.get?_eq_none_iff "items").1 hv
      obtain rfl := h.items i hi hv
      obtain rfl := h'.items i' hi' hv'
      exact .intro .none .none
    | some v =>
      rw [hv] at hitems
      obtain ⟨v', hv', hsame⟩ := exists_of_some_rel hitems
      exact hparts (v, i) (by simp [parts, itemsParts, hi, hv]) (v', i')
        (by simp [parts, itemsParts, hi', hv']) hsame

/-- Expansions of a node and of a reordered node are equal up to order. -/
theorem Expands.reordered (h : Expands store ctx node s) (h' : Expands store ctx' node' s')
    (hctx : ctx.SameContent ctx') (hnode : Json.SameContent node node') : s.Reordered s' := by
  induction h generalizing ctx' node' s' with
  | @noObject ctx node hobject =>
    have hobject' : node'.isObject = false := hnode.isObject_eq ▸ hobject
    obtain rfl := h'.eq_plain hobject'
    exact .intro .none .none
  | @reference ctx node text r s href hr _ ih =>
    have href' := (hnode.get?_eq_string_iff "$ref").1 href
    obtain ⟨r', hr', hcontexts, hnodes⟩ := hctx.resolve hr
    exact ih (h'.of_reference href' hr') hcontexts hnodes
  | @keywords ctx node s hobject href outline each ih =>
    have href' := (hnode.get?_eq_none_iff "$ref").1 href
    obtain ⟨outline', each'⟩ := h'.of_keywords href'
    exact outline.reordered outline' hnode fun p hp p' hp' hsame =>
      ih p hp (each' p' hp') hctx hsame

/-! ## Compiling reordered documents -/

theorem IsRecordSchema.of_sameContent (h : IsRecordSchema node)
    (hnode : Json.SameContent node node') : IsRecordSchema node' where
  object := hnode.ofSchema_eq ▸ h.object
  properties v' hv' := by
    have hproperties := hnode.get? "properties"
    rw [hv'] at hproperties
    obtain ⟨v, hv, hsame⟩ := exists_of_rel_some hproperties
    rw [← hsame.isObject_eq]
    exact h.properties v hv

theorem exists_compileDocument_of_sameContent {document document' : Json} {baseDir : String}
    (hsame : Json.SameContent document document')
    (h : ∃ t, compileDocument store document baseDir = .ok t) :
    ∃ t', compileDocument store document' baseDir = .ok t' := by
  obtain ⟨t, ht⟩ := h
  obtain ⟨hschema, outline, each⟩ := compileDocument_eq_ok_iff.1 ht
  have hctx : (Context.ofDocument document baseDir).SameContent (.ofDocument document' baseDir) :=
    ⟨hsame, rfl⟩
  obtain ⟨t', ht'⟩ := exists_expandsToRecord_of_below outline hsame fun p hp v' hv' =>
    exists_expands_of_sameContent (each p hp) hctx hv'
  exact ⟨t', compileDocument_eq_ok_iff.2 ⟨hschema.of_sameContent hsame, ht'⟩⟩

/-- **The order of keys decides the order of fields and patterns only.**  Of two documents in memory
that are equal up to the order of the keys in their objects, at whatever depth, both compile or
neither does.  If they do, the record types have the same flags, and the same fields and the same
patterns with the same shapes, at every level, in whatever order. -/
theorem compileDocument_of_same (store : Store) (baseDir : String) (document document' : Json)
    (hdocument : document.WellFormed) (hsame : document.same document' = true) :
    ((∃ t, compileDocument store document baseDir = .ok t) ↔
      ∃ t', compileDocument store document' baseDir = .ok t') ∧
    ∀ t t', compileDocument store document baseDir = .ok t →
      compileDocument store document' baseDir = .ok t' → t.Reordered t' := by
  have hcontent : Json.SameContent document document' := ⟨hdocument, hsame⟩
  refine ⟨⟨exists_compileDocument_of_sameContent hcontent,
    exists_compileDocument_of_sameContent hcontent.symm⟩, fun t t' ht ht' => ?_⟩
  obtain ⟨-, outline, each⟩ := compileDocument_eq_ok_iff.1 ht
  obtain ⟨-, outline', each'⟩ := compileDocument_eq_ok_iff.1 ht'
  have hctx : (Context.ofDocument document baseDir).SameContent (.ofDocument document' baseDir) :=
    ⟨hcontent, rfl⟩
  exact outline.reordered outline' hcontent fun p hp p' hp' hnodes =>
    (each p hp).reordered (each' p' hp') hctx hnodes

/-! ## A desk seen from two sides -/

def lidReference : Json := .object [("$ref", .string "lid.json")]

def desk : Json :=
  .object [("type", .string "object"),
    ("properties", .object [("lid", lidReference), ("label", .object [])])]

/-- The desk with the keys of two of its objects in the opposite order. -/
def turnedDesk : Json :=
  .object [("properties", .object [("label", .object []), ("lid", lidReference)]),
    ("type", .string "object")]

def deskType : RecordType := ⟨true, false, [("lid", ⟨none, some .plain⟩), ("label", .plain)], []⟩

theorem wellFormed_desk : desk.WellFormed := by
  have hlabel : (Json.object []).WellFormed := .object List.nodup_nil (by simp)
  have hlid : lidReference.WellFormed := .object (by decide) (by simp [Json.WellFormed.string])
  have hproperties : (Json.object [("lid", lidReference), ("label", .object [])]).WellFormed :=
    .object (by decide) (by simp [hlid, hlabel])
  exact .object (by decide) (by simp [Json.WellFormed.string, hproperties])

theorem compileDocument_desk : compileDocument shelf desk "s" = .ok deskType := by
  have hschema : IsRecordSchema desk := by
    refine ⟨rfl, fun v hv => ?_⟩
    cases hv
    rfl
  have hreference : Expands shelf (.ofDocument desk "s") lidReference ⟨none, some .plain⟩ :=
    .reference rfl rfl expands_lid
  refine compileDocument_eq_ok_iff.2 ⟨hschema, ⟨?_, ?_, rfl, rfl⟩, ?_⟩
  · simp [deskType, desk, Json.get?, Json.members, List.lookup_cons]
  · simp [deskType, desk, Json.get?, Json.members, List.lookup_cons]
  · have hparts : recordParts desk deskType =
        [(lidReference, ⟨none, some .plain⟩), (.object [], .plain)] := by rfl
    rw [hparts, List.forall_mem_cons, List.forall_mem_singleton]
    exact ⟨hreference, expands_empty⟩

/-- Since the desk compiles, the turned one does, to a type with the same fields. -/
theorem compileDocument_turnedDesk :
    desk.WellFormed ∧ desk.same turnedDesk = true ∧
    compileDocument shelf desk "s" = .ok deskType ∧
    ∃ t', compileDocument shelf turnedDesk "s" = .ok t' ∧ deskType.Reordered t' := by
  have hsame : desk.same turnedDesk = true := by rfl
  obtain ⟨hiff, hreordered⟩ :=
    compileDocument_of_same shelf "s" desk turnedDesk wellFormed_desk hsame
  obtain ⟨t', ht'⟩ := hiff.1 ⟨deskType, compileDocument_desk⟩
  exact ⟨wellFormed_desk, hsame, compileDocument_desk, t', ht',
    hreordered _ _ compileDocument_desk ht'⟩

end JsonRecords
