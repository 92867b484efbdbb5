import JsonRecords.Proofs.Traversal

/-!
# When a descent succeeds

A descent that can fail gives a shape exactly if the shape has the outline that the keywords of the
node ask for and each of its parts is what the node in the same place gives.  `Outlines` and `parts`
say this for nodes, `OutlinesRecord` and `recordParts` for object schemas, and the lemmas
`shapeOf_eq_ok_iff` and `recordTypeOf_eq_ok_iff` take a success apart one level at a time.
-/

namespace JsonRecords

open Json

/-! ## Outlines and parts -/

/-- A record type has the flags, the names of fields and the patterns that the keywords of an object
schema give it: it refuses additional fields if the keyword for them is literally `false`, and it
states whether that keyword is there at all.  Nothing is said about the shapes in the type. -/
structure OutlinesRecord (node : Json) (t : RecordType) : Prop where
  refuses : t.allowsAdditional = false ↔ node.get? "additionalProperties" = some (.bool false)
  explicit : t.additionalExplicit = true ↔ node.get? "additionalProperties" ≠ none
  fields : t.fields.map Prod.fst = Association.keys (node.keywordMembers "properties")
  patterns : t.patterns.map (·.1.text) = Association.keys (node.keywordMembers "patternProperties")

/-- The nodes directly below an object schema beside the shapes that a record type has in their
places. -/
def recordParts (node : Json) (t : RecordType) : List (Json × Shape) :=
  ((node.keywordMembers "properties").map Prod.snd).zip (t.fields.map Prod.snd) ++
    ((node.keywordMembers "patternProperties").map Prod.snd).zip (t.patterns.map Prod.snd)

/-- An array schema without items says nothing about them. -/
def OutlinesItems (node : Json) (items : Shape) : Prop :=
  node.get? "items" = none → items = .plain

def itemsParts (node : Json) (items : Shape) : List (Json × Shape) :=
  (node.get? "items").toList.map (·, items)

/-- A shape has a record type and a shape of items where the types of a node ask for them, with the
outlines that its keywords give them. -/
structure Outlines (node : Json) (s : Shape) : Prop where
  hasRecord : s.record.isSome = (TypeSet.ofSchema node).contains .object
  hasItems : s.items.isSome = (TypeSet.ofSchema node).contains .array
  record : ∀ t, s.record = some t → OutlinesRecord node t
  items : ∀ i, s.items = some i → OutlinesItems node i

def parts (node : Json) (s : Shape) : List (Json × Shape) :=
  s.record.toList.flatMap (recordParts node) ++ s.items.toList.flatMap (itemsParts node)

/-- A node that is no object says nothing. -/
theorem outlines_of_not_isObject {node : Json} (hobject : node.isObject = false) :
    Outlines node .plain := by
  refine ⟨?_, ?_, ?_, ?_⟩ <;>
    simp [Shape.plain, TypeSet.ofSchema_of_not_isObject hobject, TypeSet.empty]

theorem Outlines.eq_plain {node : Json} {s : Shape} (h : Outlines node s)
    (hobject : node.isObject = false) : s = .plain := by
  obtain ⟨record, items⟩ := s
  have hrecord := h.hasRecord
  have hitems := h.hasItems
  rw [TypeSet.ofSchema_of_not_isObject hobject] at hrecord hitems
  cases record with
  | some t => cases hrecord
  | none =>
    cases items with
    | some i => cases hitems
    | none => rfl

theorem contains_object_of_record {node : Json} {s : Shape} {t : RecordType}
    (h : Outlines node s) (ht : s.record = some t) :
    (TypeSet.ofSchema node).contains .object = true := by
  rw [← h.hasRecord, ht]
  rfl

theorem contains_array_of_items {node : Json} {s i : Shape} (h : Outlines node s)
    (hi : s.items = some i) :
    (TypeSet.ofSchema node).contains .array = true := by
  rw [← h.hasItems, hi]
  rfl

theorem mem_nodesOfObject_of_mem_recordParts {node : Json} {t : RecordType} {p : Json × Shape}
    (hp : p ∈ recordParts node t) : p.1 ∈ node.nodesOfObject := by
  rw [recordParts, List.mem_append] at hp
  rw [nodesOfObject, List.mem_append]
  exact hp.imp (fun h => (List.of_mem_zip h).1) fun h => (List.of_mem_zip h).1

theorem mem_nodesBelow_of_mem_parts {node : Json} {s : Shape} {p : Json × Shape}
    (h : Outlines node s) (hp : p ∈ parts node s) : p.1 ∈ node.nodesBelow := by
  simp only [parts, List.mem_append, List.mem_flatMap, Option.mem_toList] at hp
  rw [nodesBelow, List.mem_append, ← h.hasRecord, ← h.hasItems]
  obtain ⟨t, ht, hp⟩ | ⟨i, hi, hp⟩ := hp
  · left
    simpa [ht] using mem_nodesOfObject_of_mem_recordParts hp
  · right
    simp only [itemsParts, List.mem_map] at hp
    obtain ⟨v, hv, rfl⟩ := hp
    simpa [hi] using hv

theorem exists_mem_zip {α β : Type} {l : List α} {r : List β} {a : α}
    (hlength : l.length = r.length) (ha : a ∈ l) : ∃ b, (a, b) ∈ l.zip r := by
  obtain ⟨i, hi, rfl⟩ := List.mem_iff_getElem.1 ha
  exact ⟨r[i], List.mem_iff_getElem.2 ⟨i, by simp; omega, List.getElem_zip⟩⟩

/-- Every node below an object schema has its place in a record type that the schema outlines. -/
theorem OutlinesRecord.exists_mem_recordParts {node v : Json} {t : RecordType}
    (h : OutlinesRecord node t) (hv : v ∈ node.nodesOfObject) :
    ∃ s, (v, s) ∈ recordParts node t := by
  have hfields := congrArg List.length h.fields
  have hpatterns := congrArg List.length h.patterns
  simp only [List.length_map, Association.keys] at hfields hpatterns
  rw [nodesOfObject, List.mem_append] at hv
  rcases hv with hv | hv
  · obtain ⟨s, hs⟩ := exists_mem_zip (r := t.fields.map Prod.snd) (by simp [hfields]) hv
    exact ⟨s, List.mem_append_left _ hs⟩
  · obtain ⟨s, hs⟩ := exists_mem_zip (r := t.patterns.map Prod.snd) (by simp [hpatterns]) hv
    exact ⟨s, List.mem_append_right _ hs⟩

/-- Every node below has its place in a shape with the outline of the node. -/
theorem exists_mem_parts {node v : Json} {s : Shape} (h : Outlines node s)
    (hv : v ∈ node.nodesBelow) : ∃ s', (v, s') ∈ parts node s := by
  rw [nodesBelow, List.mem_append, ← h.hasRecord, ← h.hasItems] at hv
  simp only [parts, List.mem_append, List.mem_flatMap, Option.mem_toList]
  rcases hv with hv | hv
  · cases ht : s.record with
    | none => simp [ht] at hv
    | some t =>
      simp only [ht, Option.isSome_some, if_true] at hv
      obtain ⟨s', hs'⟩ := (h.record t ht).exists_mem_recordParts hv
      exact ⟨s', Or.inl ⟨t, rfl, hs'⟩⟩
  · cases hi : s.items with
    | none => simp [hi] at hv
    | some i =>
      simp only [hi, Option.isSome_some, if_true] at hv
      exact ⟨i, Or.inr ⟨i, rfl, List.mem_map.2 ⟨v, hv, rfl⟩⟩⟩

/-! ## When a descent succeeds -/

theorem Pattern.ofText?_eq_some_iff {text : String} {p : Pattern} :
    Pattern.ofText? text = some p ↔ p.text = text := by
  refine ⟨Pattern.text_of_ofText?_eq_some, fun h => ?_⟩
  subst h
  unfold Pattern.ofText?
  split
  · rename_i expression he
    exact congrArg some (Pattern.eq_of_text_eq rfl)
  · rename_i he
    rw [p.denotes] at he
    cases he

theorem readPattern_eq_ok_iff {text : String} {p : Pattern} :
    (readPattern text : Except SchemaError Pattern) = .ok p ↔ p.text = text := by
  rw [← Pattern.ofText?_eq_some_iff]
  unfold readPattern
  cases Pattern.ofText? text with
  | none => simp [throw, throwThe, MonadExceptOf.throw]
  | some q => simp [pure, Except.pure]

theorem bind_eq_ok_iff {ε α β : Type} {x : Except ε α} {f : α → Except ε β} {b : β} :
    x >>= f = .ok b ↔ ∃ a, x = .ok a ∧ f a = .ok b := by
  cases x <;> simp [bind, Except.bind]

theorem map_eq_error_iff {ε α β : Type} {x : Except ε α} {f : α → β} {e : ε} :
    x.map f = .error e ↔ x = .error e := by
  cases x <;> simp [Except.map]

variable {read : Json → Except SchemaError Shape} {follow : String → Except SchemaError Shape}

theorem readFields_eq_ok_iff {members : List (String × Json)} {fields : List (String × Shape)} :
    readFields read members = .ok fields ↔
      fields.map Prod.fst = Association.keys members ∧
        ∀ p ∈ (members.map Prod.snd).zip (fields.map Prod.snd), read p.1 = .ok p.2 := by
  induction members generalizing fields with
  | nil => cases fields <;> simp [readFields, Association.keys, pure, Except.pure]
  | cons e rest ih =>
    have hstep : readFields read (e :: rest) = .ok fields ↔
        ∃ s, read e.2 = .ok s ∧ ∃ xs, readFields read rest = .ok xs ∧ (e.1, s) :: xs = fields := by
      simp [readFields, bind_eq_ok_iff, pure, Except.pure]
    rw [hstep]
    cases fields with
    | nil => simp [Association.keys]
    | cons x xs =>
      obtain ⟨name, s⟩ := x
      simp only [ih, Association.keys, List.map_cons, List.cons.injEq, Prod.mk.injEq,
        List.zip_cons_cons, List.forall_mem_cons]
      grind

theorem readPatterns_eq_ok_iff {members : List (String × Json)}
    {patterns : List (Pattern × Shape)} :
    readPatterns read members = .ok patterns ↔
      patterns.map (·.1.text) = Association.keys members ∧
        ∀ p ∈ (members.map Prod.snd).zip (patterns.map Prod.snd), read p.1 = .ok p.2 := by
  induction members generalizing patterns with
  | nil => cases patterns <;> simp [readPatterns, Association.keys, pure, Except.pure]
  | cons e rest ih =>
    have hstep : readPatterns read (e :: rest) = .ok patterns ↔
        ∃ p : Pattern, p.text = e.1 ∧ ∃ s, read e.2 = .ok s ∧
          ∃ xs, readPatterns read rest = .ok xs ∧ (p, s) :: xs = patterns := by
      simp [readPatterns, bind_eq_ok_iff, readPattern_eq_ok_iff, pure, Except.pure]
    rw [hstep]
    cases patterns with
    | nil => simp [Association.keys]
    | cons x xs =>
      obtain ⟨p, s⟩ := x
      simp only [ih, Association.keys, List.map_cons, List.cons.injEq, Prod.mk.injEq,
        List.zip_cons_cons, List.forall_mem_cons]
      grind

theorem allowsAdditional_eq_false_iff {node : Json} :
    allowsAdditional node = false ↔ node.get? "additionalProperties" = some (.bool false) := by
  unfold allowsAdditional
  split
  · simp [*]
  · rename_i hne
    simpa using hne

theorem statesAdditional_eq_true_iff {node : Json} :
    statesAdditional node = true ↔ node.get? "additionalProperties" ≠ none := by
  rw [statesAdditional, Option.isSome_iff_ne_none]

/-- An object schema gives a record type if the type has its outline and each of its parts is what
the node in that place gives. -/
theorem recordTypeOf_eq_ok_iff {node : Json} {t : RecordType} :
    recordTypeOf follow node = .ok t ↔
      OutlinesRecord node t ∧ ∀ p ∈ recordParts node t, shapeOf follow p.1 = .ok p.2 := by
  rw [recordTypeOf_eq]
  simp only [bind_eq_ok_iff, readFields_eq_ok_iff, readPatterns_eq_ok_iff, recordParts,
    List.forall_mem_append]
  constructor
  · rintro ⟨fields, ⟨hnames, hfields⟩, patterns, ⟨htexts, hpatterns⟩, ht⟩
    cases ht
    exact ⟨⟨allowsAdditional_eq_false_iff, statesAdditional_eq_true_iff, hnames, htexts⟩,
      hfields, hpatterns⟩
  · rintro ⟨⟨hrefuses, hexplicit, hnames, htexts⟩, hfields, hpatterns⟩
    obtain ⟨allows, explicit, fields, patterns⟩ := t
    refine ⟨fields, ⟨hnames, hfields⟩, patterns, ⟨htexts, hpatterns⟩, ?_⟩
    have hallows : allows = allowsAdditional node := by
      rw [← allowsAdditional_eq_false_iff] at hrefuses
      cases h : allowsAdditional node <;> simpa [h] using hrefuses
    have hstates : explicit = statesAdditional node := by
      rw [← statesAdditional_eq_true_iff] at hexplicit
      exact Bool.eq_iff_iff.2 hexplicit
    rw [hallows, hstates]
    rfl

theorem itemsOf_eq_ok_iff {node : Json} {items : Shape} :
    itemsOf follow node = .ok items ↔
      OutlinesItems node items ∧ ∀ p ∈ itemsParts node items, shapeOf follow p.1 = .ok p.2 := by
  rw [itemsOf_eq, OutlinesItems, itemsParts]
  cases hv : node.get? "items" with
  | none => simp [pure, Except.pure, eq_comm]
  | some v => simp

theorem recordPart_eq_ok_iff {node : Json} {record : Option RecordType} :
    recordPart follow node = .ok record ↔
      record.isSome = (TypeSet.ofSchema node).contains .object ∧
        ∀ t, record = some t → recordTypeOf follow node = .ok t := by
  unfold recordPart
  split <;> rename_i hobject <;> cases record <;>
    simp [hobject, map_eq_pure_bind, bind_eq_ok_iff, pure, Except.pure]

theorem itemsPart_eq_ok_iff {node : Json} {items : Option Shape} :
    itemsPart follow node = .ok items ↔
      items.isSome = (TypeSet.ofSchema node).contains .array ∧
        ∀ i, items = some i → itemsOf follow node = .ok i := by
  unfold itemsPart
  split <;> rename_i harray <;> cases items <;>
    simp [harray, map_eq_pure_bind, bind_eq_ok_iff, pure, Except.pure]

/-- A node that its keywords describe gives a shape if the shape has its outline and each part is
what the node in that place gives. -/
theorem shapeOf_eq_ok_iff {node : Json} {s : Shape} (hobject : node.isObject = true)
    (href : node.get? "$ref" = none) :
    shapeOf follow node = .ok s ↔
      Outlines node s ∧ ∀ p ∈ parts node s, shapeOf follow p.1 = .ok p.2 := by
  have hparts : shapeOf follow node = .ok s ↔
      recordPart follow node = .ok s.record ∧ itemsPart follow node = .ok s.items := by
    rw [shapeOf_of_keywords follow node hobject href]
    simp only [bind_eq_ok_iff, pure, Except.pure, Except.ok.injEq]
    constructor
    · rintro ⟨record, hrecord, items, hitems, rfl⟩
      exact ⟨hrecord, hitems⟩
    · rintro ⟨hrecord, hitems⟩
      obtain ⟨record, items⟩ := s
      exact ⟨record, hrecord, items, hitems, rfl⟩
  rw [hparts, recordPart_eq_ok_iff, itemsPart_eq_ok_iff]
  simp only [recordTypeOf_eq_ok_iff, itemsOf_eq_ok_iff, parts, List.forall_mem_append,
    List.forall_mem_flatMap, Option.mem_toList]
  constructor
  · rintro ⟨⟨hasRecord, hrecord⟩, hasItems, hitems⟩
    exact ⟨⟨hasRecord, hasItems, fun t ht => (hrecord t ht).1, fun i hi => (hitems i hi).1⟩,
      fun t ht => (hrecord t ht).2, fun i hi => (hitems i hi).2⟩
  · rintro ⟨⟨hasRecord, hasItems, hrecord, hitems⟩, hr, hi⟩
    exact ⟨⟨hasRecord, fun t ht => ⟨hrecord t ht, hr t ht⟩⟩,
      hasItems, fun i h => ⟨hitems i h, hi i h⟩⟩

end JsonRecords
