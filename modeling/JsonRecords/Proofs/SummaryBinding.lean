import JsonRecords.Proofs.ExactFields
import JsonRecords.Proofs.PrintedValues
import JsonRecords.Record.Summary

/-!
# What a summary decides

The summary of a record type leaves out whether the schema said anything about additional fields,
and it collects fields and patterns in maps.  It still decides how values are bound: two types that
compilers have built and whose summaries are printed alike bind every object to the same fields, in
the same order and with the same values (`bare_bindMembers_of_pretty_eq`).

The printed text gives back the summary (`pretty_inj`), and the policy, which is all that the
missing flag is for, stands in the summary itself.  As the names and the patterns of such types are
distinct, at every depth, the maps lose no entry and no order (`RecordType.sameSummary`).
-/

namespace JsonRecords

open Association Json

variable {store store' : Store} {s s' : Shape} {t t' : RecordType} {v : Json}
  {ms : List (String × Json)} {key : String}

/-! ## Summaries part by part -/

theorem summaryOfFields_eq_map (fields : List (String × Shape)) :
    summaryOfFields fields = fields.map fun e => (e.1, e.2.summary) := by
  induction fields with
  | nil => rw [summaryOfFields, List.map_nil]
  | cons e rest ih => rw [summaryOfFields, ih, List.map_cons]

theorem summaryOfPatterns_eq_map (patterns : List (Pattern × Shape)) :
    summaryOfPatterns patterns = patterns.map fun p => (p.1.text, p.2.summary) := by
  induction patterns with
  | nil => rw [summaryOfPatterns, List.map_nil]
  | cons p rest ih => rw [summaryOfPatterns, ih, List.map_cons]

theorem Shape.summary_eq (s : Shape) : s.summary = .object
    (optionalMember "record" (s.record.map RecordType.summary) ++
      optionalMember "list" (s.items.map fun i => .object [("items", i.summary)])) := by
  obtain ⟨record, items⟩ := s
  cases record <;> cases items <;> simp [Shape.summary, summaryOfRecord, summaryOfItems]

theorem RecordType.summary_eq (t : RecordType) : t.summary = .object
    [("policy", .string t.policy.name), ("allows_additional_fields", .bool t.allowsAdditional),
      ("fields", .ofMembers (t.fields.map fun e => (e.1, e.2.summary))),
      ("patterns", .ofMembers (t.patterns.map fun p => (p.1.text, p.2.summary)))] := by
  obtain ⟨allows, explicit, fields, patterns⟩ := t
  rw [RecordType.summary, summaryOfFields_eq_map, summaryOfPatterns_eq_map]

/-- Shapes with one summary have a record type in the same cases, again with one summary, and so for
their items. -/
theorem Shape.summary_eq_iff : s.summary = s'.summary ↔
    s.record.map RecordType.summary = s'.record.map RecordType.summary ∧
      s.items.map Shape.summary = s'.items.map Shape.summary := by
  rw [Shape.summary_eq, Shape.summary_eq]
  cases s.record <;> cases s'.record <;> cases s.items <;> cases s'.items <;>
    simp [optionalMember]

/-- The parts of two record types that stand in their summaries agree. -/
structure RecordType.SameSummary (t t' : RecordType) : Prop where
  policy : t.policy = t'.policy
  fields : (t.fields.map fun e => (e.1, e.2.summary)) = t'.fields.map fun e => (e.1, e.2.summary)
  patterns : (t.patterns.map fun p => (p.1.text, p.2.summary)) =
    t'.patterns.map fun p => (p.1.text, p.2.summary)

theorem RecordType.NamesDistinct.summary_eq (ht : t.NamesDistinct) : t.summary = .object
    [("policy", .string t.policy.name), ("allows_additional_fields", .bool t.allowsAdditional),
      ("fields", .object (t.fields.map fun e => (e.1, e.2.summary))),
      ("patterns", .object (t.patterns.map fun p => (p.1.text, p.2.summary)))] := by
  have hfields : (keys (t.fields.map fun e => (e.1, e.2.summary))).Nodup := by
    rw [keys, List.map_map]
    exact ht.fields
  have hpatterns : (keys (t.patterns.map fun p => (p.1.text, p.2.summary))).Nodup := by
    rw [keys, List.map_map]
    exact ht.patterns
  rw [RecordType.summary_eq, ofMembers_of_nodup hfields, ofMembers_of_nodup hpatterns]

theorem RecordType.sameSummary (ht : t.NamesDistinct) (ht' : t'.NamesDistinct)
    (h : t.summary = t'.summary) : t.SameSummary t' := by
  rw [ht.summary_eq, ht'.summary_eq] at h
  simp only [Json.object.injEq, List.cons.injEq, Prod.mk.injEq, Json.string.injEq, true_and,
    and_true] at h
  obtain ⟨hpolicy, -, hfields, hpatterns⟩ := h
  refine ⟨?_, hfields, hpatterns⟩
  revert hpolicy
  cases t.policy <;> cases t'.policy <;> simp [FieldPolicy.name]

namespace RecordType.SameSummary

theorem fieldNames_eq (h : t.SameSummary t') : t.fieldNames = t'.fieldNames := by
  have hnames := congrArg (List.map Prod.fst) h.fields
  rwa [List.map_map, List.map_map] at hnames

theorem fieldShape?_map (h : t.SameSummary t') (key : String) :
    (t.fieldShape? key).map Shape.summary = (t'.fieldShape? key).map Shape.summary := by
  have hfound : ∀ t : RecordType, (t.fieldShape? key).map Shape.summary =
      (t.fields.map fun e => (e.1, e.2.summary)).lookup key :=
    fun t => (lookup_map_values (fun _ s => s.summary) t.fields key).symm
  rw [hfound t, hfound t', h.fields]

theorem firstMatch?_map (h : t.SameSummary t') (key : String) :
    (t.firstMatch? key).map (fun p => p.2.summary) =
      (t'.firstMatch? key).map fun p => p.2.summary := by
  have hfound : ∀ t : RecordType, (t.firstMatch? key).map (fun p => p.2.summary) =
      ((t.patterns.map fun p => (p.1.text, p.2.summary)).find? fun e =>
        textMatches e.1 key).map Prod.snd := by
    intro t
    simp only [List.find?_map, Function.comp_def, textMatches_text, Option.map_map, firstMatch?]
  rw [hfound t, hfound t', h.patterns]

theorem admits_eq (h : t.SameSummary t') (key : String) : t.admits key = t'.admits key := by
  have hmatches := congrArg Option.isSome (h.firstMatch?_map key)
  rw [Option.isSome_map, Option.isSome_map] at hmatches
  rw [admits, admits, isDeclared, isDeclared, h.fieldNames_eq, hmatches]

theorem shapeFor_summary (h : t.SameSummary t') (key : String) :
    (t.shapeFor key).summary = (t'.shapeFor key).summary := by
  have hshape : ∀ t : RecordType, (t.shapeFor key).summary =
      (((t.fieldShape? key).map Shape.summary).or
        ((t.firstMatch? key).map fun p => p.2.summary)).getD Shape.plain.summary := by
    intro t
    rw [shapeFor, shapeOf?]
    cases t.fieldShape? key <;> cases t.firstMatch? key <;> rfl
  rw [hshape t, hshape t', h.fieldShape?_map, h.firstMatch?_map]

end RecordType.SameSummary

/-! ## Binding -/

theorem Record.bare_eq_map (r : Record) : r.bare = r.fields.map fun e => (e.1, e.2.bare) := by
  obtain ⟨t, fields⟩ := r
  rw [Record.bare, bareFields_eq_map]

theorem bare_bindMembers_of_sameSummary (h : t.SameSummary t')
    (hbind : ∀ m ∈ ms, ((t.shapeFor m.1).bind m.2).bare = ((t'.shapeFor m.1).bind m.2).bare) :
    (t.bindMembers ms).bare = (t'.bindMembers ms).bare := by
  have hvalue : ∀ name, ((t.shapeFor name).bind (valueAt ms name)).bare =
      ((t'.shapeFor name).bind (valueAt ms name)).bare := by
    intro name
    unfold valueAt
    cases hv : ms.lookup name with
    | none => rfl
    | some v => exact hbind (name, v) (mem_of_lookup_eq_some hv)
  have hpolicy := h.policy
  rw [Record.bare_eq_map, Record.bare_eq_map, RecordType.bindMembers, RecordType.bindMembers]
  cases hp : t.policy with
  | open_ =>
    rw [hp] at hpolicy
    rw [RecordType.expose_of_open hp, RecordType.expose_of_open hpolicy.symm, bindMembers_eq_map,
      bindMembers_eq_map, List.map_map, List.map_map]
    exact List.map_congr_left fun m hm => Prod.ext rfl (hbind m hm)
  | closed =>
    rw [hp] at hpolicy
    have hadmitted : t.admitted ms = t'.admitted ms := by
      simp only [RecordType.admitted, h.admits_eq]
    rw [RecordType.expose_of_closed hp, RecordType.expose_of_closed hpolicy.symm,
      RecordType.declared_bindMembers, RecordType.declared_bindMembers,
      RecordType.admitted_bindMembers, RecordType.admitted_bindMembers, ← hadmitted,
      ← h.fieldNames_eq]
    simp only [List.map_append, List.map_map]
    congr 1
    · exact List.map_congr_left fun name _ => Prod.ext rfl (hvalue name)
    · exact List.map_congr_left fun m hm =>
        Prod.ext rfl (hbind m (RecordType.mem_admitted.1 hm).1)

/-- Shapes with one summary, names distinct, bind every value alike. -/
theorem bare_bind_of_summary_eq (hs : s.Distinct) (hs' : s'.Distinct)
    (h : s.summary = s'.summary) (v : Json) : (s.bind v).bare = (s'.bind v).bare := by
  induction s, v using bind_induction generalizing s' with
  | plain s v huse =>
    obtain ⟨hrecord, hitems⟩ := Shape.summary_eq_iff.1 h
    have hrecord := congrArg Option.isSome hrecord
    have hitems := congrArg Option.isSome hitems
    rw [Option.isSome_map, Option.isSome_map] at hrecord hitems
    rw [bind_of_plain huse,
      bind_of_plain (useFor_eq_plain_of_isSome_eq rfl hrecord hitems huse)]
  | list s i vs hi each =>
    have hitems := (Shape.summary_eq_iff.1 h).2
    rw [hi, Option.map_some, eq_comm, Option.map_eq_some_iff] at hitems
    obtain ⟨i', hi', hsummary⟩ := hitems
    have hdistinct : i.Distinct := (Shape.distinct_iff.1 hs).2 i hi
    have hdistinct' : i'.Distinct := (Shape.distinct_iff.1 hs').2 i' hi'
    rw [bind_array hi, bind_array hi', BoundValue.bare, BoundValue.bare, bareItems_eq_map,
      bareItems_eq_map, List.map_map, List.map_map]
    refine congrArg _ (List.map_congr_left fun v hv => ?_)
    exact each v hv hdistinct hdistinct' hsummary.symm
  | record s t ms ht each =>
    have hrecord := (Shape.summary_eq_iff.1 h).1
    rw [ht, Option.map_some, eq_comm, Option.map_eq_some_iff] at hrecord
    obtain ⟨t', ht', hsummary⟩ := hrecord
    have hparts := RecordType.sameSummary (hs t (.here ht)) (hs' t' (.here ht')) hsummary.symm
    rw [bind_object ht, bind_object ht', BoundValue.bare, BoundValue.bare]
    refine congrArg _ (bare_bindMembers_of_sameSummary hparts fun m hm => ?_)
    exact each m hm (t.distinct_shapeFor (hs.reached (.here ht)) m.1)
      (t'.distinct_shapeFor (hs'.reached (.here ht')) m.1) (hparts.shapeFor_summary m.1)

/-! ## Printed summaries -/

theorem mem_optionalMember {m : String × Json} {name : String} {value : Option Json} :
    m ∈ optionalMember name value ↔ ∃ v, value = some v ∧ m = (name, v) := by
  cases value <;> simp [optionalMember]

theorem numberFree_ofMembers (h : ∀ m ∈ ms, m.2.NumberFree) : (Json.ofMembers ms).NumberFree := by
  obtain ⟨ns, hns, hnodup, hmem⟩ := Json.exists_ofMembers ms
  rw [hns]
  exact .object hnodup fun n hn => h n (hmem n hn)

mutual

theorem Shape.numberFree_summary : ∀ s : Shape, s.summary.NumberFree
  | ⟨record, items⟩ => by
    rw [Shape.summary]
    refine .object ?_ fun m hm => ?_
    · cases summaryOfRecord record <;> cases summaryOfItems items <;> simp [keys, optionalMember]
    · rcases List.mem_append.1 hm with hm | hm
      · obtain ⟨v, hv, rfl⟩ := mem_optionalMember.1 hm
        exact numberFree_summaryOfRecord record v hv
      · obtain ⟨v, hv, rfl⟩ := mem_optionalMember.1 hm
        exact numberFree_summaryOfItems items v hv

theorem numberFree_summaryOfRecord :
    ∀ (record : Option RecordType) v, summaryOfRecord record = some v → v.NumberFree
  | none, v, hv => by simp [summaryOfRecord] at hv
  | some t, v, hv => by
    rw [summaryOfRecord, Option.some.injEq] at hv
    exact hv ▸ t.numberFree_summary

theorem numberFree_summaryOfItems :
    ∀ (items : Option Shape) v, summaryOfItems items = some v → v.NumberFree
  | none, v, hv => by simp [summaryOfItems] at hv
  | some i, v, hv => by
    rw [summaryOfItems, Option.some.injEq] at hv
    subst hv
    exact .object (by simp [keys]) (by simpa using i.numberFree_summary)

theorem RecordType.numberFree_summary : ∀ t : RecordType, t.summary.NumberFree
  | ⟨allows, explicit, fields, patterns⟩ => by
    have hfields := numberFree_ofMembers (numberFree_summaryOfFields fields)
    have hpatterns := numberFree_ofMembers (numberFree_summaryOfPatterns patterns)
    rw [RecordType.summary]
    refine .object (by simp [keys]) ?_
    simp only [List.forall_mem_cons]
    exact ⟨.string _, .bool _, hfields, hpatterns, List.forall_mem_nil _⟩

theorem numberFree_summaryOfFields :
    ∀ fields : List (String × Shape), ∀ m ∈ summaryOfFields fields, m.2.NumberFree
  | [] => by simp [summaryOfFields]
  | (name, s) :: rest => by
    rw [summaryOfFields, List.forall_mem_cons]
    exact ⟨s.numberFree_summary, numberFree_summaryOfFields rest⟩

theorem numberFree_summaryOfPatterns :
    ∀ patterns : List (Pattern × Shape), ∀ m ∈ summaryOfPatterns patterns, m.2.NumberFree
  | [] => by simp [summaryOfPatterns]
  | (p, s) :: rest => by
    rw [summaryOfPatterns, List.forall_mem_cons]
    exact ⟨s.numberFree_summary, numberFree_summaryOfPatterns rest⟩

end

/-- **What is printed of a record type decides how it binds.**  Two types that were built and whose
summaries are printed alike, to the order of the keys, make the same record of every object: the
same tree of records, lists and raw values, with the same names in the same order.  Only the types
that the records carry may differ. -/
theorem bare_bindMembers_of_pretty_eq (ht : t.IsBuilt store) (ht' : t'.IsBuilt store')
    (h : t.summary.pretty = t'.summary.pretty) (ms : List (String × Json)) :
    (t.bindMembers ms).bare = (t'.bindMembers ms).bare := by
  have hsummary : t.summary = t'.summary :=
    pretty_inj t.numberFree_summary t'.numberFree_summary h
  have hshape : t.toShape.summary = t'.toShape.summary :=
    Shape.summary_eq_iff.2 ⟨congrArg some hsummary, rfl⟩
  have hbare := bare_bind_of_summary_eq ht.distinct ht'.distinct hshape (.object ms)
  rw [bind_object rfl, bind_object rfl, BoundValue.bare, BoundValue.bare] at hbare
  exact BareValue.record.inj hbare

/-! ## A flag that does not show -/

/-- The schema of a record with a label, which may say that additional fields are allowed. -/
def labelled (stated : Bool) : Json :=
  .object ([("type", .string "object"), ("properties", .object [("label", .object [])])] ++
    if stated then [("additionalProperties", .bool true)] else [])

def labelledType (stated : Bool) : RecordType := ⟨true, stated, [("label", .plain)], []⟩

theorem wellFormed_labelled (stated : Bool) : (labelled stated).WellFormed := by
  have hlabel : (Json.object [("label", .object [])]).WellFormed :=
    .object (by decide) (by simpa using .object List.nodup_nil (by simp))
  refine .object (by cases stated <;> decide) ?_
  cases stated <;> simp [Json.WellFormed.string, Json.WellFormed.bool, hlabel]

theorem compileDocument_labelled (stated : Bool) :
    compileDocument shelf (labelled stated) "s" = .ok (labelledType stated) := by
  have hschema : IsRecordSchema (labelled stated) := by
    refine ⟨by cases stated <;> rfl, fun v hv => ?_⟩
    cases stated <;> cases hv <;> rfl
  refine compileDocument_eq_ok_iff.2 ⟨hschema, ⟨?_, ?_, ?_, ?_⟩, ?_⟩
  · cases stated <;> simp [labelledType, labelled, Json.get?, Json.members, List.lookup_cons]
  · cases stated <;> simp [labelledType, labelled, Json.get?, Json.members, List.lookup_cons]
  · cases stated <;> rfl
  · cases stated <;> rfl
  · have hparts : recordParts (labelled stated) (labelledType stated) = [(.object [], .plain)] := by
      cases stated <;> rfl
    rw [hparts, List.forall_mem_singleton]
    exact expands_empty

/-- The two types differ in the flag alone, and so do not differ for any object. -/
theorem bare_bindMembers_labelled :
    (labelledType false).IsBuilt shelf ∧ (labelledType true).IsBuilt shelf ∧
    (labelledType false).additionalExplicit ≠ (labelledType true).additionalExplicit ∧
    (labelledType false).summary.pretty = (labelledType true).summary.pretty ∧
    ∀ ms, ((labelledType false).bindMembers ms).bare =
      ((labelledType true).bindMembers ms).bare := by
  have hbuilt : ∀ stated, (labelledType stated).IsBuilt shelf := fun stated =>
    isBuilt_of_compileDocument (wellFormed_labelled stated) (compileDocument_labelled stated)
  have hprinted : (labelledType false).summary.pretty = (labelledType true).summary.pretty := by
    rw [RecordType.summary_eq, RecordType.summary_eq]
    rfl
  exact ⟨hbuilt false, hbuilt true, by decide, hprinted,
    bare_bindMembers_of_pretty_eq (hbuilt false) (hbuilt true) hprinted⟩

end JsonRecords
