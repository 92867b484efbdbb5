import JsonRecords.Proofs.ExactFields

/-!
# Binding equal values by equal shapes

Equality of record types does not see the order of fields, and that of values and of records does
not see the order of keys.  Binding walks through both in order, but what it makes of equal values
by equal shapes is equal again, as bound values and as JSON (`bind_same`).

Equal record types have the same policy and admit the same keys, and they have equal shapes for
every key (`RecordType.SameParts.shapeFor`): a declared field is found by its name, wherever it
stands, and the patterns, which are tried in order, have to be equal in order.  So two records have
the same names, and the values of one name are bound from equal values by equal shapes.
-/

namespace JsonRecords

open Association Json

variable {s s' i a b : Shape} {t t' : RecordType} {v w : Json} {ms ns : List (String × Json)}
  {x y : BoundValue} {r r' : Record} {name key : String}

/-! ## Equal shapes -/

theorem Shape.same_iff : s.same s' = true ↔
    Option.Rel (fun t t' => t.same t' = true) s.record s'.record ∧
      Option.Rel (fun i i' => i.same i' = true) s.items s'.items := by
  obtain ⟨record, items⟩ := s
  obtain ⟨record', items'⟩ := s'
  have hrecord : sameRecord record record' = true ↔
      Option.Rel (fun t t' => t.same t' = true) record record' :=
    both_same_iff (by rw [sameRecord]) (fun _ => by simp [sameRecord])
      (fun _ => by simp [sameRecord]) fun _ _ => by rw [sameRecord]
  have hitems : sameItems items items' = true ↔
      Option.Rel (fun i i' => i.same i' = true) items items' :=
    both_same_iff (by rw [sameItems]) (fun _ => by simp [sameItems])
      (fun _ => by simp [sameItems]) fun _ _ => by rw [sameItems]
  rw [Shape.same, Bool.and_eq_true, hrecord, hitems]

/-- Equal record types, part by part: fields by their names, patterns in order. -/
structure RecordType.SameParts (t t' : RecordType) : Prop where
  allows : t.allowsAdditional = t'.allowsAdditional
  explicit : t.additionalExplicit = t'.additionalExplicit
  fields : SameEntries (fun s s' => s.same s' = true) t.fields t'.fields
  patterns : List.Forall₂ (fun p p' => p.1 = p'.1 ∧ p.2.same p'.2 = true) t.patterns t'.patterns

theorem RecordType.same_iff (hnodup : t.fieldNames.Nodup) :
    t.same t' = true ↔ t.SameParts t' := by
  obtain ⟨allows, explicit, fields, patterns⟩ := t
  obtain ⟨allows', explicit', fields', patterns'⟩ := t'
  have hfields : sameFields fields fields' = true ↔
      ∀ e ∈ fields, ∃ s, fields'.lookup e.1 = some s ∧ e.2.same s = true :=
    all_found_iff (fun _ => by rw [sameFields]) fun name _ _ fields' => by
      rw [sameFields]
      cases fields'.lookup name <;> rfl
  have hpatterns : samePatterns patterns patterns' = true ↔
      List.Forall₂ (fun p p' => (p.1.text == p'.1.text && p.2.same p'.2) = true)
        patterns patterns' :=
    all_same_iff (by rw [samePatterns]) (fun _ _ => by simp [samePatterns])
      (fun _ _ => by simp [samePatterns]) fun _ _ _ _ => by rw [samePatterns]
  simp only [RecordType.same, Bool.and_eq_true, beq_iff_eq, hfields, hpatterns, and_assoc]
  constructor
  · rintro ⟨hallows, hexplicit, hlength, hfound, hpatterns⟩
    refine ⟨hallows, hexplicit, (sameEntries_iff hnodup).2 ⟨hlength, hfound⟩, ?_⟩
    exact hpatterns.imp fun _ _ h => ⟨Pattern.eq_of_text_eq h.1, h.2⟩
  · rintro ⟨hallows, hexplicit, hfields, hpatterns⟩
    obtain ⟨hlength, hfound⟩ := (sameEntries_iff hnodup).1 hfields
    exact ⟨hallows, hexplicit, hlength, hfound,
      hpatterns.imp fun _ _ h => ⟨congrArg Pattern.text h.1, h.2⟩⟩

namespace RecordType.SameParts

theorem mem_fieldNames_iff (h : t.SameParts t') : name ∈ t.fieldNames ↔ name ∈ t'.fieldNames :=
  h.fields.keys.mem_iff

theorem policy_eq (h : t.SameParts t') : t.policy = t'.policy := by
  have hempty : t.patterns.isEmpty = t'.patterns.isEmpty := by
    have hpatterns := h.patterns
    revert hpatterns
    generalize t.patterns = patterns
    generalize t'.patterns = patterns'
    rintro (- | -) <;> rfl
  rw [policy, policy, h.allows, h.explicit, hempty]

/-- A key matches the patterns in the same place first. -/
theorem firstMatch? (h : t.SameParts t') (key : String) :
    Option.Rel (fun p p' => p.1 = p'.1 ∧ p.2.same p'.2 = true) (t.firstMatch? key)
      (t'.firstMatch? key) := by
  unfold RecordType.firstMatch?
  have hpatterns := h.patterns
  revert hpatterns
  generalize t.patterns = patterns
  generalize t'.patterns = patterns'
  intro hpatterns
  induction hpatterns with
  | nil => exact .none
  | @cons p p' rest rest' hp _ ih =>
    rw [List.find?_cons, List.find?_cons, ← hp.1]
    cases p.1.accepts key with
    | true => exact .some hp
    | false => exact ih

theorem admits_eq (h : t.SameParts t') (key : String) : t.admits key = t'.admits key := by
  have hdeclared : t.isDeclared key = t'.isDeclared key := by
    rw [isDeclared, isDeclared, Bool.eq_iff_iff, List.contains_iff_mem, List.contains_iff_mem]
    exact h.mem_fieldNames_iff
  rw [admits, admits, hdeclared, isSome_eq_of_rel (h.firstMatch? key)]

/-- A key has equal shapes in both types. -/
theorem shapeFor (h : t.SameParts t') (key : String) :
    (t.shapeFor key).same (t'.shapeFor key) = true := by
  have hplain : Shape.plain.same .plain = true := Shape.same_iff.2 ⟨.none, .none⟩
  have hfield := h.fields.lookup key
  have hpattern := h.firstMatch? key
  unfold RecordType.shapeFor shapeOf? fieldShape?
  revert hfield hpattern
  generalize t.fields.lookup key = field
  generalize t'.fields.lookup key = field'
  generalize t.firstMatch? key = p
  generalize t'.firstMatch? key = p'
  rintro (hfield | -) hpattern
  · exact hfield
  · cases hpattern with
    | some hp => exact hp.2
    | none => exact hplain

end RecordType.SameParts

/-! ## Equal bound values -/

theorem same_list_iff {xs ys : List BoundValue} :
    (BoundValue.list xs).same (.list ys) = true ↔
      List.Forall₂ (fun x y => x.same y = true) xs ys := by
  rw [BoundValue.same]
  exact all_same_iff (by rw [sameBoundItems]) (fun _ _ => by simp [sameBoundItems])
    (fun _ _ => by simp [sameBoundItems]) fun _ _ _ _ => by rw [sameBoundItems]

theorem Record.same_iff (hnodup : r.fieldNames.Nodup) : r.same r' = true ↔
    SameEntries (fun x y => x.same y = true) r.fields r'.fields ∧ r.type.same r'.type = true := by
  obtain ⟨t, fields⟩ := r
  obtain ⟨t', fields'⟩ := r'
  have hfields : sameBoundFields fields fields' = true ↔
      ∀ e ∈ fields, ∃ y, fields'.lookup e.1 = some y ∧ e.2.same y = true :=
    all_found_iff (fun _ => by rw [sameBoundFields]) fun name _ _ fields' => by
      rw [sameBoundFields]
      cases fields'.lookup name <;> rfl
  rw [Record.same, Bool.and_eq_true, Bool.and_eq_true, hfields, beq_iff_eq, sameEntries_iff hnodup]

/-- Equal as bound values, and equal as JSON. -/
structure BoundValue.Equal (x y : BoundValue) : Prop where
  bound : x.same y = true
  json : x.toJson.same y.toJson = true

theorem equal_raw (h : v.same w = true) : (BoundValue.raw v).Equal (.raw w) where
  bound := by rwa [BoundValue.same]
  json := by rwa [BoundValue.toJson, BoundValue.toJson]

theorem equal_list {xs ys : List BoundValue} (h : List.Forall₂ BoundValue.Equal xs ys) :
    (BoundValue.list xs).Equal (.list ys) where
  bound := same_list_iff.2 (h.imp fun _ _ h => h.bound)
  json := by
    rw [toJson_list, toJson_list, same_array_iff, List.forall₂_map_left_iff,
      List.forall₂_map_right_iff]
    exact h.imp fun _ _ h => h.json

theorem equal_record (hnodup : r.fieldNames.Nodup) (htypes : r.type.same r'.type = true)
    (h : SameEntries BoundValue.Equal r.fields r'.fields) :
    (BoundValue.record r).Equal (.record r') where
  bound := by
    rw [BoundValue.same, Record.same_iff hnodup]
    exact ⟨⟨h.keys, fun name x y hx hy => (h.values name x y hx hy).bound⟩, htypes⟩
  json := by
    have hkeys : (keys (r.fields.map fun e => (e.1, e.2.toJson))).Nodup := by
      rw [keys, List.map_map]
      exact hnodup
    rw [BoundValue.toJson, BoundValue.toJson, toJson_record, toJson_record, same_object_iff hkeys]
    exact h.map (S := fun v w => v.same w = true) (f := fun _ x => x.toJson)
      (g := fun _ y => y.toJson) fun _ _ _ _ _ h => h.json

/-! ## Binding -/

/-- Equal record types make records with the same fields of the same objects. -/
theorem sameEntries_bindMembers (h : t.SameParts t') (hms : (keys ms).Nodup)
    (hmembers : SameEntries SameContent ms ns)
    (hbind : ∀ m ∈ ms, ∀ w, SameContent m.2 w →
      ((t.shapeFor m.1).bind m.2).Equal ((t'.shapeFor m.1).bind w)) :
    SameEntries BoundValue.Equal (t.bindMembers ms).fields (t'.bindMembers ns).fields where
  keys := by
    have hpolicy := h.policy_eq
    change List.Perm (t.bindMembers ms).fieldNames (t'.bindMembers ns).fieldNames
    cases hp : t.policy with
    | open_ =>
      rw [hp] at hpolicy
      rw [t.fieldNames_bindMembers_of_open hp, t'.fieldNames_bindMembers_of_open hpolicy.symm]
      exact hmembers.keys
    | closed =>
      rw [hp] at hpolicy
      have hadmits : t.admits = t'.admits := funext h.admits_eq
      rw [t.fieldNames_bindMembers_of_closed hp, t'.fieldNames_bindMembers_of_closed hpolicy.symm,
        hadmits]
      exact h.fields.keys.append (hmembers.keys.filter _)
  values name x y hx hy := by
    have hns : (keys ns).Nodup := hmembers.keys.nodup_iff.1 hms
    have hx : x = (t.shapeFor name).bind (valueAt ms name) :=
      t.eq_bind_of_mem_fields hms (mem_of_lookup_eq_some hx)
    have hy : y = (t'.shapeFor name).bind (valueAt ns name) :=
      t'.eq_bind_of_mem_fields hns (mem_of_lookup_eq_some hy)
    have hvalue := hmembers.lookup name
    rw [hx, hy, valueAt, valueAt]
    -- a member of the one object has its counterpart in the other; what is missing is null in both
    generalize hv : ms.lookup name = v at hvalue ⊢
    generalize ns.lookup name = w at hvalue ⊢
    cases hvalue with
    | none => exact equal_raw rfl
    | some hsame => exact hbind (name, _) (mem_of_lookup_eq_some hv) _ hsame

/-- The record types of the shape declare no field twice. -/
def Shape.FieldsDistinct (s : Shape) : Prop :=
  ∀ t, Reaches t s → t.fieldNames.Nodup

theorem equal_bind (ha : a.FieldsDistinct) (hab : a.same b = true) (hvw : SameContent v w) :
    (a.bind v).Equal (b.bind w) := by
  induction a, v using bind_induction generalizing b w with
  | plain a v h =>
    obtain ⟨hrecord, hitems⟩ := Shape.same_iff.1 hab
    have h' : b.useFor w = .plain := useFor_eq_plain_of_isSome_eq (kind_eq_of_same hvw.same)
      (isSome_eq_of_rel hrecord) (isSome_eq_of_rel hitems) h
    rw [bind_of_plain h, bind_of_plain h']
    exact equal_raw hvw.same
  | list a i vs hi each =>
    obtain ⟨i', hi', hitems⟩ : ∃ i', b.items = some i' ∧ i.same i' = true := by
      have hitems := (Shape.same_iff.1 hab).2
      rw [hi] at hitems
      exact exists_of_some_rel hitems
    obtain ⟨ws, rfl⟩ := exists_array_of_same hvw.same
    obtain ⟨hlength, hvalues⟩ := List.forall₂_iff_zip.1 hvw.items
    have hi'' : i.FieldsDistinct := fun u hu => ha u (.items hi hu)
    rw [bind_array hi, bind_array hi']
    refine equal_list (List.forall₂_map_left_iff.2 (List.forall₂_map_right_iff.2 ?_))
    exact List.forall₂_iff_zip.2
      ⟨hlength, fun hp => each _ (List.of_mem_zip hp).1 hi'' hitems (hvalues hp)⟩
  | record a t ms ht each =>
    obtain ⟨t', ht', htypes⟩ : ∃ t', b.record = some t' ∧ t.same t' = true := by
      have hrecord := (Shape.same_iff.1 hab).1
      rw [ht] at hrecord
      exact exists_of_some_rel hrecord
    obtain ⟨ns, rfl⟩ := exists_object_of_same hvw.same
    have hnames := ha t (.here ht)
    have hkeys : (keys ms).Nodup := hvw.nodup_keys
    have hparts := (RecordType.same_iff hnames).1 htypes
    rw [bind_object ht, bind_object ht']
    refine equal_record (t.nodup_fieldNames_bindMembers hnames hkeys) htypes ?_
    refine sameEntries_bindMembers hparts hkeys hvw.members fun m hm w hmw => ?_
    exact each m hm (fun u hu => ha u ((reaches_of_shapeFor hu).trans (.here ht)))
      (hparts.shapeFor m.1) hmw

/-- **Binding respects equality.**  Equal values bound by equal shapes are equal, as bound values
and when they are written back as JSON.  The record types of the shape declare no field twice and no
object of the value has a key twice, so that fields and members are found by their names. -/
theorem bind_same (ha : a.FieldsDistinct) (hv : v.WellFormed) (hab : a.same b = true)
    (hvw : v.same w = true) :
    (a.bind v).same (b.bind w) = true ∧ (a.bind v).toJson.same (b.bind w).toJson = true := by
  have h := equal_bind ha hab ⟨hv, hvw⟩
  exact ⟨h.bound, h.json⟩

/-! ## A card and its type in another order -/

/-- The type of the card with its two fields in the opposite order. -/
def turnedCardType : RecordType :=
  ⟨true, false, [("home", ⟨some placeType, none⟩), ("name", .plain)], [(extension, .plain)]⟩

/-- The card with the keys of two of its objects in the opposite order. -/
def turnedCard : Json :=
  .object [("x-note", .object [("a", .null), ("z", .null)]),
    ("home", .object [("city", .string "Paris")]), ("name", .string "Ada")]

theorem fieldsDistinct_card : cardType.toShape.FieldsDistinct := by
  have hplace : placeType.toShape.Distinct := by
    refine RecordType.distinct_iff.2 ⟨⟨by decide, by decide⟩, ?_, by simp [placeType]⟩
    simp [placeType, Shape.distinct_plain]
  have hcard : cardType.toShape.Distinct := by
    have hnames : cardType.NamesDistinct :=
      ⟨by decide, by simp [cardType, RecordType.patternTexts]⟩
    refine RecordType.distinct_iff.2 ⟨hnames, ?_, ?_⟩
    · simp only [cardType, List.forall_mem_cons]
      exact ⟨Shape.distinct_plain, hplace, List.forall_mem_nil _⟩
    · simp [cardType, Shape.distinct_plain]
  exact fun t ht => (hcard t ht).fields

theorem same_turnedCardType : cardType.toShape.same turnedCardType.toShape = true := by
  simp [RecordType.toShape, cardType, turnedCardType, placeType, Shape.plain, Shape.same,
    sameRecord, sameItems, RecordType.same, sameFields, samePatterns, List.lookup_cons]

theorem bind_turnedCard :
    cardType.toShape.FieldsDistinct ∧ card.WellFormed ∧
    cardType.toShape.same turnedCardType.toShape = true ∧ card.same turnedCard = true ∧
    (cardType.toShape.bind card).same (turnedCardType.toShape.bind turnedCard) = true ∧
    (cardType.toShape.bind card).toJson.same
      (turnedCardType.toShape.bind turnedCard).toJson = true := by
  have hcards : card.same turnedCard = true := by rfl
  exact ⟨fieldsDistinct_card, wellFormed_card, same_turnedCardType, hcards,
    bind_same fieldsDistinct_card wellFormed_card same_turnedCardType hcards⟩

end JsonRecords
