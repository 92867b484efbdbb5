import JsonRecords.Proofs.DistinctNames

/-!
# The fields of records and their values

A record that is bound from an object has exactly the fields that its type asks for, each with the
value that the object has for it, made a record or a list wherever the types of the field say so.
`ExactFields` states this for one record, and `Coerced` for any bound value.

Both hold at every depth (`coerced_bindMembers`): whatever stands in the tree of a bound record
(`Within`) stands there for a value of the input that some shape governs (`StandsFor`), and it is
what becomes of this value under this shape.

That names are distinct is needed throughout.  The fields of a record could be collected one by one
in an ordered map (`RecordType.collected`), declared fields first, and distinct names are the reason
why this overwrites none of them and changes no order (`collected_eq_fields`).
-/

namespace JsonRecords

open Association

variable {store : Store} {s i below : Shape} {t u : RecordType} {v w : Json}
  {ms : List (String × Json)} {vs : List Json} {b : BoundValue} {bs : List BoundValue} {r : Record}
  {name key : String}

/-! ## The shape that governs a name -/

/-- A declared field governs its name; another name is governed by the first pattern that it
matches, and if there is none, values of this name stay as they are. -/
inductive RecordType.Governs (t : RecordType) (name : String) : Shape → Prop where
  | field {s : Shape} (h : (name, s) ∈ t.fields) : Governs t name s
  | pattern {s : Shape} {p : Pattern} {before after : List (Pattern × Shape)}
      (undeclared : name ∉ t.fieldNames) (hpatterns : t.patterns = before ++ (p, s) :: after)
      (accepts : p.accepts name = true) (first : ∀ q ∈ before, q.1.accepts name = false) :
      Governs t name s
  | nothing (undeclared : name ∉ t.fieldNames)
      (unmatched : ∀ p ∈ t.patterns, p.1.accepts name = false) : Governs t name .plain

namespace RecordType

theorem governs_shapeFor (t : RecordType) (name : String) : t.Governs name (t.shapeFor name) := by
  by_cases hname : name ∈ t.fieldNames
  · obtain ⟨s, hs⟩ := mem_fieldNames_iff.1 hname
    rw [shapeFor_of_fieldShape? hs]
    exact .field (mem_of_lookup_eq_some hs)
  · cases hp : t.firstMatch? name with
    | none =>
      have hunmatched : ∀ p ∈ t.patterns, p.1.accepts name = false := by
        simpa [firstMatch?] using hp
      rw [shapeFor_of_unmatched hname hunmatched]
      exact .nothing hname hunmatched
    | some p =>
      obtain ⟨p, s⟩ := p
      rw [shapeFor_of_firstMatch? hname hp]
      obtain ⟨haccepts, before, after, hpatterns, hfirst⟩ := List.find?_eq_some_iff_append.1 hp
      exact .pattern hname hpatterns haccepts (by simpa using hfirst)

theorem Governs.eq_shapeFor (h : t.Governs name s) (hnodup : t.fieldNames.Nodup) :
    s = t.shapeFor name := by
  cases h with
  | field h => exact (shapeFor_of_fieldShape? (lookup_eq_some_of_mem hnodup h)).symm
  | @pattern s p before after undeclared hpatterns accepts first =>
    have hfirst : t.firstMatch? name = some (p, s) :=
      List.find?_eq_some_iff_append.2 ⟨accepts, before, after, hpatterns, by simpa using first⟩
    exact (shapeFor_of_firstMatch? undeclared hfirst).symm
  | nothing undeclared unmatched => exact (shapeFor_of_unmatched undeclared unmatched).symm

end RecordType

/-! ## One record -/

namespace RecordType

theorem admits_eq (t : RecordType) (key : String) : t.admits key =
    (!t.fieldNames.contains key && t.patterns.any fun p => p.1.accepts key) := by
  rw [admits, isDeclared, firstMatch?, Bool.eq_iff_iff]
  simp [List.find?_isSome]

theorem fieldNames_bindMembers_of_open (hp : t.policy = .open_) :
    (t.bindMembers ms).fieldNames = keys ms := by
  rw [Record.fieldNames, bindMembers, expose_of_open hp, bindMembers_eq_map, List.map_map]
  rfl

theorem fieldNames_bindMembers_of_closed (hp : t.policy = .closed) :
    (t.bindMembers ms).fieldNames = t.fieldNames ++ (keys ms).filter t.admits := by
  rw [Record.fieldNames, bindMembers, expose_of_closed hp, declared_bindMembers,
    admitted_bindMembers, List.map_append, List.map_map, List.map_map, keys, List.filter_map,
    admitted]
  congr 1
  exact List.map_id _

theorem nodup_fieldNames_bindMembers (hnames : t.fieldNames.Nodup) (hkeys : (keys ms).Nodup) :
    (t.bindMembers ms).fieldNames.Nodup := by
  cases hp : t.policy with
  | open_ =>
    rw [fieldNames_bindMembers_of_open hp]
    exact hkeys
  | closed =>
    rw [fieldNames_bindMembers_of_closed hp]
    refine List.nodup_append.2 ⟨hnames, hkeys.filter _, fun name hdeclared key hadmitted => ?_⟩
    rintro rfl
    exact (admits_eq_true_iff.1 (List.mem_filter.1 hadmitted).2).1 hdeclared

/-- Every field of a record is what becomes of the value that the object has for its name. -/
theorem eq_bind_of_mem_fields (hkeys : (keys ms).Nodup) {e : String × BoundValue}
    (he : e ∈ (t.bindMembers ms).fields) : e.2 = (t.shapeFor e.1).bind (valueAt ms e.1) := by
  have hmember : ∀ m ∈ ms, (t.shapeFor m.1).bind m.2 = (t.shapeFor m.1).bind (valueAt ms m.1) := by
    intro m hm
    rw [valueAt_of_mem hkeys hm]
  rw [bindMembers] at he
  cases hp : t.policy with
  | open_ =>
    rw [expose_of_open hp, bindMembers_eq_map] at he
    obtain ⟨m, hm, rfl⟩ := List.mem_map.1 he
    exact hmember m hm
  | closed =>
    rw [expose_of_closed hp, declared_bindMembers, admitted_bindMembers, List.mem_append] at he
    rcases he with he | he
    · obtain ⟨name, -, rfl⟩ := List.mem_map.1 he
      rfl
    · obtain ⟨m, hm, rfl⟩ := List.mem_map.1 he
      exact hmember m (mem_admitted.1 hm).1

end RecordType

/-- The record that a type makes of an object: its fields are the keys of the object if the type is
open, and the declared names and after them the undeclared keys that match a pattern if it is
closed; and each of them has the value that the object has for it, null if it has none. -/
structure ExactFields (u : RecordType) (o : List (String × Json)) (r : Record) : Prop where
  type : r.type = u
  distinct : r.fieldNames.Nodup
  names_open : u.policy = .open_ → r.fieldNames = keys o
  names_closed : u.policy = .closed → r.fieldNames = u.fieldNames ++ (keys o).filter fun key =>
    !u.fieldNames.contains key && u.patterns.any fun p => p.1.accepts key
  values : ∀ name b, r.get? name = some b →
    ∃ s, u.Governs name s ∧ b = s.bind (valueAt o name)

theorem exactFields_bindMembers (hnames : t.fieldNames.Nodup) (hkeys : (keys ms).Nodup) :
    ExactFields t ms (t.bindMembers ms) where
  type := rfl
  distinct := t.nodup_fieldNames_bindMembers hnames hkeys
  names_open := t.fieldNames_bindMembers_of_open
  names_closed hp := by
    simp only [← t.admits_eq]
    exact t.fieldNames_bindMembers_of_closed hp
  values name b hb := by
    refine ⟨_, t.governs_shapeFor name, ?_⟩
    exact t.eq_bind_of_mem_fields hkeys (mem_of_lookup_eq_some hb)

/-! ## Collecting fields one by one -/

namespace RecordType

/-- A declared field is collected, null if the object lacks it. -/
def collectDeclared (t : RecordType) (ms : List (String × Json))
    (fields : List (String × BoundValue)) (name : String) : List (String × BoundValue) :=
  insert fields name (((t.fieldShape? name).getD .plain).bind (valueAt ms name))

/-- A member is collected if its key is not declared and matches a pattern. -/
def collectMatch (t : RecordType) (fields : List (String × BoundValue)) (m : String × Json) :
    List (String × BoundValue) :=
  if t.isDeclared m.1 then fields
  else
    match t.firstMatch? m.1 with
    | some (_, s) => insert fields m.1 (s.bind m.2)
    | none => fields

/-- The fields of a record as they are collected in an ordered map: the keys of the object if the
type is open; if it is closed, the declared names, and then the other keys that match a pattern. -/
def collected (t : RecordType) (ms : List (String × Json)) : List (String × BoundValue) :=
  match t.policy with
  | .open_ => ms.foldl (fun fields m => insert fields m.1 ((t.shapeFor m.1).bind m.2)) []
  | .closed => ms.foldl t.collectMatch (t.fieldNames.foldl (t.collectDeclared ms) [])

theorem collectDeclared_eq (hname : name ∈ t.fieldNames) (ms : List (String × Json))
    (fields : List (String × BoundValue)) : t.collectDeclared ms fields name =
      insert fields name ((t.shapeFor name).bind (valueAt ms name)) := by
  obtain ⟨s, hs⟩ := mem_fieldNames_iff.1 hname
  rw [collectDeclared, shapeFor_of_fieldShape? hs, hs, Option.getD_some]

theorem collectMatch_eq (t : RecordType) (fields : List (String × BoundValue))
    (m : String × Json) : t.collectMatch fields m =
      if t.admits m.1 then insert fields m.1 ((t.shapeFor m.1).bind m.2) else fields := by
  rw [collectMatch, admits]
  cases hdeclared : t.isDeclared m.1 with
  | true => rfl
  | false =>
    cases hmatch : t.firstMatch? m.1 with
    | none => rfl
    | some p =>
      have hundeclared : m.1 ∉ t.fieldNames := by simpa [isDeclared] using hdeclared
      simp [shapeFor_of_firstMatch? hundeclared hmatch]

/-- Collecting a field never overwrites another one, so the order is that in which they come up. -/
theorem collected_eq_fields (hnames : t.fieldNames.Nodup) (hkeys : (keys ms).Nodup) :
    t.collected ms = (t.bindMembers ms).fields := by
  have hnodup := t.nodup_fieldNames_bindMembers hnames hkeys
  rw [Record.fieldNames, bindMembers] at hnodup
  rw [collected, bindMembers]
  cases hp : t.policy with
  | open_ =>
    rw [expose_of_open hp, bindMembers_eq_map] at hnodup ⊢
    have hfold := foldl_insert_nil hnodup
    rwa [List.foldl_map] at hfold
  | closed =>
    rw [expose_of_closed hp, declared_bindMembers, admitted_bindMembers] at hnodup ⊢
    have hfirst := hnodup
    rw [List.map_append] at hfirst
    have hdeclared : t.fieldNames.foldl (t.collectDeclared ms) [] =
        t.fieldNames.map fun name => (name, (t.shapeFor name).bind (valueAt ms name)) := by
      rw [← foldl_insert_nil (List.nodup_append.1 hfirst).1, List.foldl_map]
      exact List.foldl_ext _ _ [] fun fields name hname => collectDeclared_eq hname ms fields
    have hadmitted := foldl_insert hnodup
    rw [List.foldl_map, admitted, List.foldl_filter] at hadmitted
    rw [hdeclared]
    refine (List.foldl_ext _ _ _ fun fields m _ => ?_).trans hadmitted
    exact t.collectMatch_eq fields m

end RecordType

/-! ## Every bound value -/

/-- The shape makes a record of the value: this is an object, and the shape has a record type. -/
def Shape.MakesRecord (s : Shape) (v : Json) : Prop :=
  (∃ o, v = .object o) ∧ ∃ u, s.record = some u

/-- The shape makes a list of the value: this is an array, and the shape has one for its items. -/
def Shape.MakesList (s : Shape) (v : Json) : Prop :=
  (∃ vs, v = .array vs) ∧ ∃ i, s.items = some i

/-- What becomes of a value: a record with exactly its fields or a list of as many items where the
shape makes one of it, and otherwise the value itself. -/
structure Coerced (s : Shape) (v : Json) (b : BoundValue) : Prop where
  record_iff : (∃ r, b = .record r) ↔ s.MakesRecord v
  list_iff : (∃ bs, b = .list bs) ↔ s.MakesList v
  raw_iff : ∀ w, b = .raw w ↔ w = v ∧ ¬ s.MakesRecord v ∧ ¬ s.MakesList v
  fields : ∀ u o r, s.record = some u → v = .object o → b = .record r → ExactFields u o r
  items : ∀ (i : Shape) (vs : List Json) (bs : List BoundValue), s.items = some i →
    v = .array vs → b = .list bs →
    bs.length = vs.length ∧ ∀ (n : Nat) (w : Json), vs[n]? = some w → bs[n]? = some (i.bind w)

theorem exists_bind_eq_record_iff : (∃ r, s.bind v = .record r) ↔ s.MakesRecord v := by
  simp only [bind_eq_record_iff]
  constructor
  · rintro ⟨r, u, o, hu, ho, -⟩
    exact ⟨⟨o, ho⟩, u, hu⟩
  · rintro ⟨⟨o, ho⟩, u, hu⟩
    exact ⟨_, u, o, hu, ho, rfl⟩

theorem exists_bind_eq_list_iff : (∃ bs, s.bind v = .list bs) ↔ s.MakesList v := by
  simp only [bind_eq_list_iff]
  constructor
  · rintro ⟨bs, i, vs, hi, hvs, -⟩
    exact ⟨⟨vs, hvs⟩, i, hi⟩
  · rintro ⟨⟨vs, hvs⟩, i, hi⟩
    exact ⟨_, i, vs, hi, hvs, rfl⟩

theorem coerced_bind (hs : s.Distinct) (hv : v.WellFormed) : Coerced s v (s.bind v) where
  record_iff := exists_bind_eq_record_iff
  list_iff := exists_bind_eq_list_iff
  raw_iff w := by
    rw [← exists_bind_eq_record_iff, ← exists_bind_eq_list_iff]
    constructor
    · intro hraw
      rw [hraw]
      exact ⟨(bind_eq_raw_iff.1 hraw).2.symm, by simp, by simp⟩
    · rintro ⟨rfl, hrecord, hlist⟩
      cases hb : s.bind w with
      | record r => exact absurd ⟨r, hb⟩ hrecord
      | list bs => exact absurd ⟨bs, hb⟩ hlist
      | raw v => rw [(bind_eq_raw_iff.1 hb).2]
  fields u o r hu ho hb := by
    subst ho
    rw [bind_object hu] at hb
    obtain rfl := BoundValue.record.inj hb
    cases hv with
    | object distinct _ => exact exactFields_bindMembers (hs u (.here hu)).fields distinct
  items i vs bs hi hvs hb := by
    subst hvs
    rw [bind_array hi] at hb
    obtain rfl := BoundValue.list.inj hb
    exact ⟨List.length_map _, fun n w hw => by rw [List.getElem?_map, hw, Option.map_some]⟩

/-! ## Every place -/

/-- What stands in the tree of a bound value, at any depth. -/
inductive Within (out : BoundValue) : BoundValue → Prop where
  | whole : Within out out
  | field {r : Record} {name : String} {b : BoundValue} (h : Within out (.record r))
      (hb : (name, b) ∈ r.fields) : Within out b
  | item {bs : List BoundValue} {b : BoundValue} (h : Within out (.list bs)) (hb : b ∈ bs) :
      Within out b

/-- The tree `out` is bound from `input` by the shape `whole`, and `b` stands in it for the value
`v`, which the shape `s` governs.  A field stands for the value of its name in the object that the
record stands for, null if there is none, and an item for the item of the array in the same
place. -/
inductive StandsFor (whole : Shape) (input : Json) (out : BoundValue) :
    BoundValue → Shape → Json → Prop where
  | whole : StandsFor whole input out out whole input
  | field {r : Record} {s below : Shape} {o : List (String × Json)} {u : RecordType}
      {name : String} {b : BoundValue} (h : StandsFor whole input out (.record r) s (.object o))
      (hu : s.record = some u) (hb : r.get? name = some b) (hgoverns : u.Governs name below) :
      StandsFor whole input out b below (valueAt o name)
  | item {bs : List BoundValue} {s i : Shape} {vs : List Json} {n : Nat} {b : BoundValue} {v : Json}
      (h : StandsFor whole input out (.list bs) s (.array vs)) (hi : s.items = some i)
      (hb : bs[n]? = some b) (hv : vs[n]? = some v) : StandsFor whole input out b i v

theorem wellFormed_valueAt (h : (Json.object ms).WellFormed) (name : String) :
    (valueAt ms name).WellFormed := by
  cases h with
  | object _ each =>
    unfold valueAt
    cases hlookup : ms.lookup name with
    | none => exact .null
    | some v => exact each _ (mem_of_lookup_eq_some hlookup)

/-- Whatever stands for a value is what becomes of it under the shape that governs it. -/
theorem eq_bind_of_standsFor (hs : s.Distinct) (hv : v.WellFormed)
    (h : StandsFor s v (s.bind v) b below w) :
    below.Distinct ∧ w.WellFormed ∧ b = below.bind w := by
  induction h with
  | whole => exact ⟨hs, hv, rfl⟩
  | @field r s' below o u name b _ hu hb hgoverns ih =>
    obtain ⟨hdistinct, hwellFormed, hbind⟩ := ih
    rw [bind_object hu, BoundValue.record.injEq] at hbind
    subst hbind
    have hu' := hdistinct.reached (.here hu)
    obtain rfl := hgoverns.eq_shapeFor (hdistinct u (.here hu)).fields
    refine ⟨u.distinct_shapeFor hu' name, wellFormed_valueAt hwellFormed name, ?_⟩
    cases hwellFormed with
    | object distinct _ => exact u.eq_bind_of_mem_fields distinct (mem_of_lookup_eq_some hb)
  | item _ hi hb hv ih =>
    obtain ⟨hdistinct, hwellFormed, hbind⟩ := ih
    rw [bind_array hi, BoundValue.list.injEq] at hbind
    subst hbind
    rw [List.getElem?_map, hv] at hb
    refine ⟨fun u hu => hdistinct u (.items hi hu), ?_, (Option.some.inj hb).symm⟩
    cases hwellFormed with
    | array each => exact each _ (List.mem_of_getElem? hv)

theorem exists_standsFor_of_within (hs : s.Distinct) (hv : v.WellFormed)
    (h : Within (s.bind v) b) : ∃ below w, StandsFor s v (s.bind v) b below w := by
  induction h with
  | whole => exact ⟨s, v, .whole⟩
  | @field r name b _ hb ih =>
    obtain ⟨s', w, hstands⟩ := ih
    obtain ⟨hdistinct, hwellFormed, hbind⟩ := eq_bind_of_standsFor hs hv hstands
    obtain ⟨u, o, hu, rfl, rfl⟩ := bind_eq_record_iff.1 hbind.symm
    cases hwellFormed with
    | object distinct _ =>
      have hnodup := u.nodup_fieldNames_bindMembers (hdistinct u (.here hu)).fields distinct
      exact ⟨_, _, hstands.field hu (lookup_eq_some_of_mem hnodup hb) (u.governs_shapeFor name)⟩
  | item _ hb ih =>
    obtain ⟨s', w, hstands⟩ := ih
    obtain ⟨-, -, hbind⟩ := eq_bind_of_standsFor hs hv hstands
    obtain ⟨i, vs, hi, rfl, rfl⟩ := bind_eq_list_iff.1 hbind.symm
    obtain ⟨n, hn⟩ := List.mem_iff_getElem?.1 hb
    have hvalue := hn
    rw [List.getElem?_map, Option.map_eq_some_iff] at hvalue
    obtain ⟨v', hv', -⟩ := hvalue
    exact ⟨i, v', hstands.item hi hn hv'⟩

/-- **Records have exactly their fields, and everything is coerced, at every depth.**  Whatever
stands in a record that is bound by a type that was built stands there for a value of the input, and
is what becomes of it under the shape that governs it.  A record has the keys of its object, or the
declared names and then the undeclared keys that match a pattern, once each; and no object is left
raw where a record type is at hand, and no array where there is a shape for its items. -/
theorem coerced_bindMembers (ht : t.IsBuilt store) (hms : (Json.object ms).WellFormed) :
    (∀ b s v, StandsFor t.toShape (.object ms) (.record (t.bindMembers ms)) b s v →
      Coerced s v b) ∧
    ∀ b, Within (.record (t.bindMembers ms)) b →
      ∃ s v, StandsFor t.toShape (.object ms) (.record (t.bindMembers ms)) b s v := by
  rw [← bind_object (s := t.toShape) rfl]
  refine ⟨fun b s v h => ?_, fun b h => exists_standsFor_of_within ht.distinct hms h⟩
  obtain ⟨hs, hv, rfl⟩ := eq_bind_of_standsFor ht.distinct hms h
  exact coerced_bind hs hv

/-! ## A parcel with its labels -/

def parcelSchema : Json :=
  .object [("type", .string "object"), ("properties", .object [("name", .object [])]),
    ("patternProperties", .object [("^x-", lidDocument)])]

def parcelType : RecordType :=
  ⟨true, false, [("name", .plain)], [(extension, ⟨none, some .plain⟩)]⟩

/-- The parcel lacks the declared field, and one of its keys is neither declared nor matched. -/
def parcel : List (String × Json) :=
  [("weight", .null), ("x-via", .array [.string "Bern", .string "Basel"])]

theorem wellFormed_parcelSchema : parcelSchema.WellFormed := by
  have hname : (Json.object [("name", .object [])]).WellFormed :=
    .object (by decide) (by simpa using .object List.nodup_nil (by simp))
  have hlabels : lidDocument.WellFormed := .object (by decide) (by simp [Json.WellFormed.string])
  have hpatterns : (Json.object [("^x-", lidDocument)]).WellFormed :=
    .object (by decide) (by simp [hlabels])
  exact .object (by decide) (by simp [Json.WellFormed.string, hname, hpatterns])

theorem wellFormed_parcel : (Json.object parcel).WellFormed := by
  have hvia : (Json.array [.string "Bern", .string "Basel"]).WellFormed :=
    .array (by simp [Json.WellFormed.string])
  exact .object (by decide) (by simp [parcel, Json.WellFormed.null, hvia])

theorem text_extension : extension.text = "^x-" :=
  Pattern.text_of_ofText?_eq_some (Option.some_get _).symm

theorem compileDocument_parcel : compileDocument shelf parcelSchema "s" = .ok parcelType := by
  have hschema : IsRecordSchema parcelSchema := by
    refine ⟨rfl, fun v hv => ?_⟩
    cases hv
    rfl
  refine compileDocument_eq_ok_iff.2 ⟨hschema, ⟨?_, ?_, rfl, ?_⟩, ?_⟩
  · simp [parcelType, parcelSchema, Json.get?, Json.members, List.lookup_cons]
  · simp [parcelType, parcelSchema, Json.get?, Json.members, List.lookup_cons]
  · rw [parcelType, List.map_singleton, text_extension]
    rfl
  · have hparts : recordParts parcelSchema parcelType =
        [(.object [], .plain), (lidDocument, ⟨none, some .plain⟩)] := by rfl
    rw [hparts, List.forall_mem_cons, List.forall_mem_singleton]
    exact ⟨expands_empty, expands_lid⟩

/-- The weight is dropped, and the label is a list of two items. -/
theorem coerced_parcel :
    parcelType.IsBuilt shelf ∧ (Json.object parcel).WellFormed ∧
    (parcelType.bindMembers parcel).fieldNames = ["name", "x-via"] ∧
    (∀ b, (parcelType.bindMembers parcel).get? "x-via" = some b →
      ∃ bs, b = .list bs ∧ bs.length = 2) ∧
    ∀ b, Within (.record (parcelType.bindMembers parcel)) b →
      ∃ s v, StandsFor parcelType.toShape (.object parcel)
        (.record (parcelType.bindMembers parcel)) b s v := by
  have hbuilt : parcelType.IsBuilt shelf :=
    isBuilt_of_compileDocument wellFormed_parcelSchema compileDocument_parcel
  have haccepts : extension.accepts "x-via" = true := by decide +kernel
  have hrejects : extension.accepts "weight" = false := by decide +kernel
  obtain ⟨hcoerced, hplaces⟩ := coerced_bindMembers hbuilt wellFormed_parcel
  refine ⟨hbuilt, wellFormed_parcel, ?_, fun b hb => ?_, hplaces⟩
  · rw [((hcoerced _ _ _ .whole).fields parcelType parcel _ rfl rfl rfl).names_closed rfl]
    simp [parcelType, parcel, RecordType.fieldNames, keys, haccepts, hrejects]
  · have hpatterns : parcelType.patterns = [] ++ [(extension, ⟨none, some .plain⟩)] := rfl
    have hgoverns : parcelType.Governs "x-via" ⟨none, some .plain⟩ :=
      .pattern (by decide) hpatterns haccepts (by simp)
    have hlist := hcoerced b _ _ (.field .whole rfl hb hgoverns)
    obtain ⟨bs, rfl⟩ := hlist.list_iff.2 ⟨⟨_, rfl⟩, _, rfl⟩
    exact ⟨bs, rfl, (hlist.items _ _ bs rfl rfl rfl).1⟩

end JsonRecords
