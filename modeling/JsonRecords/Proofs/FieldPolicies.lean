import JsonRecords.Proofs.ExactFields

/-!
# Open and closed records of one object

The policy of a record type decides which fields its records have.  It has no part in the values of
these fields: of two types that declare the same fields and have the same patterns, one open and the
other closed, a key has the same value in the records of both, as soon as both have the key
(`differsByPolicy_bindMembers`).  So a schema may be closed, or opened again, and a reader of the
fields that stay notices nothing.

The two kinds of records can be collected by different loops (`RecordType.collected`), but a closed
record is read off the open one (`closedForm`).  It lacks the keys that are neither declared nor
matched, whose values nothing governs, and it has null for the declared names that the object lacks.
So whatever the one record has and the other has not is raw.
-/

namespace JsonRecords

open Association

variable {t u : RecordType} {ms : List (String × Json)} {name : String} {b : BoundValue}

/-! ## Types that differ in their policy -/

/-- The types declare the same fields and have the same patterns, in the same order and with the
same shapes.  What they say about further keys may be different. -/
structure RecordType.SameDeclarations (t u : RecordType) : Prop where
  fields : t.fields = u.fields
  patterns : t.patterns = u.patterns

namespace RecordType

theorem SameDeclarations.shapeFor_eq (h : t.SameDeclarations u) (key : String) :
    t.shapeFor key = u.shapeFor key := by
  rw [shapeFor, shapeFor, shapeOf?, shapeOf?, fieldShape?, fieldShape?, firstMatch?, firstMatch?,
    h.fields, h.patterns]

theorem SameDeclarations.bindMembers_eq (h : t.SameDeclarations u) (ms : List (String × Json)) :
    JsonRecords.bindMembers t ms = JsonRecords.bindMembers u ms := by
  simp only [bindMembers_eq_map, h.shapeFor_eq]

theorem admits_eq_false_iff (hname : name ∉ t.fieldNames) :
    t.admits name = false ↔ ∀ p ∈ t.patterns, p.1.accepts name = false := by
  rw [← Bool.not_eq_true, admits_iff_exists_pattern]
  simp [hname]

/-! ## The fields of the two records -/

theorem get?_bindMembers_of_open (hp : t.policy = .open_) (ms : List (String × Json))
    (name : String) :
    (t.bindMembers ms).get? name = (JsonRecords.bindMembers t ms).lookup name := by
  rw [Record.get?, bindMembers, expose_of_open hp]

theorem get?_bindMembers_of_closed (hp : t.policy = .closed) (ms : List (String × Json))
    (name : String) :
    (t.bindMembers ms).get? name =
      if name ∈ t.fieldNames then
        some (((JsonRecords.bindMembers t ms).lookup name).getD (.raw .null))
      else if t.admits name then (JsonRecords.bindMembers t ms).lookup name
      else none := by
  rw [Record.get?, bindMembers, expose_of_closed hp, List.lookup_append, admitted,
    lookup_filter_keys]
  by_cases hname : name ∈ t.fieldNames
  · have hdeclared : (t.declared (JsonRecords.bindMembers t ms)).lookup name =
        some (((JsonRecords.bindMembers t ms).lookup name).getD (.raw .null)) :=
      List.lookup_graph _ hname
    rw [hdeclared, if_pos hname, Option.some_or]
  · have hundeclared : (t.declared (JsonRecords.bindMembers t ms)).lookup name = none := by
      refine lookup_eq_none_of_not_mem ?_
      rw [keys, declared, List.map_map]
      simpa using hname
    rw [hundeclared, if_neg hname, Option.none_or]

/-- An open record has the keys of its object. -/
theorem get?_bindMembers_eq_none_iff (hp : t.policy = .open_) :
    (t.bindMembers ms).get? name = none ↔ name ∉ keys ms := by
  rw [get?_bindMembers_of_open hp, lookup_bindMembers, Option.map_eq_none_iff]
  constructor
  · intro hnone hmem
    obtain ⟨m, hm, rfl⟩ := List.mem_map.1 hmem
    have hne := List.lookup_eq_none_iff.1 hnone m hm
    simp at hne
  · exact lookup_eq_none_of_not_mem

end RecordType

/-- What becomes of a name in the closed record, read off the open one: a declared name has the
value it has there, or null, a key that matches a pattern has the value it has there, and any other
name is missing. -/
inductive ClosedForm (u : RecordType) (opened closed : Record) (name : String) : Prop where
  | declared (hname : name ∈ u.fieldNames)
      (hvalue : closed.get? name = some ((opened.get? name).getD (.raw .null)))
  | matched (hname : name ∉ u.fieldNames) (hmatch : ∃ p ∈ u.patterns, p.1.accepts name = true)
      (hvalue : closed.get? name = opened.get? name)
  | dropped (hname : name ∉ u.fieldNames) (hmatch : ∀ p ∈ u.patterns, p.1.accepts name = false)
      (hvalue : closed.get? name = none)

open RecordType in
theorem closedForm (h : t.SameDeclarations u) (ht : t.policy = .open_) (hu : u.policy = .closed)
    (ms : List (String × Json)) (name : String) :
    ClosedForm u (t.bindMembers ms) (u.bindMembers ms) name := by
  have hopened : (t.bindMembers ms).get? name = (bindMembers u ms).lookup name := by
    rw [get?_bindMembers_of_open ht, h.bindMembers_eq]
  have hclosed := get?_bindMembers_of_closed hu ms name
  rw [← hopened] at hclosed
  by_cases hname : name ∈ u.fieldNames
  · rw [if_pos hname] at hclosed
    exact .declared hname hclosed
  · rw [if_neg hname] at hclosed
    cases hadmits : u.admits name with
    | true =>
      rw [hadmits, if_pos rfl] at hclosed
      exact .matched hname (admits_iff_exists_pattern.1 hadmits).2 hclosed
    | false =>
      rw [hadmits, if_neg Bool.false_ne_true] at hclosed
      exact .dropped hname ((admits_eq_false_iff hname).1 hadmits) hclosed

namespace ClosedForm

variable {opened closed : Record} {b' : BoundValue}

theorem value_eq (h : ClosedForm u opened closed name) (hb : opened.get? name = some b)
    (hb' : closed.get? name = some b') : b = b' := by
  cases h with
  | declared _ hvalue =>
    have hsome : closed.get? name = some b := by rw [hvalue, hb, Option.getD_some]
    exact Option.some.inj (hsome.symm.trans hb')
  | matched _ _ hvalue =>
    have hsome : closed.get? name = some b := hvalue.trans hb
    exact Option.some.inj (hsome.symm.trans hb')
  | dropped _ _ hvalue =>
    rw [hvalue] at hb'
    cases hb'

/-- A field that only the closed record has is declared, and null. -/
theorem closed_only_iff (h : ClosedForm u opened closed name) :
    closed.get? name = some b ∧ opened.get? name = none ↔
      name ∈ u.fieldNames ∧ opened.get? name = none ∧ b = .raw .null := by
  constructor
  · rintro ⟨hb, hnone⟩
    cases h with
    | declared hname hvalue =>
      rw [hvalue, hnone] at hb
      exact ⟨hname, hnone, (Option.some.inj hb).symm⟩
    | matched _ _ hvalue =>
      rw [hvalue, hnone] at hb
      cases hb
    | dropped _ _ hvalue =>
      rw [hvalue] at hb
      cases hb
  · rintro ⟨hname, hnone, rfl⟩
    cases h with
    | declared _ hvalue =>
      refine ⟨?_, hnone⟩
      rw [hvalue, hnone, Option.getD_none]
    | matched hundeclared _ _ => exact absurd hname hundeclared
    | dropped hundeclared _ _ => exact absurd hname hundeclared

/-- A field that only the open record has is neither declared nor matched. -/
theorem open_only_iff (h : ClosedForm u opened closed name) :
    opened.get? name = some b ∧ closed.get? name = none ↔
      name ∉ u.fieldNames ∧ (∀ p ∈ u.patterns, p.1.accepts name = false) ∧
        opened.get? name = some b := by
  constructor
  · rintro ⟨hb, hnone⟩
    cases h with
    | declared _ hvalue =>
      rw [hvalue] at hnone
      cases hnone
    | matched _ _ hvalue =>
      rw [hvalue, hb] at hnone
      cases hnone
    | dropped hname hmatch _ => exact ⟨hname, hmatch, hb⟩
  · rintro ⟨hname, hmatch, hb⟩
    cases h with
    | declared hdeclared _ => exact absurd hdeclared hname
    | matched _ hmatched _ =>
      obtain ⟨p, hp, haccepts⟩ := hmatched
      have hrejects := hmatch p hp
      rw [haccepts] at hrejects
      cases hrejects
    | dropped _ _ hvalue => exact ⟨hb, hvalue⟩

end ClosedForm

/-- How the records differ that an open and a closed type make of one object.  They have the same
values where both have a field; only the closed one has the declared fields that the object lacks,
which are null, and only the open one has the keys of the object that are neither declared nor
matched, whose values are raw. -/
structure DiffersByPolicy (u : RecordType) (ms : List (String × Json)) (opened closed : Record) :
    Prop where
  shared : ∀ name b b', opened.get? name = some b → closed.get? name = some b' → b = b'
  closed_only : ∀ name b, closed.get? name = some b ∧ opened.get? name = none ↔
    name ∈ u.fieldNames ∧ name ∉ keys ms ∧ b = .raw .null
  open_only : ∀ name b, opened.get? name = some b ∧ closed.get? name = none ↔
    name ∉ u.fieldNames ∧ (∀ p ∈ u.patterns, p.1.accepts name = false) ∧
      ∃ v, ms.lookup name = some v ∧ b = .raw v

theorem RecordType.SameDeclarations.differsByPolicy (h : t.SameDeclarations u)
    (ht : t.policy = .open_) (hu : u.policy = .closed) (ms : List (String × Json)) :
    DiffersByPolicy u ms (t.bindMembers ms) (u.bindMembers ms) where
  shared name b b' hb hb' := (closedForm h ht hu ms name).value_eq hb hb'
  closed_only name b := by
    rw [(closedForm h ht hu ms name).closed_only_iff, get?_bindMembers_eq_none_iff ht]
  open_only name b := by
    rw [(closedForm h ht hu ms name).open_only_iff]
    refine and_congr_right fun hname => and_congr_right fun hmatch => ?_
    have hplain : t.shapeFor name = .plain := by
      rw [h.shapeFor_eq, shapeFor_of_unmatched hname hmatch]
    rw [get?_bindMembers_of_open ht, lookup_bindMembers, hplain, Option.map_eq_some_iff]
    simp only [bind_plain, eq_comm]

theorem RecordType.bindMembers_eq_collected (hnames : t.fieldNames.Nodup)
    (hkeys : (keys ms).Nodup) : t.bindMembers ms = ⟨t, t.collected ms⟩ := by
  rw [collected_eq_fields hnames hkeys]
  rfl

/-- **The policy decides which fields a record has, never their values.**  Two types with the same
declarations, one open and the other closed, make records of an object that agree in every field
that both have; what one of them has alone is null and declared, or neither declared nor matched.
Names and keys being distinct, the same is true of the fields as they are collected one by one, for
the open type from the keys of the object, and for the closed one first from the declared names and
then from the keys that match a pattern. -/
theorem differsByPolicy_bindMembers (h : t.SameDeclarations u) (ht : t.policy = .open_)
    (hu : u.policy = .closed) (ms : List (String × Json)) :
    DiffersByPolicy u ms (t.bindMembers ms) (u.bindMembers ms) ∧
    (u.fieldNames.Nodup → (keys ms).Nodup →
      DiffersByPolicy u ms ⟨t, t.collected ms⟩ ⟨u, u.collected ms⟩) := by
  have hdiffers := h.differsByPolicy ht hu ms
  refine ⟨hdiffers, fun hnames hkeys => ?_⟩
  have hnames' : t.fieldNames.Nodup := by
    rwa [RecordType.fieldNames, h.fields]
  rwa [← RecordType.bindMembers_eq_collected hnames' hkeys,
    ← RecordType.bindMembers_eq_collected hnames hkeys]

/-! ## A parcel that is weighed -/

/-- The type of the parcel, as if its schema said that further keys are allowed. -/
def openParcelType : RecordType :=
  { parcelType with additionalExplicit := true }

/-- The parcel lacks its name, and its weight is neither declared nor matched. -/
def weighedParcel : List (String × Json) :=
  [("weight", .number (.integer 2)), ("x-via", .array [.string "Bern"])]

theorem differsByPolicy_parcel :
    openParcelType.SameDeclarations parcelType ∧ openParcelType.policy = .open_ ∧
    parcelType.policy = .closed ∧ parcelType.fieldNames.Nodup ∧ (keys weighedParcel).Nodup ∧
    (openParcelType.bindMembers weighedParcel).get? "name" = none ∧
    (parcelType.bindMembers weighedParcel).get? "name" = some (.raw .null) ∧
    (openParcelType.bindMembers weighedParcel).get? "weight" =
      some (.raw (.number (.integer 2))) ∧
    (parcelType.bindMembers weighedParcel).get? "weight" = none ∧
    (∀ b b', (openParcelType.bindMembers weighedParcel).get? "x-via" = some b →
      (parcelType.bindMembers weighedParcel).get? "x-via" = some b' → b = b') ∧
    DiffersByPolicy parcelType weighedParcel
      ⟨openParcelType, openParcelType.collected weighedParcel⟩
      ⟨parcelType, parcelType.collected weighedParcel⟩ := by
  have hsame : openParcelType.SameDeclarations parcelType := ⟨rfl, rfl⟩
  have hrejects : extension.accepts "weight" = false := by decide +kernel
  have hnames : parcelType.fieldNames.Nodup := by decide
  have hkeys : (keys weighedParcel).Nodup := by decide
  obtain ⟨h, hcollected⟩ := differsByPolicy_bindMembers hsame rfl rfl weighedParcel
  have hname := (h.closed_only "name" (.raw .null)).2 ⟨by decide, by decide, rfl⟩
  have hweight := (h.open_only "weight" (.raw (.number (.integer 2)))).2
    ⟨by decide, by simpa [parcelType] using hrejects, _, rfl, rfl⟩
  exact ⟨hsame, rfl, rfl, hnames, hkeys, hname.2, hname.1, hweight.1, hweight.2,
    h.shared "x-via", hcollected hnames hkeys⟩

end JsonRecords
