import JsonRecords.Record.Binding
import Mathlib.Data.List.Basic

/-!
# The descent through a value

Binding descends through a value and a shape together.  This module opens the descent once:
`useForm` lists what a shape can make of a value, for each of the three forms there is an equation
for `Shape.bind`, and `bind_induction` is induction along the descent.

On the way back a record type chooses the fields of a record.  The bound members are entries in the
order of the object, each bound by the shape of its key (`bindMembers_eq_map`).  An open type takes
all of them; a closed one takes its declared names, with null where there is no member, and then the
entries that it admits (`expose_of_closed`, `declared_bindMembers`, `admitted_bindMembers`).  So
choosing from what was chosen changes nothing (`expose_expose`).
-/

namespace JsonRecords

variable {s i : Shape} {t : RecordType} {v : Json} {ms : List (String × Json)} {vs : List Json}
  {bound : List (String × BoundValue)} {key name : String}

/-! ## What a shape makes of a value -/

/-- The three ways for a shape to treat a value: it leaves the value as it is, it makes a list of an
array, or it makes a record of an object. -/
inductive UseForm (s : Shape) : Json → Prop where
  | plain {v : Json} (h : s.useFor v = .plain) : UseForm s v
  | list {i : Shape} {vs : List Json} (hi : s.items = some i) : UseForm s (.array vs)
  | record {t : RecordType} {ms : List (String × Json)} (ht : s.record = some t) :
      UseForm s (.object ms)

theorem useForm (s : Shape) (v : Json) : UseForm s v := by
  cases v with
  | object ms =>
    cases ht : s.record with
    | none => exact .plain (by rw [Shape.useFor, ht]; rfl)
    | some t => exact .record ht
  | array vs =>
    cases hi : s.items with
    | none => exact .plain (by rw [Shape.useFor, hi]; rfl)
    | some i => exact .list hi
  | _ => exact .plain rfl

theorem useFor_array (hi : s.items = some i) : s.useFor (.array vs) = .list i := by
  rw [Shape.useFor, hi]
  rfl

theorem useFor_object (ht : s.record = some t) : s.useFor (.object ms) = .record t := by
  rw [Shape.useFor, ht]
  rfl

/-- A shape leaves a value as it is if another one that asks for records and lists in the same cases
leaves a value of the same kind as it is. -/
theorem useFor_eq_plain_of_isSome_eq {s' : Shape} {w : Json} (hkind : v.kind = w.kind)
    (hrecord : s.record.isSome = s'.record.isSome) (hitems : s.items.isSome = s'.items.isSome)
    (h : s.useFor v = .plain) : s'.useFor w = .plain := by
  cases useForm s' w with
  | plain h' => exact h'
  | list hi' =>
    rw [hi', Option.isSome_some, Option.isSome_iff_exists] at hitems
    obtain ⟨i, hi⟩ := hitems
    cases v with
    | array vs =>
      rw [useFor_array hi] at h
      cases h
    | _ => cases hkind
  | record ht' =>
    rw [ht', Option.isSome_some, Option.isSome_iff_exists] at hrecord
    obtain ⟨t, ht⟩ := hrecord
    cases v with
    | object ms =>
      rw [useFor_object ht] at h
      cases h
    | _ => cases hkind

theorem useFor_plain (v : Json) : Shape.plain.useFor v = .plain := by
  cases v <;> rfl

/-! ## One level of binding -/

namespace RecordType

/-- The shape of a key; the type leaves values of keys as they are that it says nothing about. -/
def shapeFor (t : RecordType) (key : String) : Shape := (t.shapeOf? key).getD .plain

/-- The entries that a closed record has although their keys are not declared. -/
def admitted {α : Type} (t : RecordType) (entries : List (String × α)) : List (String × α) :=
  entries.filter fun e => t.admits e.1

end RecordType

theorem bind_of_plain (h : s.useFor v = .plain) : s.bind v = .raw v := by
  cases v with
  | object ms =>
    cases ht : s.record with
    | none => rw [Shape.bind, ht]
    | some t =>
      rw [useFor_object ht] at h
      cases h
  | array vs =>
    cases hi : s.items with
    | none => rw [Shape.bind, hi]
    | some i =>
      rw [useFor_array hi] at h
      cases h
  | _ => rfl

theorem bind_plain (v : Json) : Shape.plain.bind v = .raw v :=
  bind_of_plain (useFor_plain v)

theorem bindItems_eq_map (i : Shape) (vs : List Json) : bindItems i vs = vs.map i.bind := by
  induction vs with
  | nil => rfl
  | cons v rest ih => rw [bindItems, ih, List.map_cons]

theorem bindMembers_eq_map (t : RecordType) (ms : List (String × Json)) :
    bindMembers t ms = ms.map fun m => (m.1, (t.shapeFor m.1).bind m.2) := by
  induction ms with
  | nil => rfl
  | cons m rest ih =>
    rw [bindMembers, ih, List.map_cons]
    rfl

theorem bind_array (hi : s.items = some i) : s.bind (.array vs) = .list (vs.map i.bind) := by
  rw [Shape.bind, hi, ← bindItems_eq_map]

theorem bind_object (ht : s.record = some t) :
    s.bind (.object ms) = .record (t.bindMembers ms) := by
  rw [Shape.bind, ht]
  rfl

/-- Raw are the values that the shape leaves as they are. -/
theorem bind_eq_raw_iff {w : Json} : s.bind v = .raw w ↔ s.useFor v = .plain ∧ v = w := by
  constructor
  · intro h
    cases useForm s v with
    | plain hv =>
      rw [bind_of_plain hv] at h
      exact ⟨hv, BoundValue.raw.inj h⟩
    | list hi =>
      rw [bind_array hi] at h
      cases h
    | record ht =>
      rw [bind_object ht] at h
      cases h
  · rintro ⟨hv, rfl⟩
    exact bind_of_plain hv

/-- Lists come from arrays, and their items from the items of the array. -/
theorem bind_eq_list_iff {items : List BoundValue} :
    s.bind v = .list items ↔
      ∃ i vs, s.items = some i ∧ v = .array vs ∧ items = vs.map i.bind := by
  constructor
  · intro h
    cases useForm s v with
    | plain hv =>
      rw [bind_of_plain hv] at h
      cases h
    | @list i vs hi =>
      rw [bind_array hi] at h
      exact ⟨i, vs, hi, rfl, (BoundValue.list.inj h).symm⟩
    | record ht =>
      rw [bind_object ht] at h
      cases h
  · rintro ⟨i, vs, hi, rfl, rfl⟩
    exact bind_array hi

/-- Records come from objects, by the record type of the shape. -/
theorem bind_eq_record_iff {r : Record} :
    s.bind v = .record r ↔
      ∃ t ms, s.record = some t ∧ v = .object ms ∧ r = t.bindMembers ms := by
  constructor
  · intro h
    cases useForm s v with
    | plain hv =>
      rw [bind_of_plain hv] at h
      cases h
    | list hi =>
      rw [bind_array hi] at h
      cases h
    | @record t ms ht =>
      rw [bind_object ht] at h
      exact ⟨t, ms, ht, rfl, (BoundValue.record.inj h).symm⟩
  · rintro ⟨t, ms, ht, rfl, rfl⟩
    exact bind_object ht

/-- Induction along the descent of binding: into the items of arrays that become lists, and into the
members of objects that become records, each with the shape of its key. -/
theorem bind_induction {P : Shape → Json → Prop}
    (plain : ∀ s v, s.useFor v = .plain → P s v)
    (list : ∀ s i vs, s.items = some i → (∀ v ∈ vs, P i v) → P s (.array vs))
    (record : ∀ s t ms, s.record = some t → (∀ m ∈ ms, P (t.shapeFor m.1) m.2) →
      P s (.object ms))
    (s : Shape) (v : Json) : P s v := by
  cases useForm s v with
  | plain h => exact plain s v h
  | @list i vs hi => exact list s i vs hi fun v _ => bind_induction plain list record i v
  | @record t ms ht =>
    exact record s t ms ht fun m _ => bind_induction plain list record (t.shapeFor m.1) m.2
termination_by sizeOf v
decreasing_by
  · rename_i hv
    have := List.sizeOf_lt_of_mem hv
    simp only [Json.array.sizeOf_spec]
    omega
  · rename_i hm
    exact Json.sizeOf_lt_of_mem_members hm

/-! ## Back to JSON -/

theorem toJson_list (items : List BoundValue) :
    (BoundValue.list items).toJson = .array (items.map BoundValue.toJson) := by
  have hitems : toJsonItems items = items.map BoundValue.toJson := by
    induction items with
    | nil => rfl
    | cons b rest ih => rw [toJsonItems, ih, List.map_cons]
  rw [BoundValue.toJson, hitems]

theorem toJson_record (r : Record) :
    r.toJson = .object (r.fields.map fun e => (e.1, e.2.toJson)) := by
  obtain ⟨t, fields⟩ := r
  have hfields : toJsonFields fields = fields.map fun e => (e.1, e.2.toJson) := by
    induction fields with
    | nil => rfl
    | cons e rest ih =>
      rw [toJsonFields, ih, List.map_cons]
  rw [Record.toJson, hfields]

theorem toJson_bindMembers (t : RecordType) (ms : List (String × Json)) :
    (t.bindMembers ms).toJson =
      .object ((t.expose (bindMembers t ms)).map fun e => (e.1, e.2.toJson)) :=
  toJson_record _

/-! ## The shape of a key -/

namespace RecordType

theorem admits_eq_true_iff :
    t.admits key = true ↔ key ∉ t.fieldNames ∧ ∃ p, t.firstMatch? key = some p := by
  simp [admits, isDeclared, Option.isSome_iff_exists]

theorem admits_iff_exists_pattern :
    t.admits key = true ↔ key ∉ t.fieldNames ∧ ∃ p ∈ t.patterns, p.1.accepts key = true := by
  rw [admits_eq_true_iff, ← Option.isSome_iff_exists, firstMatch?, List.find?_isSome]

theorem mem_fieldNames_iff : name ∈ t.fieldNames ↔ ∃ below, t.fieldShape? name = some below := by
  rw [← Option.isSome_iff_exists, fieldShape?, List.lookup_isSome_iff, fieldNames, List.mem_map]
  constructor
  · rintro ⟨e, he, rfl⟩
    exact ⟨e, he, beq_self_eq_true e.1⟩
  · rintro ⟨e, he, hname⟩
    exact ⟨e, he, (eq_of_beq hname).symm⟩

theorem fieldShape?_eq_none (h : key ∉ t.fieldNames) : t.fieldShape? key = none :=
  Association.lookup_eq_none_of_not_mem h

theorem shapeFor_of_fieldShape? (h : t.fieldShape? name = some s) : t.shapeFor name = s := by
  rw [shapeFor, shapeOf?, h]
  rfl

theorem shapeFor_of_firstMatch? {p : Pattern} (h : key ∉ t.fieldNames)
    (hp : t.firstMatch? key = some (p, s)) : t.shapeFor key = s := by
  rw [shapeFor, shapeOf?, fieldShape?_eq_none h, hp]
  rfl

/-- Nothing governs a key that is neither declared nor matched. -/
theorem shapeFor_of_unmatched (h : key ∉ t.fieldNames)
    (hpatterns : ∀ p ∈ t.patterns, p.1.accepts key = false) : t.shapeFor key = .plain := by
  have hmatch : t.firstMatch? key = none := by simpa [firstMatch?] using hpatterns
  rw [shapeFor, shapeOf?, fieldShape?_eq_none h, hmatch]
  rfl

/-- A bound member is found by its key, and the shape is that of the key. -/
theorem lookup_bindMembers (t : RecordType) (ms : List (String × Json)) (key : String) :
    (JsonRecords.bindMembers t ms).lookup key = (ms.lookup key).map (t.shapeFor key).bind := by
  rw [bindMembers_eq_map]
  exact Association.lookup_map_values (fun key v => (t.shapeFor key).bind v) ms key

end RecordType

/-! ## The fields that a type exposes -/

/-- The value of a declared field of an object; that of a missing one is null. -/
def valueAt (ms : List (String × Json)) (name : String) : Json := (ms.lookup name).getD .null

theorem valueAt_of_mem {m : String × Json} (hnodup : (Association.keys ms).Nodup) (hm : m ∈ ms) :
    valueAt ms m.1 = m.2 := by
  rw [valueAt, Association.lookup_eq_some_of_mem hnodup hm, Option.getD_some]

namespace RecordType

theorem mem_admitted {α : Type} {e : String × α} {entries : List (String × α)} :
    e ∈ t.admitted entries ↔ e ∈ entries ∧ t.admits e.1 = true := by
  rw [admitted, List.mem_filter]

theorem admitted_append {α : Type} (entries others : List (String × α)) :
    t.admitted (entries ++ others) = t.admitted entries ++ t.admitted others := by
  rw [admitted, List.filter_append]
  rfl

/-- What a type admits depends on keys alone. -/
theorem admitted_map {α β : Type} (f : String → α → β) (entries : List (String × α)) :
    t.admitted (entries.map fun e => (e.1, f e.1 e.2)) =
      (t.admitted entries).map fun e => (e.1, f e.1 e.2) := by
  rw [admitted, List.filter_map]
  rfl

theorem admitted_eq_nil {α : Type} {entries : List (String × α)}
    (h : ∀ e ∈ entries, e.1 ∈ t.fieldNames) : t.admitted entries = [] := by
  rw [admitted, List.filter_eq_nil_iff]
  intro e he hadmits
  exact (admits_eq_true_iff.1 hadmits).1 (h e he)

theorem admitted_eq_self {α : Type} {entries : List (String × α)}
    (h : ∀ e ∈ entries, t.admits e.1 = true) : t.admitted entries = entries :=
  List.filter_eq_self.2 h

/-- The declared fields of a record, null where there is no entry. -/
def declared (t : RecordType) (bound : List (String × BoundValue)) : List (String × BoundValue) :=
  t.fieldNames.map fun name => (name, (bound.lookup name).getD (.raw .null))

theorem declared_bindMembers (t : RecordType) (ms : List (String × Json)) :
    t.declared (JsonRecords.bindMembers t ms) =
      t.fieldNames.map fun name => (name, (t.shapeFor name).bind (valueAt ms name)) := by
  have hvalue : ∀ name, ((JsonRecords.bindMembers t ms).lookup name).getD (.raw .null) =
      (t.shapeFor name).bind (valueAt ms name) := by
    intro name
    rw [lookup_bindMembers, valueAt]
    cases ms.lookup name <;> rfl
  simp only [declared, hvalue]

theorem admitted_bindMembers (t : RecordType) (ms : List (String × Json)) :
    t.admitted (JsonRecords.bindMembers t ms) =
      (t.admitted ms).map fun m => (m.1, (t.shapeFor m.1).bind m.2) := by
  rw [bindMembers_eq_map]
  exact admitted_map (fun key v => (t.shapeFor key).bind v) ms

theorem expose_of_open (hp : t.policy = .open_) : t.expose bound = bound := by
  rw [expose, hp]

theorem expose_of_closed (hp : t.policy = .closed) :
    t.expose bound = t.declared bound ++ t.admitted bound := by
  rw [expose, hp]
  rfl

/-- An exposed field is a bound member or a declared field without one. -/
theorem mem_expose {e : String × BoundValue} (h : e ∈ t.expose bound) :
    e ∈ bound ∨ e.2 = .raw .null := by
  cases hp : t.policy with
  | open_ =>
    rw [expose_of_open hp] at h
    exact Or.inl h
  | closed =>
    rw [expose_of_closed hp, List.mem_append] at h
    rcases h with h | h
    · obtain ⟨name, -, rfl⟩ := List.mem_map.1 h
      cases hb : bound.lookup name with
      | none => exact Or.inr rfl
      | some b => exact Or.inl (Association.mem_of_lookup_eq_some hb)
    · exact Or.inl (mem_admitted.1 h).1

/-- A choice of fields that was made is not changed by making it again. -/
theorem expose_expose (t : RecordType) (bound : List (String × BoundValue)) :
    t.expose (t.expose bound) = t.expose bound := by
  cases hp : t.policy with
  | open_ => rw [expose_of_open hp, expose_of_open hp]
  | closed =>
    have hdeclared : t.declared (t.declared bound ++ t.admitted bound) = t.declared bound := by
      refine List.map_congr_left fun name hname => ?_
      have hfound : (t.declared bound).lookup name = some ((bound.lookup name).getD (.raw .null)) :=
        List.lookup_graph _ hname
      rw [List.lookup_append, hfound]
      rfl
    have hadmitted : t.admitted (t.declared bound ++ t.admitted bound) = t.admitted bound := by
      have hnone : t.admitted (t.declared bound) = [] := by
        refine admitted_eq_nil fun e he => ?_
        obtain ⟨name, hname, rfl⟩ := List.mem_map.1 he
        exact hname
      have hall : t.admitted (t.admitted bound) = t.admitted bound :=
        admitted_eq_self fun e he => (mem_admitted.1 he).2
      rw [admitted_append, hnone, hall, List.nil_append]
    rw [expose_of_closed hp, expose_of_closed hp, hdeclared, hadmitted]

end RecordType

end JsonRecords
