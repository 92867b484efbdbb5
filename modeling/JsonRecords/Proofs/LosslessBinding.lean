import JsonRecords.Proofs.BindingDescent

/-!
# What binding keeps

Written back as JSON, a bound value may differ from the value that was bound: a closed record drops
keys, adds declared fields that were missing, and moves declared fields to the front.  It can do so
only at objects that binding visits with a closed type (`Visits`), and it does nothing of the kind
to one exactly if the keys of the object are the declared fields in their order and, after them,
keys that the type admits (`RecordType.KeysInOrder`).

So a value comes back as it was if and only if that holds of all the visited objects
(`toJson_bind_eq_self`), and a shape without closed types gives back whatever it binds.  One object
is treated in `toJson_bindMembers_eq_self_iff`; the descent puts the objects together.
-/

namespace JsonRecords

variable {s i below : Shape} {t u : RecordType} {v : Json} {ms ns : List (String × Json)}
  {vs : List Json} {key : String}

/-! ## The objects that binding visits -/

/-- Binding a value to a shape comes to the object with the members `ms` and makes it a record of
the type `t`.  It goes into the members that the types of the records have a shape for and into the
items of lists, and neither into values that stay raw nor into members that are dropped. -/
inductive Visits (t : RecordType) (ms : List (String × Json)) : Shape → Json → Prop where
  | here {s : Shape} (ht : s.record = some t) : Visits t ms s (.object ms)
  | member {s below : Shape} {u : RecordType} {ns : List (String × Json)} {m : String × Json}
      (hu : s.record = some u) (hm : m ∈ ns) (hbelow : u.shapeOf? m.1 = some below)
      (h : Visits t ms below m.2) : Visits t ms s (.object ns)
  | item {s i : Shape} {vs : List Json} {v : Json} (hi : s.items = some i) (hv : v ∈ vs)
      (h : Visits t ms i v) : Visits t ms s (.array vs)

theorem not_visits_of_plain (h : s.useFor v = .plain) : ¬ Visits t ms s v := by
  intro hvisits
  cases hvisits with
  | here ht =>
    rw [useFor_object ht] at h
    cases h
  | member hu _ _ _ =>
    rw [useFor_object hu] at h
    cases h
  | item hi _ _ =>
    rw [useFor_array hi] at h
    cases h

/-- Something holds of all objects visited in an array if it holds of those visited in its items. -/
theorem forall_visits_array {P : RecordType → List (String × Json) → Prop}
    (hi : s.items = some i) :
    (∀ t ms, Visits t ms s (.array vs) → P t ms) ↔
      ∀ v ∈ vs, ∀ t ms, Visits t ms i v → P t ms := by
  constructor
  · intro h v hv t ms hvisits
    exact h t ms (.item hi hv hvisits)
  · intro h t ms hvisits
    cases hvisits with
    | item hi' hv hvisits =>
      obtain rfl := Option.some.inj (hi.symm.trans hi')
      exact h _ hv t ms hvisits

/-- Something holds of all objects visited in an object if it holds of this object and of those
visited in its members. -/
theorem forall_visits_object {P : RecordType → List (String × Json) → Prop}
    (hu : s.record = some u) :
    (∀ t ms, Visits t ms s (.object ns) → P t ms) ↔
      P u ns ∧ ∀ m ∈ ns, ∀ t ms, Visits t ms (u.shapeFor m.1) m.2 → P t ms := by
  constructor
  · intro h
    refine ⟨h u ns (.here hu), fun m hm t ms hvisits => ?_⟩
    cases hbelow : u.shapeOf? m.1 with
    | none =>
      rw [RecordType.shapeFor, hbelow] at hvisits
      exact absurd hvisits (not_visits_of_plain (useFor_plain m.2))
    | some below =>
      rw [RecordType.shapeFor, hbelow] at hvisits
      exact h t ms (.member hu hm hbelow hvisits)
  · rintro ⟨hhere, hbelow⟩ t ms hvisits
    cases hvisits with
    | here hu' =>
      obtain rfl := Option.some.inj (hu.symm.trans hu')
      exact hhere
    | member hu' hm hshape hvisits =>
      obtain rfl := Option.some.inj (hu.symm.trans hu')
      refine hbelow _ hm t ms ?_
      rw [RecordType.shapeFor, hshape]
      exact hvisits

theorem Visits.nodup_keys (h : Visits t ms s v) (hv : v.WellFormed) :
    (Association.keys ms).Nodup := by
  induction h with
  | here _ =>
    cases hv with
    | object distinct _ => exact distinct
  | member _ hm _ _ ih =>
    cases hv with
    | object _ each => exact ih (each _ hm)
  | item _ hv' _ ih =>
    cases hv with
    | array each => exact ih (each _ hv')

/-- The record types of a shape, at any depth. -/
inductive Reaches (t : RecordType) : Shape → Prop where
  | here {s : Shape} (ht : s.record = some t) : Reaches t s
  | field {s : Shape} {u : RecordType} {e : String × Shape} (hu : s.record = some u)
      (he : e ∈ u.fields) (h : Reaches t e.2) : Reaches t s
  | pattern {s : Shape} {u : RecordType} {e : Pattern × Shape} (hu : s.record = some u)
      (he : e ∈ u.patterns) (h : Reaches t e.2) : Reaches t s
  | items {s i : Shape} (hi : s.items = some i) (h : Reaches t i) : Reaches t s

/-- What the shape of a key reaches, the type reaches. -/
theorem reaches_of_shapeOf? (hu : s.record = some u) (hbelow : u.shapeOf? key = some below)
    (h : Reaches t below) : Reaches t s := by
  rw [RecordType.shapeOf?, Option.or_eq_some_iff] at hbelow
  rcases hbelow with hfield | ⟨-, hmatch⟩
  · exact .field hu (Association.mem_of_lookup_eq_some hfield) h
  · obtain ⟨e, he, rfl⟩ := Option.map_eq_some_iff.1 hmatch
    exact .pattern hu (List.mem_of_find?_eq_some he) h

theorem Visits.reaches (h : Visits t ms s v) : Reaches t s := by
  induction h with
  | here ht => exact .here ht
  | member hu _ hbelow _ ih => exact reaches_of_shapeOf? hu hbelow ih
  | item hi _ _ ih => exact .items hi ih

/-! ## One object -/

namespace RecordType

/-- Keys as a closed record lists them: the declared fields in their order, and after them keys that
are not declared and match a pattern. -/
def KeysInOrder (t : RecordType) (keys : List String) : Prop :=
  ∃ further, keys = t.fieldNames ++ further ∧
    ∀ key ∈ further, key ∉ t.fieldNames ∧ ∃ p ∈ t.patterns, p.1.accepts key = true

/-- What becomes of the value of a key when it is bound and written back. -/
def echo (t : RecordType) (key : String) (v : Json) : Json := ((t.shapeFor key).bind v).toJson

theorem toJson_bindMembers_of_open (hp : t.policy = .open_) :
    (t.bindMembers ms).toJson = .object (ms.map fun m => (m.1, t.echo m.1 m.2)) := by
  rw [toJson_bindMembers, expose_of_open hp, bindMembers_eq_map, List.map_map]
  rfl

theorem toJson_bindMembers_of_closed (hp : t.policy = .closed) :
    (t.bindMembers ms).toJson = .object
      ((t.fieldNames.map fun name => (name, t.echo name (valueAt ms name))) ++
        (t.admitted ms).map fun m => (m.1, t.echo m.1 m.2)) := by
  rw [toJson_bindMembers, expose_of_closed hp, declared_bindMembers, admitted_bindMembers,
    List.map_append, List.map_map, List.map_map]
  rfl

/-- A closed record written back has the keys in order. -/
theorem keysInOrder_of_toJson (hp : t.policy = .closed)
    (h : (t.bindMembers ms).toJson = .object ms) : t.KeysInOrder (Association.keys ms) := by
  rw [toJson_bindMembers_of_closed hp, Json.object.injEq] at h
  refine ⟨Association.keys (t.admitted ms), ?_, fun key hkey => ?_⟩
  · have hkeys := congrArg Association.keys h
    simp only [Association.keys, List.map_append, List.map_map, Function.comp_def,
      List.map_id'] at hkeys
    exact hkeys.symm
  · obtain ⟨m, hm, rfl⟩ := List.mem_map.1 hkey
    exact admits_iff_exists_pattern.1 (mem_admitted.1 hm).2

/-- Where a closed record comes back as the object, the values of the object do. -/
theorem echo_eq_of_toJson (hp : t.policy = .closed) (hnodup : (Association.keys ms).Nodup)
    (h : (t.bindMembers ms).toJson = .object ms) : ∀ m ∈ ms, t.echo m.1 m.2 = m.2 := by
  rw [toJson_bindMembers_of_closed hp, Json.object.injEq] at h
  intro m hm
  have hvalue : t.echo m.1 (valueAt ms m.1) = m.2 := by
    have hwritten := hm
    rw [← h, List.mem_append] at hwritten
    rcases hwritten with hdeclared | hadmitted
    · obtain ⟨name, -, rfl⟩ := List.mem_map.1 hdeclared
      rfl
    · obtain ⟨m', hm', rfl⟩ := List.mem_map.1 hadmitted
      rw [valueAt_of_mem hnodup (mem_admitted.1 hm').1]
  rwa [valueAt_of_mem hnodup hm] at hvalue

/-- A closed record comes back as the object if the keys are in order and the values come back. -/
theorem toJson_eq_of_keysInOrder (hp : t.policy = .closed) (hnodup : (Association.keys ms).Nodup)
    (hkeys : t.KeysInOrder (Association.keys ms)) (hvalues : ∀ m ∈ ms, t.echo m.1 m.2 = m.2) :
    (t.bindMembers ms).toJson = .object ms := by
  obtain ⟨further, hkeys, hfurther⟩ := hkeys
  obtain ⟨first, rest, hms, hfirst, hrest⟩ := List.map_eq_append_iff.1 hkeys
  have hdeclared :
      (t.fieldNames.map fun name => (name, t.echo name (valueAt ms name))) = first := by
    rw [← hfirst, List.map_map]
    refine (List.map_congr_left fun m hm => ?_).trans (List.map_id first)
    have hmem : m ∈ ms := hms ▸ List.mem_append_left rest hm
    rw [Function.comp_apply, valueAt_of_mem hnodup hmem, hvalues m hmem]
    rfl
  have hadmitted : t.admitted ms = rest := by
    have hnone : t.admitted first = [] := by
      refine admitted_eq_nil fun m hm => ?_
      rw [← hfirst]
      exact List.mem_map_of_mem hm
    have hall : t.admitted rest = rest := by
      refine admitted_eq_self fun m hm => ?_
      have hkey : m.1 ∈ further := hrest ▸ List.mem_map_of_mem hm
      exact admits_iff_exists_pattern.2 (hfurther m.1 hkey)
    rw [hms, admitted_append, hnone, hall, List.nil_append]
  have hechoed : (rest.map fun m => (m.1, t.echo m.1 m.2)) = rest := by
    refine Association.map_values_eq_self_iff.2 fun m hm => ?_
    exact hvalues m (hms ▸ List.mem_append_right first hm)
  rw [toJson_bindMembers_of_closed hp, hdeclared, hadmitted, hechoed, ← hms]

/-- A record comes back as the object it was bound from if the values do and, if the type is closed,
the keys are in order. -/
theorem toJson_bindMembers_eq_self_iff
    (hnodup : t.policy = .closed → (Association.keys ms).Nodup) :
    (t.bindMembers ms).toJson = .object ms ↔
      (t.policy = .closed → t.KeysInOrder (Association.keys ms)) ∧
        ∀ m ∈ ms, t.echo m.1 m.2 = m.2 := by
  cases hp : t.policy with
  | open_ =>
    rw [toJson_bindMembers_of_open hp, Json.object.injEq, Association.map_values_eq_self_iff]
    exact ⟨fun h => ⟨nofun, h⟩, fun h => h.2⟩
  | closed =>
    have hnodup := hnodup hp
    constructor
    · intro h
      exact ⟨fun _ => keysInOrder_of_toJson hp h, echo_eq_of_toJson hp hnodup h⟩
    · rintro ⟨hkeys, hvalues⟩
      exact toJson_eq_of_keysInOrder hp hnodup (hkeys rfl) hvalues

end RecordType

/-! ## Whole values -/

/-- A value comes back as it was if the keys are in order wherever binding visits an object with a
closed type.  Only in such objects the keys have to be distinct. -/
theorem toJson_bind_eq_self_iff
    (hnodup : ∀ t ms, Visits t ms s v → t.policy = .closed → (Association.keys ms).Nodup) :
    (s.bind v).toJson = v ↔
      ∀ t ms, Visits t ms s v → t.policy = .closed → t.KeysInOrder (Association.keys ms) := by
  induction s, v using bind_induction with
  | plain s v h =>
    rw [bind_of_plain h]
    exact ⟨fun _ t ms hvisits => absurd hvisits (not_visits_of_plain h), fun _ => rfl⟩
  | list s i vs hi each =>
    rw [forall_visits_array hi] at hnodup
    have hitems : (vs.map i.bind).map BoundValue.toJson = vs ↔ ∀ v ∈ vs, (i.bind v).toJson = v := by
      have hid := List.map_eq_map_iff (f := BoundValue.toJson ∘ i.bind) (g := id) (l := vs)
      rwa [List.map_id, ← List.map_map] at hid
    rw [bind_array hi, toJson_list, Json.array.injEq, hitems, forall_visits_array hi]
    exact forall₂_congr fun v hv => each v hv (hnodup v hv)
  | record s t ms ht each =>
    obtain ⟨hhere, hbelow⟩ := (forall_visits_object ht).1 hnodup
    rw [bind_object ht, BoundValue.toJson, RecordType.toJson_bindMembers_eq_self_iff hhere,
      forall_visits_object ht]
    exact and_congr_right fun _ => forall₂_congr fun m hm => each m hm (hbelow m hm)

/-- **Binding loses or invents something only at closed records.**  A value in which no object has a
key twice comes back as it was bound, with the keys of all objects in the same order, if and only if
every object that binding visits with a closed type has the declared fields in their order as its
keys and after them undeclared keys that match a pattern each.  So a shape all of whose record types
are open gives back every value. -/
theorem toJson_bind_eq_self :
    (∀ (s : Shape) (v : Json), v.WellFormed →
      ((s.bind v).toJson = v ↔
        ∀ t ms, Visits t ms s v → t.policy = .closed → t.KeysInOrder (Association.keys ms))) ∧
    (∀ s : Shape, (∀ t, Reaches t s → t.policy = .open_) → ∀ v, (s.bind v).toJson = v) := by
  refine ⟨fun s v hv => ?_, fun s hopen v => ?_⟩
  · exact toJson_bind_eq_self_iff fun t ms hvisits _ => hvisits.nodup_keys hv
  · have hno : ∀ t ms, Visits t ms s v → t.policy ≠ .closed := by
      intro t ms hvisits hclosed
      rw [hopen t hvisits.reaches] at hclosed
      cases hclosed
    exact (toJson_bind_eq_self_iff fun t ms hvisits hclosed => absurd hclosed (hno t ms hvisits)).2
      fun t ms hvisits hclosed => absurd hclosed (hno t ms hvisits)

/-! ## A card that comes back -/

/-- Keys that begin with `x-`. -/
def extension : Pattern := (Pattern.ofText? "^x-").get (by decide +kernel)

def placeType : RecordType := ⟨false, true, [("city", .plain)], []⟩

/-- Both this type and that of the place in it are closed. -/
def cardType : RecordType :=
  ⟨true, false, [("name", .plain), ("home", ⟨some placeType, none⟩)], [(extension, .plain)]⟩

def card : Json :=
  .object [("name", .string "Ada"), ("home", .object [("city", .string "Paris")]),
    ("x-note", .object [("z", .null), ("a", .null)])]

/-- A box says nothing about keys other than that of its lid. -/
def openBox : Shape := ⟨some ⟨true, false, [("lid", ⟨none, some .plain⟩)], []⟩, none⟩

theorem wellFormed_card : card.WellFormed := by
  have hplace : (Json.object [("city", .string "Paris")]).WellFormed :=
    .object (by decide) (by simp [Json.WellFormed.string])
  have hnote : (Json.object [("z", .null), ("a", .null)]).WellFormed :=
    .object (by decide) (by simp [Json.WellFormed.null])
  exact .object (by decide) (by simp [Json.WellFormed.string, hplace, hnote])

theorem open_of_reaches_openBox (h : Reaches t openBox) : t.policy = .open_ := by
  have hnone : ∀ u, ¬ Reaches u .plain := by
    intro u hu
    cases hu with
    | here ht => cases ht
    | field ht _ _ => cases ht
    | pattern ht _ _ => cases ht
    | items hi _ => cases hi
  cases h with
  | here ht =>
    cases ht
    rfl
  | field ht he h =>
    cases ht
    obtain rfl := List.mem_singleton.1 he
    cases h with
    | here ht => cases ht
    | field ht _ _ => cases ht
    | pattern ht _ _ => cases ht
    | items hi h =>
      cases hi
      exact absurd h (hnone t)
  | pattern ht he _ =>
    cases ht
    cases he
  | items hi _ => cases hi

/-- The card comes back, so its keys are in order, and a box gives back everything. -/
theorem toJson_bind_card :
    card.WellFormed ∧ ((⟨some cardType, none⟩ : Shape).bind card).toJson = card ∧
    (∀ t ms, Visits t ms ⟨some cardType, none⟩ card → t.policy = .closed →
      t.KeysInOrder (Association.keys ms)) ∧
    (∀ t, Reaches t openBox → t.policy = .open_) ∧
    ∀ v, (openBox.bind v).toJson = v := by
  have hcard : ((⟨some cardType, none⟩ : Shape).bind card).toJson = card := by rfl
  have hopen : ∀ t, Reaches t openBox → t.policy = .open_ := fun t => open_of_reaches_openBox
  obtain ⟨hiff, hall⟩ := toJson_bind_eq_self
  exact ⟨wellFormed_card, hcard, (hiff _ card wellFormed_card).1 hcard, hopen, hall openBox hopen⟩

end JsonRecords
