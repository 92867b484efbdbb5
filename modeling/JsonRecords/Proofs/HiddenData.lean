import JsonRecords.Proofs.LosslessBinding
import JsonRecords.Record.Lookup
import Mathlib.Data.List.Forall2
import Mathlib.Logic.Relation

/-!
# What binding hides

Records are all that a reader of a bound value gets to see, so what binding drops should have no
influence on them, and nothing that it does not drop should be lost.  `SeenAlike` says, for a shape,
which values must not be told apart: it is the recursion of binding with two values at a time, and
closed records look only at the values of declared fields, a missing one being null, and at the
undeclared members that match a pattern.

Binding tells apart exactly the values that are not seen alike (`bind_eq_bind_iff`).  In particular
it is blind to every `HiddenChange`: to members that a closed record drops, to the places of
declared fields in it, and to null in place of a missing declared field, at whatever depth.
-/

namespace JsonRecords

open Relation

variable {s i : Shape} {t : RecordType} {v w : Json} {vs ws : List Json} {key name : String}
  {ms ns before after before' after' : List (String × Json)}
  {bound bound' : List (String × BoundValue)}

/-! ## Values that look the same -/

/-- Two values that nothing tells apart once they are bound to the shape.

* A value that the shape leaves as it is looks like itself only.
* Arrays that become lists look alike if they have the same length and their items look alike.
* Objects that become open records look alike if they have the same keys in the same order and
  the values of each key look alike.
* Objects that become closed records look alike if the values of each declared field look alike, and
  the undeclared members that match a pattern have the same keys in the same order and values that
  look alike to the first pattern that is matched. -/
inductive SeenAlike : Shape → Json → Json → Prop where
  | plain {s : Shape} {v : Json} (h : s.useFor v = .plain) : SeenAlike s v v
  | list {s i : Shape} {vs ws : List Json} (hi : s.items = some i)
      (hlength : vs.length = ws.length) (items : ∀ p ∈ vs.zip ws, SeenAlike i p.1 p.2) :
      SeenAlike s (.array vs) (.array ws)
  | openRecord {s : Shape} {t : RecordType} {ms ns : List (String × Json)}
      (ht : s.record = some t) (hp : t.policy = .open_)
      (hkeys : Association.keys ms = Association.keys ns)
      (values : ∀ p ∈ ms.zip ns, SeenAlike (t.shapeFor p.1.1) p.1.2 p.2.2) :
      SeenAlike s (.object ms) (.object ns)
  | closedRecord {s : Shape} {t : RecordType} {ms ns : List (String × Json)}
      (ht : s.record = some t) (hp : t.policy = .closed)
      (declared : ∀ name below, t.fieldShape? name = some below →
        SeenAlike below (valueAt ms name) (valueAt ns name))
      (hkeys : Association.keys (t.admitted ms) = Association.keys (t.admitted ns))
      (matched : ∀ p ∈ (t.admitted ms).zip (t.admitted ns), ∀ pattern below,
        t.firstMatch? p.1.1 = some (pattern, below) → SeenAlike below p.1.2 p.2.2) :
      SeenAlike s (.object ms) (.object ns)

/-! ## Equal lists and equal records -/

theorem map_bind_eq_iff :
    vs.map i.bind = ws.map i.bind ↔
      vs.length = ws.length ∧ ∀ p ∈ vs.zip ws, i.bind p.1 = i.bind p.2 := by
  rw [← List.forall₂_eq_eq_eq, List.forall₂_map_left_iff, List.forall₂_map_right_iff,
    List.forall₂_iff_zip, Prod.forall]

namespace RecordType

theorem bindMembers_eq_iff :
    t.bindMembers ms = t.bindMembers ns ↔
      t.expose (JsonRecords.bindMembers t ms) = t.expose (JsonRecords.bindMembers t ns) := by
  rw [bindMembers, bindMembers, Record.mk.injEq]
  exact and_iff_right rfl

theorem bindMembers_eq_iff_of_open (hp : t.policy = .open_) :
    t.bindMembers ms = t.bindMembers ns ↔
      Association.keys ms = Association.keys ns ∧
        ∀ p ∈ ms.zip ns, (t.shapeFor p.1.1).bind p.1.2 = (t.shapeFor p.1.1).bind p.2.2 := by
  rw [bindMembers_eq_iff, expose_of_open hp, expose_of_open hp, bindMembers_eq_map,
    bindMembers_eq_map]
  exact Association.map_values_eq_iff (f := fun key v => (t.shapeFor key).bind v)

theorem expose_eq_iff_of_closed (hp : t.policy = .closed) :
    t.expose bound = t.expose bound' ↔ t.declared bound = t.declared bound' ∧
      t.admitted bound = t.admitted bound' := by
  rw [expose_of_closed hp, expose_of_closed hp]
  constructor
  · intro h
    exact List.append_inj h (by simp only [declared, List.length_map])
  · rintro ⟨hdeclared, hadmitted⟩
    rw [hdeclared, hadmitted]

theorem declared_bindMembers_eq_iff :
    t.declared (JsonRecords.bindMembers t ms) = t.declared (JsonRecords.bindMembers t ns) ↔
      ∀ name below, t.fieldShape? name = some below →
        below.bind (valueAt ms name) = below.bind (valueAt ns name) := by
  simp only [declared_bindMembers, List.map_eq_map_iff, Prod.mk.injEq, true_and]
  constructor
  · intro h name below hbelow
    have hname := h name (mem_fieldNames_iff.2 ⟨below, hbelow⟩)
    rwa [shapeFor_of_fieldShape? hbelow] at hname
  · intro h name hname
    obtain ⟨below, hbelow⟩ := mem_fieldNames_iff.1 hname
    rw [shapeFor_of_fieldShape? hbelow]
    exact h name below hbelow

theorem admitted_bindMembers_eq_iff :
    t.admitted (JsonRecords.bindMembers t ms) = t.admitted (JsonRecords.bindMembers t ns) ↔
      Association.keys (t.admitted ms) = Association.keys (t.admitted ns) ∧
        ∀ p ∈ (t.admitted ms).zip (t.admitted ns), ∀ pattern below,
          t.firstMatch? p.1.1 = some (pattern, below) → below.bind p.1.2 = below.bind p.2.2 := by
  rw [admitted_bindMembers, admitted_bindMembers,
    Association.map_values_eq_iff (f := fun key v => (t.shapeFor key).bind v)]
  refine and_congr_right fun _ => forall₂_congr fun p hp => ?_
  have hadmits := (mem_admitted.1 (List.of_mem_zip hp).1).2
  obtain ⟨hundeclared, ⟨pattern, below⟩, hmatch⟩ := admits_eq_true_iff.1 hadmits
  rw [shapeFor_of_firstMatch? hundeclared hmatch, hmatch]
  constructor
  · intro h pattern' below' hsame
    cases hsame
    exact h
  · intro h
    exact h pattern below rfl

theorem bindMembers_eq_iff_of_closed (hp : t.policy = .closed) :
    t.bindMembers ms = t.bindMembers ns ↔
      (∀ name below, t.fieldShape? name = some below →
        below.bind (valueAt ms name) = below.bind (valueAt ns name)) ∧
      Association.keys (t.admitted ms) = Association.keys (t.admitted ns) ∧
        ∀ p ∈ (t.admitted ms).zip (t.admitted ns), ∀ pattern below,
          t.firstMatch? p.1.1 = some (pattern, below) → below.bind p.1.2 = below.bind p.2.2 := by
  rw [bindMembers_eq_iff, expose_eq_iff_of_closed hp, declared_bindMembers_eq_iff,
    admitted_bindMembers_eq_iff]

end RecordType

/-! ## Binding sees exactly what is not alike -/

theorem bind_eq_of_seenAlike (h : SeenAlike s v w) : s.bind v = s.bind w := by
  induction h with
  | plain _ => rfl
  | list hi hlength _ ih =>
    rw [bind_array hi, bind_array hi, map_bind_eq_iff.2 ⟨hlength, ih⟩]
  | openRecord ht hp hkeys _ ih =>
    rw [bind_object ht, bind_object ht, (RecordType.bindMembers_eq_iff_of_open hp).2 ⟨hkeys, ih⟩]
  | closedRecord ht hp _ hkeys _ ihDeclared ihMatched =>
    rw [bind_object ht, bind_object ht,
      (RecordType.bindMembers_eq_iff_of_closed hp).2 ⟨ihDeclared, hkeys, ihMatched⟩]

/-- A value that the shape leaves as it is looks like no other value. -/
theorem seenAlike_of_plain (hv : s.useFor v = .plain) (h : s.bind v = s.bind w) :
    SeenAlike s v w := by
  rw [bind_of_plain hv] at h
  obtain ⟨-, rfl⟩ := bind_eq_raw_iff.1 h.symm
  exact .plain hv

/-- The values of a declared field look alike if the members do.  A missing field is no member, but
its value is null, which looks like nothing else. -/
theorem seenAlike_valueAt {below : Shape}
    (each : ∀ m ∈ ms, m.1 = name → below.bind m.2 = below.bind w → SeenAlike below m.2 w)
    (h : below.bind (valueAt ms name) = below.bind w) : SeenAlike below (valueAt ms name) w := by
  unfold valueAt at h ⊢
  cases hfound : ms.lookup name with
  | none =>
    rw [hfound] at h
    exact seenAlike_of_plain rfl h
  | some v =>
    rw [hfound] at h
    exact each (name, v) (Association.mem_of_lookup_eq_some hfound) rfl h

/-- Objects that become the same record look alike if their members do. -/
theorem seenAlike_of_bindMembers_eq (ht : s.record = some t)
    (each : ∀ m ∈ ms, ∀ w, (t.shapeFor m.1).bind m.2 = (t.shapeFor m.1).bind w →
      SeenAlike (t.shapeFor m.1) m.2 w)
    (h : t.bindMembers ms = t.bindMembers ns) : SeenAlike s (.object ms) (.object ns) := by
  cases hp : t.policy with
  | open_ =>
    obtain ⟨hkeys, hvalues⟩ := (RecordType.bindMembers_eq_iff_of_open hp).1 h
    refine .openRecord ht hp hkeys fun p hpair => ?_
    exact each p.1 (List.of_mem_zip hpair).1 p.2.2 (hvalues p hpair)
  | closed =>
    obtain ⟨hdeclared, hkeys, hmatched⟩ := (RecordType.bindMembers_eq_iff_of_closed hp).1 h
    refine .closedRecord ht hp (fun name below hbelow => ?_) hkeys ?_
    · have hshape := RecordType.shapeFor_of_fieldShape? hbelow
      refine seenAlike_valueAt (fun m hm hname hsame => ?_) (hdeclared name below hbelow)
      subst hname
      rw [← hshape] at hsame ⊢
      exact each m hm _ hsame
    · intro p hpair pattern below hmatch
      obtain ⟨hm, hadmits⟩ := RecordType.mem_admitted.1 (List.of_mem_zip hpair).1
      have hundeclared := (RecordType.admits_eq_true_iff.1 hadmits).1
      have hshape := RecordType.shapeFor_of_firstMatch? hundeclared hmatch
      have hsame := hmatched p hpair pattern below hmatch
      rw [← hshape] at hsame ⊢
      exact each p.1 hm p.2.2 hsame

theorem seenAlike_of_bind_eq (h : s.bind v = s.bind w) : SeenAlike s v w := by
  induction s, v using bind_induction generalizing w with
  | plain s v hv => exact seenAlike_of_plain hv h
  | list s i vs hi each =>
    rw [bind_array hi] at h
    obtain ⟨i', ws, hi', rfl, hitems⟩ := bind_eq_list_iff.1 h.symm
    obtain rfl := Option.some.inj (hi.symm.trans hi')
    obtain ⟨hlength, hitems⟩ := map_bind_eq_iff.1 hitems
    exact .list hi hlength fun p hpair => each p.1 (List.of_mem_zip hpair).1 (hitems p hpair)
  | record s t ms ht each =>
    rw [bind_object ht] at h
    obtain ⟨t', ns, ht', rfl, hrecords⟩ := bind_eq_record_iff.1 h.symm
    obtain rfl := Option.some.inj (ht.symm.trans ht')
    exact seenAlike_of_bindMembers_eq ht (fun m hm w hsame => each m hm hsame) hrecords

/-! ## Changes that nobody sees -/

/-- A change to one place of a value that binding to the shape hides.

* A closed record drops a member that is not declared and matches no pattern.
* A declared field of a closed record may stand anywhere in the object.
* A declared field of a closed record that is null may be missing.
* The value of a member may change in a way that is hidden by the shape of its key, and an item of
  an array in a way that is hidden by the shape of the items. -/
inductive HiddenChange : Shape → Json → Json → Prop where
  | dropped {s : Shape} {t : RecordType} {before after : List (String × Json)} {key : String}
      {v : Json} (ht : s.record = some t) (hp : t.policy = .closed) (hkey : key ∉ t.fieldNames)
      (hpatterns : ∀ p ∈ t.patterns, p.1.accepts key = false) :
      HiddenChange s (.object (before ++ (key, v) :: after)) (.object (before ++ after))
  | moved {s : Shape} {t : RecordType} {before after before' after' : List (String × Json)}
      {key : String} {v : Json} (ht : s.record = some t) (hp : t.policy = .closed)
      (hkey : key ∈ t.fieldNames) (hrest : before ++ after = before' ++ after')
      (honce : key ∉ Association.keys (before ++ after)) :
      HiddenChange s (.object (before ++ (key, v) :: after))
        (.object (before' ++ (key, v) :: after'))
  | missing {s : Shape} {t : RecordType} {before after : List (String × Json)} {key : String}
      (ht : s.record = some t) (hp : t.policy = .closed) (hkey : key ∈ t.fieldNames)
      (honce : key ∉ Association.keys (before ++ after)) :
      HiddenChange s (.object (before ++ (key, .null) :: after)) (.object (before ++ after))
  | member {s : Shape} {t : RecordType} {before after : List (String × Json)} {key : String}
      {v w : Json} (ht : s.record = some t) (h : HiddenChange (t.shapeFor key) v w) :
      HiddenChange s (.object (before ++ (key, v) :: after)) (.object (before ++ (key, w) :: after))
  | item {s i : Shape} {before after : List Json} {v w : Json} (hi : s.items = some i)
      (h : HiddenChange i v w) :
      HiddenChange s (.array (before ++ v :: after)) (.array (before ++ w :: after))

/-- A closed record depends on the values of declared fields and on the admitted members alone. -/
theorem RecordType.bindMembers_congr_of_closed (hp : t.policy = .closed)
    (hvalues : ∀ name ∈ t.fieldNames, valueAt ms name = valueAt ns name)
    (hadmitted : t.admitted ms = t.admitted ns) : t.bindMembers ms = t.bindMembers ns := by
  have hdeclared : t.declared (JsonRecords.bindMembers t ms) =
      t.declared (JsonRecords.bindMembers t ns) := by
    rw [declared_bindMembers, declared_bindMembers]
    exact List.map_congr_left fun name hname => by rw [hvalues name hname]
  have hrest : t.admitted (JsonRecords.bindMembers t ms) =
      t.admitted (JsonRecords.bindMembers t ns) := by
    rw [admitted_bindMembers, admitted_bindMembers, hadmitted]
  exact bindMembers_eq_iff.2 ((expose_eq_iff_of_closed hp).2 ⟨hdeclared, hrest⟩)

/-- A member does not matter to the values of other keys. -/
theorem valueAt_append_cons_of_ne (h : name ≠ key) :
    valueAt (before ++ (key, v) :: after) name = valueAt (before ++ after) name := by
  have hne : (name == key) = false := beq_eq_false_iff_ne.2 h
  simp only [valueAt, List.lookup_append, List.lookup_cons, hne]

/-- A member whose key occurs once is found wherever it stands. -/
theorem valueAt_append_cons_self (h : key ∉ Association.keys (before ++ after)) :
    valueAt (before ++ (key, v) :: after) key = v := by
  have hbefore : before.lookup key = none := by
    refine Association.lookup_eq_none_of_not_mem fun hmem => h ?_
    rw [Association.keys, List.map_append]
    exact List.mem_append_left _ hmem
  simp only [valueAt, List.lookup_append, hbefore, List.lookup_cons_self, Option.none_or,
    Option.getD_some]

namespace RecordType

theorem admits_eq_false_of_mem (h : key ∈ t.fieldNames) : t.admits key = false := by
  rw [← Bool.not_eq_true, admits_eq_true_iff]
  exact fun hadmits => hadmits.1 h

theorem admitted_append_cons_of_not_admits (h : t.admits key = false) :
    t.admitted (before ++ (key, v) :: after) = t.admitted (before ++ after) := by
  have hnone : t.admitted ((key, v) :: after) = t.admitted after := by
    rw [admitted, List.filter_cons_of_neg (by simp [h])]
    rfl
  rw [admitted_append, admitted_append, hnone]

theorem bindMembers_dropped (hp : t.policy = .closed) (hkey : key ∉ t.fieldNames)
    (hpatterns : ∀ p ∈ t.patterns, p.1.accepts key = false) :
    t.bindMembers (before ++ (key, v) :: after) = t.bindMembers (before ++ after) := by
  have hadmits : t.admits key = false := by
    rw [← Bool.not_eq_true, admits_iff_exists_pattern]
    rintro ⟨-, p, hpattern, haccepts⟩
    rw [hpatterns p hpattern] at haccepts
    cases haccepts
  refine bindMembers_congr_of_closed hp (fun name hname => ?_)
    (admitted_append_cons_of_not_admits hadmits)
  exact valueAt_append_cons_of_ne fun heq => hkey (heq ▸ hname)

theorem bindMembers_moved (hp : t.policy = .closed) (hkey : key ∈ t.fieldNames)
    (hrest : before ++ after = before' ++ after')
    (honce : key ∉ Association.keys (before ++ after)) :
    t.bindMembers (before ++ (key, v) :: after) =
      t.bindMembers (before' ++ (key, v) :: after') := by
  have hadmits := admits_eq_false_of_mem hkey
  refine bindMembers_congr_of_closed hp (fun name _ => ?_) ?_
  · by_cases heq : name = key
    · subst heq
      rw [valueAt_append_cons_self honce, valueAt_append_cons_self (hrest ▸ honce)]
    · rw [valueAt_append_cons_of_ne heq, valueAt_append_cons_of_ne heq, hrest]
  · rw [admitted_append_cons_of_not_admits hadmits, admitted_append_cons_of_not_admits hadmits,
      hrest]

theorem bindMembers_missing (hp : t.policy = .closed) (hkey : key ∈ t.fieldNames)
    (honce : key ∉ Association.keys (before ++ after)) :
    t.bindMembers (before ++ (key, .null) :: after) = t.bindMembers (before ++ after) := by
  have hadmits := admits_eq_false_of_mem hkey
  refine bindMembers_congr_of_closed hp (fun name _ => ?_)
    (admitted_append_cons_of_not_admits hadmits)
  by_cases heq : name = key
  · subst heq
    have hmissing : valueAt (before ++ after) name = .null := by
      rw [valueAt, Association.lookup_eq_none_of_not_mem honce]
      rfl
    rw [valueAt_append_cons_self honce, hmissing]
  · exact valueAt_append_cons_of_ne heq

theorem bindMembers_member (h : (t.shapeFor key).bind v = (t.shapeFor key).bind w) :
    t.bindMembers (before ++ (key, v) :: after) = t.bindMembers (before ++ (key, w) :: after) := by
  have hmembers : JsonRecords.bindMembers t (before ++ (key, v) :: after) =
      JsonRecords.bindMembers t (before ++ (key, w) :: after) := by
    simp only [bindMembers_eq_map, List.map_append, List.map_cons, h]
  rw [bindMembers_eq_iff, hmembers]

end RecordType

theorem bind_eq_of_hiddenChange (h : HiddenChange s v w) : s.bind v = s.bind w := by
  induction h with
  | dropped ht hp hkey hpatterns =>
    rw [bind_object ht, bind_object ht, RecordType.bindMembers_dropped hp hkey hpatterns]
  | moved ht hp hkey hrest honce =>
    rw [bind_object ht, bind_object ht, RecordType.bindMembers_moved hp hkey hrest honce]
  | missing ht hp hkey honce =>
    rw [bind_object ht, bind_object ht, RecordType.bindMembers_missing hp hkey honce]
  | member ht _ ih => rw [bind_object ht, bind_object ht, RecordType.bindMembers_member ih]
  | item hi _ ih =>
    rw [bind_array hi, bind_array hi]
    simp only [List.map_append, List.map_cons, ih]

theorem bind_eq_of_hiddenChanges (h : EqvGen (HiddenChange s) v w) : s.bind v = s.bind w := by
  induction h with
  | rel v w h => exact bind_eq_of_hiddenChange h
  | refl v => rfl
  | symm v w _ ih => exact ih.symm
  | trans u v w _ _ ih ih' => exact ih.trans ih'

/-- What a record type makes of a whole value is determined by what it makes of it as a shape. -/
theorem RecordType.bind_eq_of_shape_bind_eq
    (h : (⟨some t, none⟩ : Shape).bind v = (⟨some t, none⟩ : Shape).bind w) :
    t.bind v = t.bind w := by
  cases useForm ⟨some t, none⟩ v with
  | plain hv =>
    rw [bind_of_plain hv] at h
    obtain ⟨-, rfl⟩ := bind_eq_raw_iff.1 h.symm
    rfl
  | list hi => cases hi
  | record ht =>
    cases ht
    rw [bind_object rfl] at h
    obtain ⟨t', ns, ht', rfl, hrecords⟩ := bind_eq_record_iff.1 h.symm
    cases ht'
    rw [RecordType.bind, RecordType.bind, hrecords]

/-- **Binding hides what it drops and nothing else.**  Two values are bound to the same value, with
the same order of fields, exactly if they are seen alike.  So values that differ by hidden changes
only are bound to the same value; a record type makes the same record of them or refuses both for
the same reason, and then there is no field and no path that is answered differently, errors and the
fields they list included. -/
theorem bind_eq_bind_iff :
    (∀ (s : Shape) (v w : Json), s.bind v = s.bind w ↔ SeenAlike s v w) ∧
    (∀ (s : Shape) (v w : Json), EqvGen (HiddenChange s) v w → s.bind v = s.bind w) ∧
    (∀ (t : RecordType) (v w : Json), EqvGen (HiddenChange ⟨some t, none⟩) v w →
      t.bind v = t.bind w ∧ ∀ r r', t.bind v = .ok r → t.bind w = .ok r' →
        r.fieldNames = r'.fieldNames ∧ (∀ name, r.field name = r'.field name) ∧
          ∀ path, r.lookup path = r'.lookup path) := by
  refine ⟨fun s v w => ⟨seenAlike_of_bind_eq, bind_eq_of_seenAlike⟩,
    fun s v w => bind_eq_of_hiddenChanges, fun t v w h => ?_⟩
  have hsame := RecordType.bind_eq_of_shape_bind_eq (bind_eq_of_hiddenChanges h)
  refine ⟨hsame, fun r r' hr hr' => ?_⟩
  rw [hsame, hr'] at hr
  cases hr
  exact ⟨rfl, fun _ => rfl, fun _ => rfl⟩

/-! ## An untidy card -/

def noteMember : String × Json := ("x-note", .object [("z", .null), ("a", .null)])

def nameMember : String × Json := ("name", .string "Ada")

/-- A place with some members in front of the city. -/
def homeWith (others : List (String × Json)) : Json :=
  .object (others ++ [("city", .string "Paris")])

/-- The card with its members in another order, a stray one, and one more in the place. -/
def untidyCard : Json :=
  .object [noteMember, ("stray", .bool true), ("home", homeWith [("zip", .string "75001")]),
    nameMember]

theorem hiddenChanges_untidyCard : EqvGen (HiddenChange ⟨some cardType, none⟩) untidyCard card := by
  have hstray : HiddenChange ⟨some cardType, none⟩ untidyCard
      (.object ([noteMember] ++ [("home", homeWith [("zip", .string "75001")]), nameMember])) := by
    refine @HiddenChange.dropped _ cardType [noteMember] _ "stray" _ rfl rfl (by decide)
      fun p hp => ?_
    obtain rfl := List.mem_singleton.1 hp
    rfl
  have hzip : HiddenChange ⟨some placeType, none⟩ (homeWith [("zip", .string "75001")])
      (homeWith []) :=
    @HiddenChange.dropped _ placeType [] _ "zip" _ rfl rfl (by decide) (by simp [placeType])
  have hhome : HiddenChange ⟨some cardType, none⟩
      (.object ([noteMember] ++ ("home", homeWith [("zip", .string "75001")]) :: [nameMember]))
      (.object ([noteMember] ++ ("home", homeWith []) :: [nameMember])) :=
    .member (t := cardType) rfl hzip
  have hmoveName : HiddenChange ⟨some cardType, none⟩
      (.object ([noteMember, ("home", homeWith [])] ++ nameMember :: []))
      (.object ([] ++ nameMember :: [noteMember, ("home", homeWith [])])) :=
    .moved (t := cardType) rfl rfl (by decide) rfl (by decide)
  have hmoveHome : HiddenChange ⟨some cardType, none⟩
      (.object ([nameMember, noteMember] ++ ("home", homeWith []) :: []))
      (.object ([nameMember] ++ ("home", homeWith []) :: [noteMember])) :=
    .moved (t := cardType) rfl rfl (by decide) rfl (by decide)
  exact ((EqvGen.rel _ _ hstray).trans _ _ _ (.rel _ _ hhome)).trans _ _ _
    ((EqvGen.rel _ _ hmoveName).trans _ _ _ (.rel _ _ hmoveHome))

/-- The two cards look alike, so both make the same record. -/
theorem bind_untidyCard :
    EqvGen (HiddenChange ⟨some cardType, none⟩) untidyCard card ∧
    (⟨some cardType, none⟩ : Shape).bind untidyCard = (⟨some cardType, none⟩ : Shape).bind card ∧
    SeenAlike ⟨some cardType, none⟩ untidyCard card ∧
    cardType.bind untidyCard = cardType.bind card := by
  obtain ⟨halike, hhidden, hrecords⟩ := bind_eq_bind_iff
  have hsame := hhidden _ _ _ hiddenChanges_untidyCard
  exact ⟨hiddenChanges_untidyCard, hsame, (halike _ _ _).1 hsame,
    (hrecords _ _ _ hiddenChanges_untidyCard).1⟩

end JsonRecords
