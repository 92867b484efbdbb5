import JsonRecords.Proofs.BindingDescent

/-!
# Binding what binding gave

A bound value written back as JSON can be bound again by the same shape.  Nothing comes of it: the
second binding gives the value that the first one gave (`bind_toJson_bind`), record types and the
order of fields included.  So a record is determined by its JSON form and its type, and what is
stored as JSON may be bound on each reading.

The members of the second object are the exposed fields of the first record.  Each of them is bound
to what it was (`bindMembers_map_toJson`), since it was bound by the shape of its key or is null,
and the type chooses the same fields again (`RecordType.expose_expose`).
-/

namespace JsonRecords

variable {t : RecordType} {bound : List (String × BoundValue)}

/-- Entries that are bound to themselves come back from their JSON form. -/
theorem bindMembers_map_toJson
    (h : ∀ e ∈ bound, (t.shapeFor e.1).bind e.2.toJson = e.2) :
    bindMembers t (bound.map fun e => (e.1, e.2.toJson)) = bound := by
  rw [bindMembers_eq_map, List.map_map]
  refine (List.map_congr_left fun e he => ?_).trans (List.map_id bound)
  exact Prod.ext rfl (h e he)

/-- If the members of an object are bound to the same values again, so is the object. -/
theorem exists_toJson_bindMembers (t : RecordType) (ms : List (String × Json))
    (h : ∀ m ∈ ms, (t.shapeFor m.1).bind ((t.shapeFor m.1).bind m.2).toJson =
      (t.shapeFor m.1).bind m.2) :
    ∃ fields, (t.bindMembers ms).toJson = .object fields ∧
      t.bindMembers fields = t.bindMembers ms := by
  have hsettled : ∀ e ∈ t.expose (bindMembers t ms), (t.shapeFor e.1).bind e.2.toJson = e.2 := by
    intro e he
    rcases RecordType.mem_expose he with he | hnull
    · rw [bindMembers_eq_map] at he
      obtain ⟨m, hm, rfl⟩ := List.mem_map.1 he
      exact h m hm
    · rw [hnull]
      rfl
  refine ⟨_, toJson_bindMembers t ms, ?_⟩
  rw [RecordType.bindMembers, bindMembers_map_toJson hsettled, RecordType.expose_expose]
  rfl

theorem Shape.bind_toJson_self (s : Shape) (v : Json) : s.bind (s.bind v).toJson = s.bind v := by
  induction s, v using bind_induction with
  | plain s v h =>
    rw [bind_of_plain h]
    exact bind_of_plain h
  | list s i vs hi each =>
    have hitems : ((vs.map i.bind).map BoundValue.toJson).map i.bind = vs.map i.bind := by
      rw [List.map_map, List.map_map]
      exact List.map_congr_left each
    rw [bind_array hi, toJson_list, bind_array hi, hitems]
  | record s t ms ht each =>
    obtain ⟨fields, hfields, hsame⟩ := exists_toJson_bindMembers t ms each
    rw [bind_object ht, BoundValue.toJson, hfields, bind_object ht, hsame]

/-- **Binding what binding gave changes nothing.**  The JSON form of a bound value is bound by the
same shape to the same bound value; and the JSON form of a record is an object, which its type binds
to the same record. -/
theorem bind_toJson_bind :
    (∀ (s : Shape) (v : Json), s.bind (s.bind v).toJson = s.bind v) ∧
    (∀ (t : RecordType) (ms : List (String × Json)), ∃ fields,
      (t.bindMembers ms).toJson = .object fields ∧
        t.bind (t.bindMembers ms).toJson = .ok (t.bindMembers ms)) := by
  refine ⟨Shape.bind_toJson_self, fun t ms => ?_⟩
  obtain ⟨fields, hfields, hsame⟩ :=
    exists_toJson_bindMembers t ms fun m _ => Shape.bind_toJson_self _ m.2
  refine ⟨fields, hfields, ?_⟩
  rw [hfields, RecordType.bind, hsame]

end JsonRecords
