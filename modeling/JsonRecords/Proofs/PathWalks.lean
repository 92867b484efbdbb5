import JsonRecords.Command.Run
import JsonRecords.Proofs.DirectBinding
import JsonRecords.Text.Pieces

/-!
# Paths in records and in their JSON form

A path can be followed in a record (`Record.lookup`), or key by key and index by index in the JSON
form of the record (`Json.descend?`).  What the first way finds the second finds too, written as
JSON.  The second may find more, since it goes on inside objects and arrays that stayed raw, and
that is the only difference between the two (`lookup_toJson`).  So to show one field of a document
is to show the whole document and to follow the path in it.

Both ways take one segment at a time, and a single step agrees with a single step (`child?_of_step`,
`step_of_child?`).  Paths are texts, and a path that is cut at a point has the segments of its two
parts (`pathSegments_append`).
-/

namespace JsonRecords

variable {r : Record} {b c : BoundValue} {items : List BoundValue} {v w : Json}
  {segment name path : String} {segments before after : List String}

/-! ## Following a path in JSON -/

namespace Json

/-- What a segment leads to: the value of a key of an object, or the item of an array at the index
that the segment stands for. -/
def child? : Json → String → Option Json
  | object ms, segment => ms.lookup segment
  | array vs, segment => (readIndex? segment).bind fun index => vs[index]?
  | _, _ => none

/-- What segments lead to, one after the other. -/
def descend? (v : Json) (segments : List String) : Option Json :=
  segments.foldlM child? v

theorem descend?_cons_eq_some_iff :
    v.descend? (segment :: segments) = some w ↔
      ∃ u, v.child? segment = some u ∧ u.descend? segments = some w := by
  rw [descend?, List.foldlM_cons]
  exact Option.bind_eq_some_iff

end Json

/-! ## Following a path in a bound value -/

namespace BoundValue

/-- What segments lead to, one after the other; the first that leads nowhere decides the error. -/
def follow (b : BoundValue) (segments : List String) : Except FieldError BoundValue :=
  segments.foldlM step b

theorem follow_cons_of_ok (h : b.step segment = .ok c) :
    b.follow (segment :: segments) = c.follow segments := by
  rw [follow, List.foldlM_cons, h]
  rfl

theorem follow_cons_of_error {e : FieldError} (h : b.step segment = .error e) :
    b.follow (segment :: segments) = .error e := by
  rw [follow, List.foldlM_cons, h]
  rfl

theorem follow_cons_eq_ok_iff :
    b.follow (segment :: segments) = .ok c ↔
      ∃ d, b.step segment = .ok d ∧ d.follow segments = .ok c := by
  rw [follow, List.foldlM_cons]
  exact bind_eq_ok_iff

end BoundValue

theorem pathSegments_ne_nil (path : String) : pathSegments path ≠ [] := by
  intro h
  exact List.splitOn_ne_nil '.' path.toList (List.map_eq_nil_iff.1 h)

/-- A path is followed in a record from its first segment on. -/
theorem lookup_eq_follow (r : Record) (path : String) :
    r.lookup path = (BoundValue.record r).follow (pathSegments path) := by
  unfold Record.lookup
  cases h : pathSegments path with
  | nil => exact absurd h (pathSegments_ne_nil path)
  | cons first rest => rfl

/-! ## One step -/

theorem field_eq_ok_iff : r.field name = .ok b ↔ r.get? name = some b := by
  unfold Record.field
  cases r.get? name <;> simp

theorem step_list_eq_ok_iff :
    (BoundValue.list items).step segment = .ok b ↔
      ∃ index, readIndex? segment = some index ∧ items[index]? = some b := by
  unfold BoundValue.step
  cases readIndex? segment with
  | none => simp
  | some index => cases hitem : items[index]? <;> simp [hitem]

theorem child?_toJson_record (r : Record) (segment : String) :
    r.toJson.child? segment = (r.get? segment).map BoundValue.toJson := by
  rw [toJson_record, Json.child?]
  exact Association.lookup_map_values (fun _ b => b.toJson) r.fields segment

theorem child?_toJson_list (items : List BoundValue) (segment : String) :
    (BoundValue.list items).toJson.child? segment =
      (readIndex? segment).bind fun index => (items[index]?).map BoundValue.toJson := by
  rw [toJson_list, Json.child?]
  simp only [List.getElem?_map]

/-- Where a segment leads in a bound value, it leads in the JSON form. -/
theorem child?_of_step (h : b.step segment = .ok c) :
    b.toJson.child? segment = some c.toJson := by
  cases b with
  | record r =>
    have hget : r.get? segment = some c := field_eq_ok_iff.1 h
    rw [BoundValue.toJson, child?_toJson_record, hget]
    rfl
  | list items =>
    obtain ⟨index, hindex, hitem⟩ := step_list_eq_ok_iff.1 h
    rw [child?_toJson_list, hindex, Option.bind_some, hitem]
    rfl
  | raw v => cases h

/-- Where a segment leads in the JSON form, it leads in the bound value, unless that is a raw object
or a raw array. -/
theorem step_of_child? (h : b.toJson.child? segment = some w) :
    (∃ c, b.step segment = .ok c ∧ c.toJson = w) ∨
      ∃ v, b = .raw v ∧ (v.kind = .object ∨ v.kind = .array) := by
  cases b with
  | record r =>
    rw [BoundValue.toJson, child?_toJson_record, Option.map_eq_some_iff] at h
    obtain ⟨c, hget, hc⟩ := h
    exact Or.inl ⟨c, field_eq_ok_iff.2 hget, hc⟩
  | list items =>
    rw [child?_toJson_list, Option.bind_eq_some_iff] at h
    obtain ⟨index, hindex, hitem⟩ := h
    obtain ⟨c, hget, hc⟩ := Option.map_eq_some_iff.1 hitem
    exact Or.inl ⟨c, step_list_eq_ok_iff.2 ⟨index, hindex, hget⟩, hc⟩
  | raw v =>
    cases v with
    | object ms => exact Or.inr ⟨.object ms, rfl, Or.inl rfl⟩
    | array vs => exact Or.inr ⟨.array vs, rfl, Or.inr rfl⟩
    | _ => cases h

/-! ## All steps -/

theorem descend?_of_follow (h : b.follow segments = .ok c) :
    b.toJson.descend? segments = some c.toJson := by
  induction segments generalizing b with
  | nil =>
    cases h
    rfl
  | cons segment rest ih =>
    obtain ⟨d, hstep, hrest⟩ := BoundValue.follow_cons_eq_ok_iff.1 h
    exact Json.descend?_cons_eq_some_iff.2 ⟨d.toJson, child?_of_step hstep, ih hrest⟩

/-- The segments come to a raw object or a raw array, where the bound value has nothing further, and
go on inside it to `w`. -/
structure EntersRaw (b : BoundValue) (segments before : List String) (segment : String)
    (after : List String) (v w : Json) : Prop where
  cut : segments = before ++ segment :: after
  arrives : b.follow before = .ok (.raw v)
  container : v.kind = .object ∨ v.kind = .array
  refused : b.follow segments = .error (.notTraversable segment (.raw v.kind))
  inside : v.descend? (segment :: after) = some w

theorem EntersRaw.cons (hstep : b.step name = .ok c)
    (h : EntersRaw c segments before segment after v w) :
    EntersRaw b (name :: segments) (name :: before) segment after v w where
  cut := by rw [h.cut, List.cons_append]
  arrives := (BoundValue.follow_cons_of_ok hstep).trans h.arrives
  container := h.container
  refused := (BoundValue.follow_cons_of_ok hstep).trans h.refused
  inside := h.inside

theorem entersRaw_of_raw (hkind : v.kind = .object ∨ v.kind = .array)
    (h : v.descend? (segment :: after) = some w) :
    EntersRaw (.raw v) (segment :: after) [] segment after v w where
  cut := rfl
  arrives := rfl
  container := hkind
  refused := BoundValue.follow_cons_of_error rfl
  inside := h

/-- What segments find in the JSON form they find in the bound value, unless they enter a raw
value. -/
theorem follow_of_descend? (h : b.toJson.descend? segments = some w) :
    (∃ c, b.follow segments = .ok c ∧ c.toJson = w) ∨
      ∃ before segment after v, EntersRaw b segments before segment after v w := by
  induction segments generalizing b with
  | nil =>
    cases h
    exact Or.inl ⟨b, rfl, rfl⟩
  | cons segment rest ih =>
    obtain ⟨u, hchild, hrest⟩ := Json.descend?_cons_eq_some_iff.1 h
    rcases step_of_child? hchild with ⟨d, hstep, rfl⟩ | ⟨v, rfl, hkind⟩
    -- The step leads on: what the rest of the segments does from there they do from here.
    · rcases ih hrest with ⟨c, hfollow, hc⟩ | ⟨before, segment', after, v, henters⟩
      · exact Or.inl ⟨c, (BoundValue.follow_cons_of_ok hstep).trans hfollow, hc⟩
      · exact Or.inr ⟨segment :: before, segment', after, v, henters.cons hstep⟩
    · exact Or.inr ⟨[], segment, rest, v, entersRaw_of_raw hkind h⟩

/-! ## Paths and their parts -/

theorem pathSegments_append (front rest : String) :
    pathSegments (front ++ "." ++ rest) = pathSegments front ++ pathSegments rest := by
  have hcut : (front ++ "." ++ rest).toList = front.toList ++ '.' :: rest.toList := by
    simp [String.toList_append]
  rw [pathSegments, hcut, List.splitOn_append_cons_self, List.map_append]
  rfl

theorem intercalate_append {α : Type} {sep : List α} {pieces others : List (List α)}
    (h : pieces ≠ []) (hothers : others ≠ []) :
    sep.intercalate (pieces ++ others) =
      sep.intercalate pieces ++ sep ++ sep.intercalate others := by
  induction pieces with
  | nil => exact absurd rfl h
  | cons first rest ih =>
    cases rest with
    | nil => rw [List.singleton_append, List.intercalate_cons_of_ne_nil hothers,
        List.intercalate_singleton]
    | cons second rest =>
      have hrest := ih (List.cons_ne_nil second rest)
      rw [List.cons_append, List.intercalate_cons_of_ne_nil (by simp), hrest,
        List.intercalate_cons_cons]
      simp only [List.append_assoc]

/-- A text whose pieces come in two parts can be cut between them. -/
theorem exists_cut_of_splitOn {α : Type} [BEq α] [LawfulBEq α] {sep : α} {xs : List α}
    {pieces others : List (List α)} (h : xs.splitOn sep = pieces ++ others) (hpieces : pieces ≠ [])
    (hothers : others ≠ []) :
    ∃ ys zs, xs = ys ++ sep :: zs ∧ ys.splitOn sep = pieces ∧ zs.splitOn sep = others := by
  have hfree : ∀ piece ∈ pieces ++ others, sep ∉ piece := by
    intro piece hpiece
    rw [← h] at hpiece
    exact Pieces.not_mem_of_mem_splitOn hpiece
  rw [List.forall_mem_append] at hfree
  refine ⟨[sep].intercalate pieces, [sep].intercalate others, ?_,
    List.splitOn_intercalate sep hfree.1 hpieces, List.splitOn_intercalate sep hfree.2 hothers⟩
  have hjoin : [sep].intercalate (xs.splitOn sep) = xs := List.intercalate_splitOn sep
  rw [← hjoin, h, intercalate_append hpieces hothers, List.append_assoc, List.singleton_append]

theorem exists_parts_of_pathSegments (h : pathSegments path = before ++ segment :: after)
    (hbefore : before ≠ []) :
    ∃ front rest, path = front ++ "." ++ rest ∧ pathSegments front = before ∧
      pathSegments rest = segment :: after := by
  obtain ⟨pieces, others, hsplit, hpieces, hothers⟩ := List.map_eq_append_iff.1 h
  have hne : pieces ≠ [] := by
    rintro rfl
    exact hbefore hpieces.symm
  have hne' : others ≠ [] := by
    rintro rfl
    cases hothers
  obtain ⟨ys, zs, hcut, hys, hzs⟩ := exists_cut_of_splitOn hsplit hne hne'
  refine ⟨String.ofList ys, String.ofList zs, ?_, ?_, ?_⟩
  · rw [← String.toList_inj]
    simp [String.toList_append, hcut]
  · rw [pathSegments, String.toList_ofList, hys, hpieces]
  · rw [pathSegments, String.toList_ofList, hzs, hothers]

/-! ## Records and commands -/

theorem descend?_toJson_of_lookup (h : r.lookup path = .ok b) :
    r.toJson.descend? (pathSegments path) = some b.toJson := by
  rw [lookup_eq_follow] at h
  have hdescend := descend?_of_follow h
  rwa [BoundValue.toJson] at hdescend

/-- A record itself is not raw, so a path that enters a raw value has a front part that leads to
it. -/
theorem lookup_of_descend?_toJson (h : r.toJson.descend? (pathSegments path) = some w) :
    (∃ b, r.lookup path = .ok b ∧ b.toJson = w) ∨
      ∃ front rest segment v, path = front ++ "." ++ rest ∧
        (pathSegments rest).head? = some segment ∧ r.lookup front = .ok (.raw v) ∧
        (v.kind = .object ∨ v.kind = .array) ∧ v.descend? (pathSegments rest) = some w ∧
        r.lookup path = .error (.notTraversable segment (.raw v.kind)) := by
  have hfollow := follow_of_descend? (b := .record r) (by rwa [BoundValue.toJson])
  rw [← lookup_eq_follow] at hfollow
  rcases hfollow with hfound | ⟨before, segment, after, v, henters⟩
  · exact Or.inl hfound
  · have hbefore : before ≠ [] := by
      rintro rfl
      cases henters.arrives
    obtain ⟨front, rest, hpath, hfront, hrest⟩ := exists_parts_of_pathSegments henters.cut hbefore
    refine Or.inr ⟨front, rest, segment, v, hpath, ?_, ?_, henters.container, ?_, ?_⟩
    · rw [hrest, List.head?_cons]
    · rw [lookup_eq_follow, hfront]
      exact henters.arrives
    · rw [hrest]
      exact henters.inside
    · rw [lookup_eq_follow]
      exact henters.refused

namespace Command

variable {store : Store} {root schema document : String} {field : Option String}

theorem select_some_eq_ok_iff :
    select r (some path) = .ok v ↔ ∃ b, r.lookup path = .ok b ∧ b.toJson = v := by
  rw [select]
  cases r.lookup path <;> simp

/-- A document is bound if all steps on the way succeed. -/
theorem bindDocument_eq_ok_iff :
    bindDocument store root schema document field = .ok v ↔
      ∃ t d r, compileSchema store root schema = .ok t ∧ loadDocument store document = .ok d ∧
        t.bind d = .ok r ∧ select r field = .ok v := by
  rw [bindDocument, bind_eq_ok_iff]
  constructor
  · rintro ⟨t, hcompile, h⟩
    split at h
    · cases h
    · rename_i d hload
      split at h
      · cases h
      · rename_i r hbind
        exact ⟨t, d, r, hcompile, hload, hbind, h⟩
  · rintro ⟨t, d, r, hcompile, hload, hbind, h⟩
    refine ⟨t, hcompile, ?_⟩
    rw [hload]
    simp only [hbind]
    exact h

/-- To show a field of a document is to show the document and to follow the path in it. -/
theorem bindDocument_field (h : bindDocument store root schema document (some path) = .ok v) :
    ∃ w, bindDocument store root schema document none = .ok w ∧
      w.descend? (pathSegments path) = some v := by
  obtain ⟨t, d, r, hcompile, hload, hbind, hselect⟩ := bindDocument_eq_ok_iff.1 h
  obtain ⟨b, hlookup, rfl⟩ := select_some_eq_ok_iff.1 hselect
  refine ⟨r.toJson, ?_, descend?_toJson_of_lookup hlookup⟩
  exact bindDocument_eq_ok_iff.2 ⟨t, d, r, hcompile, hload, hbind, rfl⟩

end Command

/-- **Paths lead to the same place in a record and in its JSON form.**  What a path finds in a
record it finds, written as JSON, in the JSON form.  What it finds in the JSON form it finds in the
record, or a front part of it leads to a raw object or a raw array and the rest goes on in there,
which the record refuses.  So what the program prints for a field of a document is at the path of
the field in what it prints for the document. -/
theorem lookup_toJson :
    (∀ (r : Record) (path : String) (b : BoundValue), r.lookup path = .ok b →
      r.toJson.descend? (pathSegments path) = some b.toJson) ∧
    (∀ (r : Record) (path : String) (w : Json),
      r.toJson.descend? (pathSegments path) = some w →
        (∃ b, r.lookup path = .ok b ∧ b.toJson = w) ∨
          ∃ front rest segment v, path = front ++ "." ++ rest ∧
            (pathSegments rest).head? = some segment ∧ r.lookup front = .ok (.raw v) ∧
            (v.kind = .object ∨ v.kind = .array) ∧ v.descend? (pathSegments rest) = some w ∧
            r.lookup path = .error (.notTraversable segment (.raw v.kind))) ∧
    (∀ (store : Store) (root schema document path : String) (v : Json),
      Command.bindDocument store root schema document (some path) = .ok v →
        ∃ w, Command.bindDocument store root schema document none = .ok w ∧
          w.descend? (pathSegments path) = some v) :=
  ⟨fun _ _ _ => descend?_toJson_of_lookup, fun _ _ _ => lookup_of_descend?_toJson,
    fun _ _ _ _ _ _ => Command.bindDocument_field⟩

/-! ## A gift in the box -/

def giftText : String := "\x7b\"lid\":[\"red\",\x7b\"size\":3\x7d]\x7d"

def gift : Json :=
  .object [("lid", .array [.string "red", .object [("size", .number (.integer 3))]])]

/-- The box, its lid, and a document to bind. -/
def giftShelf : Store where
  workDir := "/"
  entries := shelf.entries ++ [(["s", "gift.json"], .text giftText)]

def giftRecord : Record := boxType.bindMembers gift.members

theorem compileSchema_giftShelf : Command.compileSchema giftShelf "s" "box.json" = .ok boxType := by
  have hload : Context.load giftShelf "box.json" "s" =
      .ok (.ofFile boxDocument ⟨["s", "box.json"]⟩) := by
    rfl
  have harises : (Context.ofFile boxDocument ⟨["s", "box.json"]⟩).Arises giftShelf :=
    Or.inr ⟨_, _, hload⟩
  have hcompile :=
    (compileContext_eq_ok_iff harises).2 ⟨isRecordSchema_box, expandsToRecord_box rfl⟩
  have hfile : compileFile giftShelf "s" "box.json" = .ok boxType :=
    (compileFile_of_load hload).trans hcompile
  unfold Command.compileSchema
  simp only [hfile]

theorem bindDocument_gift {field : Option String} {v : Json}
    (h : Command.select giftRecord field = .ok v) :
    Command.bindDocument giftShelf "s" "box.json" "s/gift.json" field = .ok v :=
  Command.bindDocument_eq_ok_iff.2 ⟨boxType, gift, giftRecord, compileSchema_giftShelf, rfl, rfl, h⟩

/-- The first item of the lid is found both ways, what is in the second in the JSON form only.  An
index may have a plus sign and zeros in front. -/
theorem lookup_toJson_gift :
    giftRecord.lookup "lid.0" = .ok (.raw (.string "red")) ∧
    giftRecord.toJson.descend? (pathSegments "lid.0") = some (.string "red") ∧
    giftRecord.toJson.descend? (pathSegments "lid.+01.size") = some (.number (.integer 3)) ∧
    (∃ front rest v, "lid.+01.size" = front ++ "." ++ rest ∧
      giftRecord.lookup front = .ok (.raw v) ∧
      v.descend? (pathSegments rest) = some (.number (.integer 3))) ∧
    Command.bindDocument giftShelf "s" "box.json" "s/gift.json" (some "lid.0") =
      .ok (.string "red") ∧
    ∃ w, Command.bindDocument giftShelf "s" "box.json" "s/gift.json" none = .ok w ∧
      w.descend? (pathSegments "lid.0") = some (.string "red") := by
  have hred : giftRecord.lookup "lid.0" = .ok (.raw (.string "red")) := by rfl
  have hsize : giftRecord.toJson.descend? (pathSegments "lid.+01.size") =
      some (.number (.integer 3)) := by
    rfl
  have hrefused : giftRecord.lookup "lid.+01.size" =
      .error (.notTraversable "size" (.raw .object)) := by
    rfl
  have hfield : Command.bindDocument giftShelf "s" "box.json" "s/gift.json" (some "lid.0") =
      .ok (.string "red") :=
    bindDocument_gift rfl
  obtain ⟨hforth, hback, hcommand⟩ := lookup_toJson
  refine ⟨hred, hforth _ _ _ hred, hsize, ?_, hfield, hcommand _ _ _ _ _ _ hfield⟩
  rcases hback _ _ _ hsize with ⟨b, hb, -⟩ | ⟨front, rest, segment, v, hpath, -, hv, -, hinside, -⟩
  · rw [hrefused] at hb
    cases hb
  · exact ⟨front, rest, v, hpath, hv, hinside⟩

end JsonRecords
