import JsonRecords.Proofs.FiniteExpansion
import Mathlib.Data.List.Forall2

/-!
# Refactoring schemas

A schema can be rewritten in many ways without a change of what it compiles to: its keywords may be
joined by others that mean nothing, and its definitions may be moved, renamed or copied.  `Alike`
says what has to stay: nodes go with nodes that have the same recognised keywords, and a reference
goes with a reference that leads to a node that goes with the node the first one leads to.  How the
two schemas are cut into documents, how their targets are called and how many there are does not
matter.

Two compilers on schemas that go with each other need not do the same things, for what is a known
target in one may be new in the other.  But derivations of expansions carry over node by node
(`Expands.of_related`), so both find the same expansion or neither finds one
(`compileNode_of_related`).
-/

namespace JsonRecords

open Json

variable {store store' : Store} {R : Context → Json → Context → Json → Prop}
  {ctx ctx' : Context} {node node' : Json} {s : Shape} {t : RecordType}
  {ms ms' : List (String × Json)}

/-! ## Nodes that are alike -/

/-- What a `$ref` with a value leads to. -/
def LeadsFrom (store : Store) (ctx : Context) (v : Json) (r : Resolved) : Prop :=
  ∃ text, v = .string text ∧ resolve store text ctx = .ok r

/-- The same keys in the same order, with related nodes. -/
def MembersAlike (R : Context → Json → Context → Json → Prop) (ctx ctx' : Context)
    (ms ms' : List (String × Json)) : Prop :=
  List.Forall₂ (fun e e' => e.1 = e'.1 ∧ R ctx e.2 ctx' e'.2) ms ms'

/-- Two object schemas have the same fields and patterns, and they agree on whether the keyword for
additional fields is there and whether it is literally `false`. -/
structure ObjectsAlike (R : Context → Json → Context → Json → Prop) (ctx : Context) (node : Json)
    (ctx' : Context) (node' : Json) : Prop where
  unstated : node.get? "additionalProperties" = none ↔ node'.get? "additionalProperties" = none
  refused : node.get? "additionalProperties" = some (.bool false) ↔
    node'.get? "additionalProperties" = some (.bool false)
  fields : MembersAlike R ctx ctx' (node.keywordMembers "properties")
    (node'.keywordMembers "properties")
  patterns : MembersAlike R ctx ctx' (node.keywordMembers "patternProperties")
    (node'.keywordMembers "patternProperties")

/-- The types are the same, and so is what the keywords say that matter for them. -/
structure KeywordsAlike (R : Context → Json → Context → Json → Prop) (ctx : Context) (node : Json)
    (ctx' : Context) (node' : Json) : Prop where
  types : TypeSet.ofSchema node = TypeSet.ofSchema node'
  object : (TypeSet.ofSchema node).contains .object = true → ObjectsAlike R ctx node ctx' node'
  array : (TypeSet.ofSchema node).contains .array = true →
    Option.Rel (fun v v' => R ctx v ctx' v') (node.get? "items") (node'.get? "items")

/-- What two related nodes have in common, given which nodes are related.

* Both are no objects.
* Both are references that lead to related nodes.
* Both are references that lead nowhere, because they are malformed or cannot be resolved.
* Neither is a reference, and the recognised keywords are alike. -/
inductive Alike (store store' : Store) (R : Context → Json → Context → Json → Prop)
    (ctx : Context) (node : Json) (ctx' : Context) (node' : Json) : Prop where
  | noObjects (hobject : node.isObject = false) (hobject' : node'.isObject = false)
  | references {v v' : Json} {r r' : Resolved} (href : node.get? "$ref" = some v)
      (href' : node'.get? "$ref" = some v') (hr : LeadsFrom store ctx v r)
      (hr' : LeadsFrom store' ctx' v' r') (related : R r.context r.node r'.context r'.node)
  | nowhere {v v' : Json} (href : node.get? "$ref" = some v) (href' : node'.get? "$ref" = some v')
      (hno : ∀ r, ¬ LeadsFrom store ctx v r) (hno' : ∀ r, ¬ LeadsFrom store' ctx' v' r)
  | keywords (href : node.get? "$ref" = none) (href' : node'.get? "$ref" = none)
      (alike : KeywordsAlike R ctx node ctx' node')

theorem Alike.flip (h : Alike store store' R ctx node ctx' node') :
    Alike store' store (fun ctx node ctx' node' => R ctx' node' ctx node) ctx' node' ctx node := by
  have hmembers : ∀ {ms ms'}, MembersAlike R ctx ctx' ms ms' →
      MembersAlike (fun ctx node ctx' node' => R ctx' node' ctx node) ctx' ctx ms' ms :=
    fun h => List.Forall₂.flip (h.imp fun e e' he => ⟨he.1.symm, he.2⟩)
  have hitems : ∀ {v v'}, Option.Rel (fun v v' => R ctx v ctx' v') v v' →
      Option.Rel (fun v' v => R ctx v ctx' v') v' v := by
    rintro _ _ (h | _)
    · exact .some h
    · exact .none
  cases h with
  | noObjects hobject hobject' => exact .noObjects hobject' hobject
  | references href href' hr hr' related => exact .references href' href hr' hr related
  | nowhere href href' hno hno' => exact .nowhere href' href hno' hno
  | keywords href href' alike =>
    refine .keywords href' href ⟨alike.types.symm, fun hobject => ?_, fun harray => ?_⟩
    · have h := alike.object (alike.types ▸ hobject)
      exact ⟨h.unstated.symm, h.refused.symm, hmembers h.fields, hmembers h.patterns⟩
    · exact hitems (alike.array (alike.types ▸ harray))

/-! ## The same outlines and related parts -/

theorem MembersAlike.keys_eq (h : MembersAlike R ctx ctx' ms ms') :
    Association.keys ms = Association.keys ms' := by
  induction h with
  | nil => rfl
  | cons he _ ih => exact congrArg₂ List.cons he.1 ih

theorem MembersAlike.mem_zip (h : MembersAlike R ctx ctx' ms ms') {shapes : List Shape}
    {p : Json × Shape} (hp : p ∈ (ms'.map Prod.snd).zip shapes) :
    ∃ v, (v, p.2) ∈ (ms.map Prod.snd).zip shapes ∧ R ctx v ctx' p.1 := by
  induction h generalizing shapes with
  | nil => simp at hp
  | cons he _ ih =>
    cases shapes with
    | nil => simp at hp
    | cons s shapes =>
      rw [List.map_cons, List.zip_cons_cons, List.mem_cons] at hp
      rw [List.map_cons, List.zip_cons_cons]
      rcases hp with rfl | hp
      · exact ⟨_, List.mem_cons_self, he.2⟩
      · obtain ⟨v, hv, hrelated⟩ := ih hp
        exact ⟨v, List.mem_cons_of_mem _ hv, hrelated⟩

theorem ObjectsAlike.outlines (h : ObjectsAlike R ctx node ctx' node')
    (houtline : OutlinesRecord node t) : OutlinesRecord node' t where
  refuses := houtline.refuses.trans h.refused
  explicit := houtline.explicit.trans (not_congr h.unstated)
  fields := houtline.fields.trans h.fields.keys_eq
  patterns := houtline.patterns.trans h.patterns.keys_eq

theorem ObjectsAlike.mem_parts (h : ObjectsAlike R ctx node ctx' node') {p : Json × Shape}
    (hp : p ∈ recordParts node' t) : ∃ v, (v, p.2) ∈ recordParts node t ∧ R ctx v ctx' p.1 := by
  rw [recordParts, List.mem_append] at hp
  simp only [recordParts, List.mem_append]
  rcases hp with hp | hp
  · obtain ⟨v, hv, hrelated⟩ := h.fields.mem_zip hp
    exact ⟨v, Or.inl hv, hrelated⟩
  · obtain ⟨v, hv, hrelated⟩ := h.patterns.mem_zip hp
    exact ⟨v, Or.inr hv, hrelated⟩

theorem KeywordsAlike.outlines (h : KeywordsAlike R ctx node ctx' node')
    (houtline : Outlines node s) : Outlines node' s where
  hasRecord := houtline.hasRecord.trans (congrArg (TypeSet.contains · .object) h.types)
  hasItems := houtline.hasItems.trans (congrArg (TypeSet.contains · .array) h.types)
  record t ht := (h.object (contains_object_of_record houtline ht)).outlines (houtline.record t ht)
  items i hi hnone := by
    have hitems := h.array (contains_array_of_items houtline hi)
    rw [hnone] at hitems
    cases hv : node.get? "items" with
    | none => exact houtline.items i hi hv
    | some v =>
      rw [hv] at hitems
      cases hitems

theorem KeywordsAlike.mem_parts (h : KeywordsAlike R ctx node ctx' node')
    (houtline : Outlines node s) {p : Json × Shape} (hp : p ∈ parts node' s) :
    ∃ v, (v, p.2) ∈ parts node s ∧ R ctx v ctx' p.1 := by
  simp only [parts, List.mem_append, List.mem_flatMap, Option.mem_toList] at hp ⊢
  rcases hp with ⟨t, ht, hp⟩ | ⟨i, hi, hp⟩
  · have hobjects := h.object (contains_object_of_record houtline ht)
    obtain ⟨v, hv, hrelated⟩ := hobjects.mem_parts hp
    exact ⟨v, Or.inl ⟨t, ht, hv⟩, hrelated⟩
  · have hitems := h.array (contains_array_of_items houtline hi)
    simp only [itemsParts, List.mem_map, Option.mem_toList] at hp ⊢
    obtain ⟨v', hv', rfl⟩ := hp
    rw [hv'] at hitems
    cases hv : node.get? "items" with
    | none =>
      rw [hv] at hitems
      cases hitems
    | some v =>
      rw [hv] at hitems
      cases hitems with
      | some hrelated => exact ⟨v, Or.inr ⟨i, hi, v, rfl, rfl⟩, hrelated⟩

/-! ## Expansions carry over -/

/-- What a node expands to, the related nodes expand to as well. -/
theorem Expands.of_related
    (hR : ∀ ctx node ctx' node', R ctx node ctx' node' → Alike store store' R ctx node ctx' node')
    (h : Expands store ctx node s) (hrelated : R ctx node ctx' node') :
    Expands store' ctx' node' s := by
  induction h generalizing ctx' node' with
  | @noObject ctx node hobject =>
    cases hR _ _ _ _ hrelated with
    | noObjects _ hobject' => exact .noObject hobject'
    | references href | nowhere href =>
      rw [isObject_of_get?_eq_some href] at hobject
      cases hobject
    | keywords _ href' alike =>
      have houtline := outlines_of_not_isObject hobject
      refine expands_of_outlines href' (alike.outlines houtline) fun p hp => ?_
      obtain ⟨v, hv, -⟩ := alike.mem_parts houtline hp
      simp [parts, Shape.plain] at hv
  | @reference ctx node text r s href hr h ih =>
    cases hR _ _ _ _ hrelated with
    | noObjects hobject =>
      rw [isObject_of_get?_eq_some href] at hobject
      cases hobject
    | @references v v' q r' hv href' hleads hleads' related =>
      rw [href] at hv
      cases hv
      obtain ⟨_, ⟨⟩, hq⟩ := hleads
      obtain ⟨text', rfl, hr'⟩ := hleads'
      obtain rfl := Except.ok.inj (hr.symm.trans hq)
      exact .reference href' hr' (ih related)
    | nowhere hv _ hno =>
      rw [href] at hv
      cases hv
      exact absurd ⟨text, rfl, hr⟩ (hno r)
    | keywords hnone =>
      rw [href] at hnone
      cases hnone
  | @keywords ctx node s hobject href outline each ih =>
    cases hR _ _ _ _ hrelated with
    | noObjects hno =>
      rw [hobject] at hno
      cases hno
    | references hv | nowhere hv =>
      rw [href] at hv
      cases hv
    | keywords _ href' alike =>
      refine expands_of_outlines href' (alike.outlines outline) fun p hp => ?_
      obtain ⟨v, hv, hbelow⟩ := alike.mem_parts outline hp
      exact ih _ hv hbelow

/-! ## Compiling related nodes -/

/-- Both succeed with the same value, or both fail. -/
def SameSuccess {α : Type} (x y : Except SchemaError α) : Prop :=
  (∃ a, x = .ok a ∧ y = .ok a) ∨ ∃ e e', x = .error e ∧ y = .error e'

theorem sameSuccess_of_iff {α : Type} {x y : Except SchemaError α}
    (h : ∀ a, x = .ok a ↔ y = .ok a) : SameSuccess x y := by
  cases x with
  | ok a => exact Or.inl ⟨a, rfl, (h a).1 rfl⟩
  | error e =>
    cases y with
    | ok b => cases (h b).2 rfl
    | error e' => exact Or.inr ⟨e, e', rfl, rfl⟩

theorem sameSuccess_of_related
    (hR : ∀ ctx node ctx' node', R ctx node ctx' node' → Alike store store' R ctx node ctx' node')
    (hctx : ctx.Arises store) (hctx' : ctx'.Arises store') (h : R ctx node ctx' node') :
    SameSuccess (({} : Compiler).run (Compiler.compileNode store ctx node)).1
      (({} : Compiler).run (Compiler.compileNode store' ctx' node')).1 := by
  refine sameSuccess_of_iff fun s => ?_
  rw [run_compileNode_eq_ok_iff hctx, run_compileNode_eq_ok_iff hctx']
  constructor
  · exact fun hs => hs.of_related hR h
  · refine fun hs => hs.of_related (R := fun ctx node ctx' node' => R ctx' node' ctx node) ?_ h
    exact fun ctx node ctx' node' hrelated => (hR _ _ _ _ hrelated).flip

/-- The keywords of a node that say something about values. -/
def recognised : List String :=
  ["$ref", "type", "properties", "patternProperties", "additionalProperties", "items"]

/-- In one context, each node is related to those with the same recognised keywords. -/
def SameKeywords (ctx : Context) (node : Json) (ctx' : Context) (node' : Json) : Prop :=
  ctx = ctx' ∧ ∀ key ∈ recognised, node.get? key = node'.get? key

theorem SameKeywords.refl (ctx : Context) (node : Json) : SameKeywords ctx node ctx node :=
  ⟨rfl, fun _ _ => rfl⟩

theorem SameKeywords.alike (h : SameKeywords ctx node ctx' node') :
    Alike store store SameKeywords ctx node ctx' node' := by
  obtain ⟨rfl, h⟩ := h
  simp only [recognised, List.forall_mem_cons] at h
  obtain ⟨href, htype, hproperties, hpatterns, hadditional, hitems, -⟩ := h
  have hmembers : ∀ {ms ms'}, ms = ms' → MembersAlike SameKeywords ctx ctx ms ms' := by
    rintro ms _ rfl
    exact List.forall₂_same.2 fun e _ => ⟨rfl, .refl ctx e.2⟩
  cases hv : node.get? "$ref" with
  | some v =>
    by_cases hleads : ∃ r, LeadsFrom store ctx v r
    · obtain ⟨r, hr⟩ := hleads
      exact .references hv (href ▸ hv) hr hr (.refl r.context r.node)
    · exact .nowhere hv (href ▸ hv) (not_exists.1 hleads) (not_exists.1 hleads)
  | none =>
    refine .keywords hv (href ▸ hv) ⟨?_, fun _ => ⟨?_, ?_, hmembers ?_, hmembers ?_⟩, fun _ => ?_⟩
    · exact TypeSet.ofSchema_congr htype
    · rw [hadditional]
    · rw [hadditional]
    · rw [keywordMembers, keywordMembers, hproperties]
    · rw [keywordMembers, keywordMembers, hpatterns]
    · rw [hitems]
      cases node'.get? "items" with
      | none => exact .none
      | some v => exact .some (.refl ctx v)

/-- **Refactoring does not change what a schema compiles to.**  If nodes are related to nodes that
are alike, their references leading to related nodes again, then two new compilers, each on its own
store, succeed on related nodes with the same shape or both fail.  In particular a keyword that is
not recognised does not count. -/
theorem compileNode_of_related (store store' : Store) :
    (∀ R : Context → Json → Context → Json → Prop,
      (∀ ctx node ctx' node', R ctx node ctx' node' → Alike store store' R ctx node ctx' node') →
      ∀ ctx node ctx' node', ctx.Arises store → ctx'.Arises store' → R ctx node ctx' node' →
        SameSuccess (({} : Compiler).run (Compiler.compileNode store ctx node)).1
          (({} : Compiler).run (Compiler.compileNode store' ctx' node')).1) ∧
    ∀ ctx node node', ctx.Arises store →
      (∀ key ∈ recognised, node.get? key = node'.get? key) →
      SameSuccess (({} : Compiler).run (Compiler.compileNode store ctx node)).1
        (({} : Compiler).run (Compiler.compileNode store ctx node')).1 := by
  constructor
  · intro R hR ctx node ctx' node' hctx hctx' h
    exact sameSuccess_of_related hR hctx hctx' h
  · intro ctx node node' hctx h
    exact sameSuccess_of_related (R := SameKeywords) (fun _ _ _ _ h => h.alike) hctx hctx ⟨rfl, h⟩

/-! ## Circles of two and of one -/

def rightDocument : Json := .object [("y", refTo "left.json#/x")]

/-- The entrance to the two files in a circle, with a single reference to itself in their place. -/
def loop : Json :=
  .object [("title", .string "loop"), ("properties", .object [("p", refTo "#/x")]),
    ("type", .array [.string "object"]), ("x", refTo "#/x")]

inductive Unrolled : Context → Json → Context → Json → Prop where
  | whole : Unrolled (.ofDocument entrance "s") entrance (.ofDocument loop "") loop
  | property : Unrolled (.ofDocument entrance "s") (refTo "left.json#/x")
      (.ofDocument loop "") (refTo "#/x")
  | left : Unrolled (.ofFile leftDocument ⟨["s", "left.json"]⟩) (refTo "right.json#/y")
      (.ofDocument loop "") (refTo "#/x")
  | right : Unrolled (.ofFile rightDocument ⟨["s", "right.json"]⟩) (refTo "left.json#/x")
      (.ofDocument loop "") (refTo "#/x")

theorem Unrolled.alike (h : Unrolled ctx node ctx' node') :
    Alike circle (.empty "/") Unrolled ctx node ctx' node' := by
  have hloop : LeadsFrom (.empty "/") (.ofDocument loop "") (.string "#/x")
      ⟨refTo "#/x", .ofDocument loop "", "/x"⟩ := ⟨_, rfl, rfl⟩
  cases h with
  | whole =>
    refine .keywords rfl rfl ⟨rfl, fun _ => ⟨?_, ?_, ?_, ?_⟩, fun h => by cases h⟩
    · exact Iff.rfl
    · exact Iff.rfl
    · exact .cons ⟨rfl, .property⟩ .nil
    · exact .nil
  | property =>
    have hleft : LeadsFrom circle (.ofDocument entrance "s") (.string "left.json#/x")
        ⟨refTo "right.json#/y", .ofFile leftDocument ⟨["s", "left.json"]⟩, "/x"⟩ := ⟨_, rfl, rfl⟩
    exact .references rfl rfl hleft hloop .left
  | left =>
    have hright : LeadsFrom circle (.ofFile leftDocument ⟨["s", "left.json"]⟩)
        (.string "right.json#/y")
        ⟨refTo "left.json#/x", .ofFile rightDocument ⟨["s", "right.json"]⟩, "/y"⟩ := ⟨_, rfl, rfl⟩
    exact .references rfl rfl hright hloop .right
  | right =>
    have hleft : LeadsFrom circle (.ofFile rightDocument ⟨["s", "right.json"]⟩)
        (.string "left.json#/x")
        ⟨refTo "right.json#/y", .ofFile leftDocument ⟨["s", "left.json"]⟩, "/x"⟩ := ⟨_, rfl, rfl⟩
    exact .references rfl rfl hleft hloop .left

/-! ## One room and two copies of it -/

def copiedRoom : Json :=
  .object [("patternProperties", .object [("^w", refTo "#/wall")]),
    ("type", .array [.string "array", .string "object"])]

def wall : Json := .object [("title", .string "wall")]

/-- The suite in one document, with a room for each of its sides. -/
def copies : Json :=
  .object [("type", .string "object"),
    ("properties", .object [("east", refTo "#/blue"), ("west", refTo "#/green")]),
    ("blue", copiedRoom), ("green", copiedRoom), ("wall", wall)]

inductive Copied : Context → Json → Context → Json → Prop where
  | whole : Copied (.ofDocument entrance "s") suite (.ofDocument copies "") copies
  | east : Copied (.ofDocument entrance "s") (refTo "room.json")
      (.ofDocument copies "") (refTo "#/blue")
  | west : Copied (.ofDocument entrance "s") (refTo "room.json")
      (.ofDocument copies "") (refTo "#/green")
  | inside : Copied room roomDocument (.ofDocument copies "") copiedRoom
  | outlook : Copied room (refTo "left.json") (.ofDocument copies "") (refTo "#/wall")
  | outside : Copied (.ofFile leftDocument ⟨["s", "left.json"]⟩) leftDocument
      (.ofDocument copies "") wall

theorem Copied.alike (h : Copied ctx node ctx' node') :
    Alike circle (.empty "/") Copied ctx node ctx' node' := by
  have hroom : LeadsFrom circle (.ofDocument entrance "s") (.string "room.json")
      ⟨roomDocument, room, ""⟩ := ⟨_, rfl, resolve_room⟩
  cases h with
  | whole =>
    refine .keywords rfl rfl ⟨rfl, fun _ => ⟨?_, ?_, ?_, ?_⟩, fun h => by cases h⟩
    · exact Iff.rfl
    · exact Iff.rfl
    · exact .cons ⟨rfl, .east⟩ (.cons ⟨rfl, .west⟩ .nil)
    · exact .nil
  | east =>
    have hblue : LeadsFrom (.empty "/") (.ofDocument copies "") (.string "#/blue")
        ⟨copiedRoom, .ofDocument copies "", "/blue"⟩ := ⟨_, rfl, rfl⟩
    exact .references rfl rfl hroom hblue .inside
  | west =>
    have hgreen : LeadsFrom (.empty "/") (.ofDocument copies "") (.string "#/green")
        ⟨copiedRoom, .ofDocument copies "", "/green"⟩ := ⟨_, rfl, rfl⟩
    exact .references rfl rfl hroom hgreen .inside
  | inside =>
    have htypes : TypeSet.ofSchema roomDocument = TypeSet.ofSchema copiedRoom := by
      ext name
      cases name <;> rfl
    refine .keywords rfl rfl ⟨htypes, fun _ => ⟨?_, ?_, ?_, ?_⟩, fun _ => .none⟩
    · exact Iff.rfl
    · exact Iff.rfl
    · exact .nil
    · exact .cons ⟨rfl, .outlook⟩ .nil
  | outlook =>
    have hleft : LeadsFrom circle room (.string "left.json")
        ⟨leftDocument, .ofFile leftDocument ⟨["s", "left.json"]⟩, ""⟩ := ⟨_, rfl, rfl⟩
    have hwall : LeadsFrom (.empty "/") (.ofDocument copies "") (.string "#/wall")
        ⟨wall, .ofDocument copies "", "/wall"⟩ := ⟨_, rfl, rfl⟩
    exact .references rfl rfl hleft hwall .outside
  | outside => exact .keywords rfl rfl ⟨rfl, fun h => (by cases h), fun h => by cases h⟩

/-- The entrance goes with the loop, and the suite with its copy.  The latter two have one shape,
whose record type holds the record type of the room twice. -/
theorem compileNode_unrolled :
    (∀ ctx node ctx' node', Unrolled ctx node ctx' node' →
      Alike circle (.empty "/") Unrolled ctx node ctx' node') ∧
    (Context.ofDocument entrance "s").Arises circle ∧
    (Context.ofDocument loop "").Arises (.empty "/") ∧
    Unrolled (.ofDocument entrance "s") entrance (.ofDocument loop "") loop ∧
    SameSuccess
      (({} : Compiler).run (Compiler.compileNode circle (.ofDocument entrance "s") entrance)).1
      (({} : Compiler).run (Compiler.compileNode (.empty "/") (.ofDocument loop "") loop)).1 ∧
    (∀ ctx node ctx' node', Copied ctx node ctx' node' →
      Alike circle (.empty "/") Copied ctx node ctx' node') ∧
    (Context.ofDocument copies "").Arises (.empty "/") ∧
    Copied (.ofDocument entrance "s") suite (.ofDocument copies "") copies ∧
    (({} : Compiler).run (Compiler.compileNode circle (.ofDocument entrance "s") suite)).1 =
      .ok ⟨some suiteType, none⟩ ∧
    (({} : Compiler).run (Compiler.compileNode (.empty "/") (.ofDocument copies "") copies)).1 =
      .ok ⟨some suiteType, none⟩ := by
  have hunrolled : ∀ ctx node ctx' node', Unrolled ctx node ctx' node' →
      Alike circle (.empty "/") Unrolled ctx node ctx' node' := fun _ _ _ _ h => h.alike
  have hcopied : ∀ ctx node ctx' node', Copied ctx node ctx' node' →
      Alike circle (.empty "/") Copied ctx node ctx' node' := fun _ _ _ _ h => h.alike
  have hctx : (Context.ofDocument entrance "s").Arises circle := Or.inl ⟨_, _, rfl⟩
  have hloop : (Context.ofDocument loop "").Arises (.empty "/") := Or.inl ⟨_, _, rfl⟩
  have hcopies : (Context.ofDocument copies "").Arises (.empty "/") := Or.inl ⟨_, _, rfl⟩
  obtain ⟨hrelated, -⟩ := compileNode_of_related circle (.empty "/")
  have hsuite : (({} : Compiler).run
      (Compiler.compileNode circle (.ofDocument entrance "s") suite)).1 =
        .ok ⟨some suiteType, none⟩ :=
    (run_compileNode_eq_ok_iff hctx).2 (expandsToRecord_suite.expands rfl rfl rfl)
  have hsame := hrelated Copied hcopied _ _ _ _ hctx hcopies .whole
  refine ⟨hunrolled, hctx, hloop, .whole,
    hrelated Unrolled hunrolled _ _ _ _ hctx hloop .whole, hcopied, hcopies, .whole, hsuite, ?_⟩
  rw [hsuite] at hsame
  obtain ⟨s, hs, hs'⟩ | ⟨e, _, he, -⟩ := hsame
  · rw [hs', hs]
  · cases he

end JsonRecords
