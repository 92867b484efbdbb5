import JsonRecords.Proofs.FiniteExpansion
import JsonRecords.Proofs.BindingDescent

/-!
# Binding by the schema itself

A value can be bound without compiling anything: descend through the value and the schema together,
and at each node follow its references to where they end, read the keywords there, and go on.
`bindAt` does so.  It gives no type to the records it makes (`BareValue`), and where the references
at hand have no end (`arrive`) it gives nothing.

The two ways agree (`bind_eq_bindDocument`): a schema that compiles binds every value as the direct
binder does, which then always has an outcome.  A compiled type tree is thus nothing but the schema
with its references followed beforehand.

What they share is the outline of a node.  The policy of a record type is the one its keywords state
(`OutlinesRecord.policy_eq_closed_iff`), and the shape of a key is the expansion of the schema that
the keywords find for it (`schemaFor?_rel`).
-/

namespace JsonRecords

open Json

variable {store : Store} {home root ctx : Context} {path : List Target} {node : Json}
  {text : String} {r : Resolved} {s : Shape} {t : RecordType}

/-! ## Bound values without types -/

inductive BareValue where
  | record (fields : List (String × BareValue))
  | list (items : List BareValue)
  | raw (value : Json)

mutual

/-- The bound value without the types of its records. -/
def BoundValue.bare : BoundValue → BareValue
  | .record r => .record r.bare
  | .list items => .list (bareItems items)
  | .raw v => .raw v

def Record.bare : Record → List (String × BareValue)
  | ⟨_, fields⟩ => bareFields fields

def bareItems : List BoundValue → List BareValue
  | [] => []
  | b :: rest => b.bare :: bareItems rest

def bareFields : List (String × BoundValue) → List (String × BareValue)
  | [] => []
  | (name, b) :: rest => (name, b.bare) :: bareFields rest

end

theorem bareFields_eq_map (fields : List (String × BoundValue)) :
    bareFields fields = fields.map fun e => (e.1, e.2.bare) := by
  induction fields with
  | nil => rfl
  | cons e rest ih =>
    rw [List.map_cons, ← ih]
    rfl

theorem bareItems_eq_map (items : List BoundValue) :
    bareItems items = items.map BoundValue.bare := by
  induction items with
  | nil => rfl
  | cons b rest ih =>
    rw [List.map_cons, ← ih]
    rfl

theorem lookup_bareFields (fields : List (String × BoundValue)) (name : String) :
    (bareFields fields).lookup name = (fields.lookup name).map BoundValue.bare := by
  rw [bareFields_eq_map]
  exact Association.lookup_map_values (fun _ b => b.bare) fields name

/-! ## The direct binder -/

/-- Where the references that begin at a node end: at a node that is no reference, in its context.
There is no such place if one of them leads nowhere or is no string, nor if one leads to a target on
`path`, where they have been before. -/
def arriveAlong (store : Store) (root : Context) (path : List Target) (ctx : Context)
    (hctx : ctx ∈ root :: store.documents) (node : Json) : Option (Context × Json) :=
  match node.get? "$ref" with
  | none => some (ctx, node)
  | some (.string text) =>
    match hr : resolve store text ctx with
    | .error _ => none
    | .ok r =>
      if hp : r.target ∈ path then none
      else
        have := targetsLeft_lt hctx hr hp
        arriveAlong store root (r.target :: path) r.context (mem_contexts_of_resolve hctx hr) r.node
  | some _ => none
termination_by targetsLeft (store.targetsFrom root) path

def arrive (store : Store) (ctx : Context) (node : Json) : Option (Context × Json) :=
  arriveAlong store ctx [] ctx (mem_contexts_self store ctx) node

/-- An object schema is closed if it refuses additional properties, or has pattern properties and
says nothing about additional ones. -/
def isClosed (node : Json) : Bool :=
  match node.get? "additionalProperties" with
  | some (.bool false) => true
  | some _ => false
  | none => !(node.keywordMembers "patternProperties").isEmpty

def textMatches (text key : String) : Bool :=
  match Pattern.ofText? text with
  | some p => p.accepts key
  | none => false

/-- The schema of the first pattern property that a key matches. -/
def matchingSchema? (node : Json) (key : String) : Option Json :=
  ((node.keywordMembers "patternProperties").find? fun e => textMatches e.1 key).map Prod.snd

/-- The schema of a key: that of the property, else that of the first pattern it matches. -/
def schemaFor? (node : Json) (key : String) : Option Json :=
  ((node.keywordMembers "properties").lookup key).or (matchingSchema? node key)

/-- The fields of a record, given all members of the object with their bound values. -/
def exposed (node : Json) (bound : List (String × BareValue)) : List (String × BareValue) :=
  let properties := Association.keys (node.keywordMembers "properties")
  if isClosed node then
    (properties.map fun name => (name, (bound.lookup name).getD (.raw .null))) ++
      bound.filter fun e => !properties.contains e.1 && (matchingSchema? node e.1).isSome
  else bound

mutual

/-- A value bound by a node in a context. -/
def bindAt (store : Store) (ctx : Context) (node : Json) : Json → Option BareValue
  | .object ms => do
    let (ctx', node') ← arrive store ctx node
    if (TypeSet.ofSchema node').contains .object then
      return .record (exposed node' (← bindMembersAt store ctx' node' ms))
    else return .raw (.object ms)
  | .array vs => do
    let (ctx', node') ← arrive store ctx node
    if (TypeSet.ofSchema node').contains .array then
      return .list (← bindItemsAt store ctx' (node'.get? "items") vs)
    else return .raw (.array vs)
  | v => return .raw v

/-- The members of an object, each bound by the schema that an object schema has for its key. -/
def bindMembersAt (store : Store) (ctx : Context) (node : Json) :
    List (String × Json) → Option (List (String × BareValue))
  | [] => return []
  | (key, v) :: rest => do
    let b ← match schemaFor? node key with
      | some below => bindAt store ctx below v
      | none => some (.raw v)
    return (key, b) :: (← bindMembersAt store ctx node rest)

def bindItemsAt (store : Store) (ctx : Context) (items : Option Json) :
    List Json → Option (List BareValue)
  | [] => return []
  | v :: rest => do
    let b ← match items with
      | some below => bindAt store ctx below v
      | none => some (.raw v)
    return b :: (← bindItemsAt store ctx items rest)

end

/-- A whole value bound by the document of a context, which is taken as an object schema. -/
def bindDocument (store : Store) (ctx : Context) :
    Json → Option (Except BindError (List (String × BareValue)))
  | .object ms => do return .ok (exposed ctx.document (← bindMembersAt store ctx ctx.document ms))
  | v => return .error (.expectedObject v.kind)

/-! ## Where references end -/

theorem arriveAlong_of_none (hctx : ctx ∈ root :: store.documents)
    (href : node.get? "$ref" = none) :
    arriveAlong store root path ctx hctx node = some (ctx, node) := by
  rw [arriveAlong]
  simp only [href]

theorem arriveAlong_of_reference (hctx : ctx ∈ root :: store.documents)
    (href : node.get? "$ref" = some (.string text)) (hr : resolve store text ctx = .ok r)
    (hp : r.target ∉ path) :
    arriveAlong store root path ctx hctx node =
      arriveAlong store root (r.target :: path) r.context (mem_contexts_of_resolve hctx hr)
        r.node := by
  rw [arriveAlong]
  simp only [href]
  split
  · rename_i e he
    rw [hr] at he
    cases he
  · rename_i r' hr'
    obtain rfl := Except.ok.inj (hr.symm.trans hr')
    rw [dif_neg hp]

/-- The references of a node with an expansion end, and the expansion is the one of the node where
they do. -/
theorem arriveAlong_of_expands (hhome : home.source = none) (habout : ctx.IsAbout store home)
    (hctx : ctx ∈ root :: store.documents) (h : Expands store ctx node s)
    (hpath : ∀ text r, node.get? "$ref" = some (.string text) → resolve store text ctx = .ok r →
      Awaits store home path r) :
    ∃ ctx' node', arriveAlong store root path ctx hctx node = some (ctx', node') ∧
      ctx'.IsAbout store home ∧ Outlines node' s ∧
      ∀ p ∈ parts node' s, Expands store ctx' p.1 p.2 := by
  induction h generalizing path with
  | @noObject ctx node hobject =>
    have href : node.get? "$ref" = none := by
      cases node with
      | object ms => cases hobject
      | _ => rfl
    refine ⟨ctx, node, arriveAlong_of_none hctx href, habout, outlines_of_not_isObject hobject, ?_⟩
    simp [parts, Shape.plain]
  | @reference ctx node text r s href hr h ih =>
    have hrAbout := habout.resolve hr
    have hawaits := hpath text r href hr
    have hp : r.target ∉ path := hawaits.not_mem hhome hrAbout h.acc
    rw [arriveAlong_of_reference hctx href hr hp]
    refine ih hrAbout.context _ fun text' r' href' hr' => ?_
    exact hawaits.cons hrAbout ⟨text', .here href', hr'⟩
  | @keywords ctx node s hobject href outline each ih =>
    exact ⟨ctx, node, arriveAlong_of_none hctx href, habout, outline, each⟩

theorem arrive_of_expands (hhome : home.source = none) (habout : ctx.IsAbout store home)
    (h : Expands store ctx node s) :
    ∃ ctx' node', arrive store ctx node = some (ctx', node') ∧ ctx'.IsAbout store home ∧
      Outlines node' s ∧ ∀ p ∈ parts node' s, Expands store ctx' p.1 p.2 :=
  arriveAlong_of_expands hhome habout _ h fun _ _ _ _ => Awaits.nil

/-! ## What an outline says about keys -/

theorem OutlinesRecord.policy_eq_closed_iff (h : OutlinesRecord node t) :
    t.policy = .closed ↔ isClosed node = true := by
  have hpatterns : t.patterns.isEmpty = (node.keywordMembers "patternProperties").isEmpty := by
    have hlength := congrArg List.length h.patterns
    simp only [List.length_map, Association.keys] at hlength
    rw [Bool.eq_iff_iff, List.isEmpty_iff_length_eq_zero, List.isEmpty_iff_length_eq_zero, hlength]
  have hclosed : t.policy = .closed ↔
      t.allowsAdditional = false ∨ t.patterns.isEmpty = false ∧ t.additionalExplicit = false := by
    unfold RecordType.policy
    cases t.allowsAdditional <;> cases t.patterns.isEmpty <;> cases t.additionalExplicit <;> simp
  have hexplicit : t.additionalExplicit = false ↔ node.get? "additionalProperties" = none := by
    rw [← Bool.not_eq_true, h.explicit, Classical.not_not]
  rw [hclosed, h.refuses, hexplicit, hpatterns, isClosed]
  split <;> simp_all

theorem textMatches_text (p : Pattern) (key : String) : textMatches p.text key = p.accepts key := by
  rw [textMatches, Pattern.ofText?_eq_some_iff.2 rfl]

/-- Two lists with the same keys and related values have related values of each key. -/
theorem lookup_rel {α β : Type} {R : α → β → Prop} {l : List (String × α)} {r : List (String × β)}
    (hkeys : r.map Prod.fst = Association.keys l)
    (hrel : ∀ p ∈ (l.map Prod.snd).zip (r.map Prod.snd), R p.1 p.2) (key : String) :
    Option.Rel R (l.lookup key) (r.lookup key) := by
  induction l generalizing r with
  | nil =>
    have hnil : r = [] := by simpa [Association.keys] using hkeys
    subst hnil
    exact .none
  | cons e rest ih =>
    cases r with
    | nil => cases hkeys
    | cons e' rest' =>
      obtain ⟨k, a⟩ := e
      obtain ⟨k', b⟩ := e'
      simp only [List.map_cons, Association.keys, List.cons.injEq] at hkeys
      obtain ⟨rfl, hkeys⟩ := hkeys
      simp only [List.map_cons, List.zip_cons_cons, List.forall_mem_cons] at hrel
      rw [List.lookup_cons, List.lookup_cons]
      cases key == k' with
      | true => exact .some hrel.1
      | false => exact ih hkeys hrel.2

/-- Patterns found by their texts have the shapes that stand in their places. -/
theorem find?_rel {R : Json → Shape → Prop} {l : List (String × Json)}
    {patterns : List (Pattern × Shape)}
    (htexts : patterns.map (·.1.text) = Association.keys l)
    (hrel : ∀ p ∈ (l.map Prod.snd).zip (patterns.map Prod.snd), R p.1 p.2) (key : String) :
    Option.Rel R ((l.find? fun e => textMatches e.1 key).map Prod.snd)
      ((patterns.find? fun p => p.1.accepts key).map Prod.snd) := by
  induction l generalizing patterns with
  | nil =>
    have hnil : patterns = [] := by simpa [Association.keys] using htexts
    subst hnil
    exact .none
  | cons e rest ih =>
    cases patterns with
    | nil => cases htexts
    | cons p patterns =>
      obtain ⟨text, v⟩ := e
      obtain ⟨pattern, s⟩ := p
      simp only [List.map_cons, Association.keys, List.cons.injEq] at htexts
      obtain ⟨rfl, htexts⟩ := htexts
      simp only [List.map_cons, List.zip_cons_cons, List.forall_mem_cons] at hrel
      rw [List.find?_cons, List.find?_cons, textMatches_text]
      cases pattern.accepts key with
      | true => exact .some hrel.1
      | false => exact ih htexts hrel.2

/-- The schema that the keywords find for a key expands to the shape of the key in the type. -/
theorem ExpandsToRecord.schemaFor?_rel (h : ExpandsToRecord store ctx node t) (key : String) :
    Option.Rel (Expands store ctx) (schemaFor? node key) (t.shapeOf? key) := by
  obtain ⟨outline, each⟩ := h
  rw [recordParts, List.forall_mem_append] at each
  have hproperty := lookup_rel outline.fields each.1 key
  have hpattern := find?_rel outline.patterns each.2 key
  unfold schemaFor? RecordType.shapeOf? RecordType.fieldShape?
  revert hproperty
  generalize (node.keywordMembers "properties").lookup key = a
  generalize t.fields.lookup key = b
  rintro (h | -)
  · exact .some h
  · exact hpattern

/-- A key matches a pattern of the type exactly if the keywords have a pattern for it. -/
theorem OutlinesRecord.isSome_firstMatch? (h : OutlinesRecord node t) (key : String) :
    (t.firstMatch? key).isSome = (matchingSchema? node key).isSome := by
  have hmatch := find?_rel (R := fun _ _ => True) h.patterns (fun _ _ => trivial) key
  have hmap : ((t.firstMatch? key).map Prod.snd).isSome = (t.firstMatch? key).isSome :=
    Option.isSome_map
  rw [← hmap, RecordType.firstMatch?, matchingSchema?]
  revert hmatch
  generalize ((node.keywordMembers "patternProperties").find? _).map Prod.snd = a
  generalize (t.patterns.find? _).map Prod.snd = b
  rintro (_ | _) <;> rfl

/-- A record type exposes the fields that the keywords of its schema expose. -/
theorem OutlinesRecord.bare_expose (h : OutlinesRecord node t)
    (bound : List (String × BoundValue)) :
    bareFields (t.expose bound) = exposed node (bareFields bound) := by
  have hnames : t.fieldNames = Association.keys (node.keywordMembers "properties") := h.fields
  have hadmits : ∀ key, t.admits key =
      (!(Association.keys (node.keywordMembers "properties")).contains key &&
        (matchingSchema? node key).isSome) := by
    intro key
    rw [RecordType.admits, RecordType.isDeclared, hnames, h.isSome_firstMatch?]
  have hdeclared : ∀ name, ((bareFields bound).lookup name).getD (.raw .null) =
      ((bound.lookup name).getD (.raw .null)).bare := by
    intro name
    rw [lookup_bareFields]
    cases bound.lookup name <;> rfl
  unfold RecordType.expose exposed
  cases hpolicy : t.policy with
  | open_ =>
    have hopen : isClosed node = false := by
      rw [← Bool.not_eq_true, ← h.policy_eq_closed_iff, hpolicy]
      intro hne
      cases hne
    simp only [hopen, Bool.false_eq_true, if_false]
  | closed =>
    have hclosed : isClosed node = true := h.policy_eq_closed_iff.1 hpolicy
    simp only [hclosed, if_true, hdeclared, hnames]
    simp only [bareFields_eq_map, List.map_append, List.map_map, List.filter_map, Function.comp_def,
      hadmits]

/-! ## Agreement -/

mutual

/-- Binding by an expansion is binding by the node. -/
theorem bindAt_of_expands {ctx : Context} {node : Json} {s : Shape} (hhome : home.source = none)
    (habout : ctx.IsAbout store home) (h : Expands store ctx node s) :
    ∀ v, bindAt store ctx node v = some (s.bind v).bare
  | .object ms => by
    obtain ⟨ctx', node', harrive, habout', outline, each⟩ := arrive_of_expands hhome habout h
    have htypes := outline.hasRecord
    rw [bindAt, harrive]
    cases ht : s.record with
    | none =>
      rw [ht] at htypes
      simp [← htypes, Shape.bind, ht, BoundValue.bare]
    | some t =>
      rw [ht] at htypes
      have hexpands : ExpandsToRecord store ctx' node' t := by
        refine ⟨outline.record t ht, fun p hp => each p ?_⟩
        simp [parts, ht, hp]
      simp [← htypes, Shape.bind, ht, BoundValue.bare, Record.bare, hexpands.1.bare_expose,
        bindMembersAt_of_expandsToRecord hhome habout' hexpands ms]
  | .array vs => by
    obtain ⟨ctx', node', harrive, habout', outline, each⟩ := arrive_of_expands hhome habout h
    have htypes := outline.hasItems
    rw [bindAt, harrive]
    cases hi : s.items with
    | none =>
      rw [hi] at htypes
      simp [← htypes, Shape.bind, hi, BoundValue.bare]
    | some i =>
      rw [hi] at htypes
      have hplain : node'.get? "items" = none → i = .plain := outline.items i hi
      have hitems : ∀ below, node'.get? "items" = some below → Expands store ctx' below i := by
        intro below hbelow
        refine each (below, i) ?_
        simp [parts, itemsParts, hi, hbelow]
      simp [← htypes, Shape.bind, hi, BoundValue.bare,
        bindItemsAt_of_expands hhome habout' hplain hitems vs]
  | .null => by rfl
  | .bool _ => by rfl
  | .number _ => by rfl
  | .string _ => by rfl

theorem bindMembersAt_of_expandsToRecord {ctx : Context} {node : Json} {t : RecordType}
    (hhome : home.source = none) (habout : ctx.IsAbout store home)
    (h : ExpandsToRecord store ctx node t) :
    ∀ ms, bindMembersAt store ctx node ms = some (bareFields (bindMembers t ms))
  | [] => rfl
  | (key, v) :: rest => by
    have hschema := h.schemaFor?_rel key
    have hrest := bindMembersAt_of_expandsToRecord hhome habout h rest
    rw [bindMembersAt, bindMembers, bareFields, hrest]
    generalize schemaFor? node key = below at hschema
    generalize t.shapeOf? key = s at hschema
    cases hschema with
    | none => simp [bind_plain, BoundValue.bare]
    | some hbelow => simp [bindAt_of_expands hhome habout hbelow v]

theorem bindItemsAt_of_expands {ctx : Context} {items : Option Json} {s : Shape}
    (hhome : home.source = none) (habout : ctx.IsAbout store home)
    (hnone : items = none → s = .plain)
    (hsome : ∀ below, items = some below → Expands store ctx below s) :
    ∀ vs, bindItemsAt store ctx items vs = some (bareItems (bindItems s vs))
  | [] => rfl
  | v :: rest => by
    have hrest := bindItemsAt_of_expands hhome habout hnone hsome rest
    cases items with
    | none =>
      simp [bindItemsAt, bindItems, bareItems, hrest, hnone rfl, bind_plain, BoundValue.bare]
    | some below =>
      have hbelow := bindAt_of_expands hhome habout (hsome below rfl) v
      simp [bindItemsAt, bindItems, bareItems, hrest, hbelow]

end

/-- A document that compiles binds values as its record type does. -/
theorem bindDocument_of_compileContext (hctx : ctx.Arises store)
    (h : compileContext store ctx = .ok t) (v : Json) :
    bindDocument store ctx v = some ((t.bind v).map Record.bare) := by
  obtain ⟨home, hhome, habout⟩ := hctx.exists_home
  obtain ⟨-, hexpands⟩ := (compileContext_eq_ok_iff hctx).1 h
  cases v with
  | object ms =>
    rw [bindDocument, bindMembersAt_of_expandsToRecord hhome habout hexpands ms]
    simp [RecordType.bind, RecordType.bindMembers, Except.map, Record.bare,
      hexpands.1.bare_expose]
  | _ => rfl

/-- **Compiling a schema and binding by it is binding by the schema itself.**  Whatever a document
or a file compiles to, it binds every value to the same fields as the direct binder does, in the
same order and with the same values, or refuses it for the same reason; and the references that the
direct binder follows for the value all come to an end. -/
theorem bind_eq_bindDocument (store : Store) :
    (∀ document baseDir t, compileDocument store document baseDir = .ok t →
      ∀ v, bindDocument store (.ofDocument document baseDir) v =
        some ((t.bind v).map Record.bare)) ∧
    (∀ rootDir path t, compileFile store rootDir path = .ok t →
      ∃ ctx, Context.load store path rootDir = .ok ctx ∧
        ∀ v, bindDocument store ctx v = some ((t.bind v).map Record.bare)) := by
  constructor
  · intro document baseDir t h v
    exact bindDocument_of_compileContext (Or.inl ⟨document, baseDir, rfl⟩) h v
  · intro rootDir path t h
    cases hload : Context.load store path rootDir with
    | error e =>
      unfold compileFile at h
      simp only [hload] at h
      cases h
    | ok ctx =>
      rw [compileFile_of_load hload] at h
      exact ⟨ctx, rfl, bindDocument_of_compileContext (Or.inr ⟨path, rootDir, hload⟩) h⟩

/-! ## A box with a lid -/

def boxText : String :=
  "\x7b\"type\":\"object\",\"properties\":\x7b\"lid\":\x7b\"$ref\":\"lid.json\"\x7d\x7d\x7d"

def lidText : String := "\x7b\"type\":\"array\"\x7d"

/-- One file refers to the other. -/
def shelf : Store where
  workDir := "/"
  entries := [(["s"], .directory), (["s", "box.json"], .text boxText),
    (["s", "lid.json"], .text lidText)]

def boxDocument : Json :=
  .object [("type", .string "object"),
    ("properties", .object [("lid", .object [("$ref", .string "lid.json")])])]

def lidDocument : Json := .object [("type", .string "array")]

def boxType : RecordType := ⟨true, false, [("lid", ⟨none, some .plain⟩)], []⟩

theorem load_box :
    Context.load shelf "box.json" "s" = .ok (.ofFile boxDocument ⟨["s", "box.json"]⟩) := by
  rfl

theorem isRecordSchema_box : IsRecordSchema boxDocument := by
  refine ⟨rfl, fun v hv => ?_⟩
  cases hv
  rfl

theorem expands_lid : Expands store ctx lidDocument ⟨none, some .plain⟩ := by
  refine .keywords rfl rfl ⟨rfl, rfl, by simp, by simp [OutlinesItems]⟩ ?_
  simp [parts, itemsParts, lidDocument, Json.get?, Json.members, List.lookup_cons]

theorem expandsToRecord_box
    (hr : resolve store "lid.json" ctx =
      .ok ⟨lidDocument, .ofFile lidDocument ⟨["s", "lid.json"]⟩, ""⟩) :
    ExpandsToRecord store ctx boxDocument boxType := by
  refine ⟨⟨?_, ?_, rfl, rfl⟩, ?_⟩
  · simp [boxType, boxDocument, Json.get?, Json.members, List.lookup_cons]
  · simp [boxType, boxDocument, Json.get?, Json.members, List.lookup_cons]
  · have hparts : recordParts boxDocument boxType =
        [(.object [("$ref", .string "lid.json")], ⟨none, some .plain⟩)] := by
      rfl
    rw [hparts, List.forall_mem_singleton]
    exact .reference rfl hr expands_lid

theorem bind_box :
    compileDocument shelf boxDocument "s" = .ok boxType ∧
    compileFile shelf "s" "box.json" = .ok boxType ∧
    (∀ v, bindDocument shelf (.ofDocument boxDocument "s") v =
      some ((boxType.bind v).map Record.bare)) ∧
    ∃ ctx, Context.load shelf "box.json" "s" = .ok ctx ∧
      ∀ v, bindDocument shelf ctx v = some ((boxType.bind v).map Record.bare) := by
  have hdocument : compileDocument shelf boxDocument "s" = .ok boxType := by
    have harises : (Context.ofDocument boxDocument "s").Arises shelf := Or.inl ⟨_, _, rfl⟩
    exact (compileContext_eq_ok_iff harises).2 ⟨isRecordSchema_box, expandsToRecord_box rfl⟩
  have hfile : compileFile shelf "s" "box.json" = .ok boxType := by
    have harises : (Context.ofFile boxDocument ⟨["s", "box.json"]⟩).Arises shelf :=
      Or.inr ⟨_, _, load_box⟩
    have hcompile :=
      (compileContext_eq_ok_iff harises).2 ⟨isRecordSchema_box, expandsToRecord_box rfl⟩
    exact (compileFile_of_load load_box).trans hcompile
  obtain ⟨hbind, hbindFile⟩ := bind_eq_bindDocument shelf
  exact ⟨hdocument, hfile, hbind _ _ _ hdocument, hbindFile _ _ _ hfile⟩

end JsonRecords
