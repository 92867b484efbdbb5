import JsonRecords.Record.Schema

/-!
# The descent through a schema

`shapeOf` descends through a schema and asks `follow` about every reference it meets.  This module
opens the descent once: `nodeForm` lists the forms a node can have, and for each of them there is an
equation for `shapeOf`.

The references that are met are the `Json.Mentions`: those in the node itself, or in the nodes below
it that its types make the descent visit.  Nothing else matters to a descent.  If two of them, in
whatever monads, have related answers to the mentioned references, then their results are related
(`Simulation.shapeOf`).
-/

namespace JsonRecords

/-! ## The nodes below a node -/

namespace Json

/-- The nodes directly below an object schema. -/
def nodesOfObject (node : Json) : List Json :=
  (node.keywordMembers "properties").map Prod.snd ++
    (node.keywordMembers "patternProperties").map Prod.snd

/-- The nodes directly below a node that its types make it say something about. -/
def nodesBelow (node : Json) : List Json :=
  (if (TypeSet.ofSchema node).contains .object then node.nodesOfObject else []) ++
    (if (TypeSet.ofSchema node).contains .array then (node.get? "items").toList else [])

theorem isObject_of_get?_eq_some {node v : Json} {key : String} (h : node.get? key = some v) :
    node.isObject = true := by
  cases node with
  | object ms => rfl
  | _ => simp [get?, members] at h

theorem sizeOf_lt_of_mem_nodesOfObject {node v : Json} (h : v ∈ node.nodesOfObject) :
    sizeOf v < sizeOf node := by
  simp only [nodesOfObject, List.mem_append, List.mem_map] at h
  obtain ⟨e, he, rfl⟩ | ⟨e, he, rfl⟩ := h
  · exact sizeOf_lt_of_mem_keywordMembers he
  · exact sizeOf_lt_of_mem_keywordMembers he

theorem sizeOf_lt_of_mem_nodesBelow {node v : Json} (h : v ∈ node.nodesBelow) :
    sizeOf v < sizeOf node := by
  rw [nodesBelow, List.mem_append] at h
  rcases h with h | h
  · split at h
    · exact sizeOf_lt_of_mem_nodesOfObject h
    · simp at h
  · split at h
    · exact sizeOf_lt_of_get?_eq_some (Option.mem_toList.1 h)
    · simp at h

/-- The references met in the descent through a node, which ends at nodes that are references. -/
inductive Mentions : Json → String → Prop where
  | here {node : Json} {text : String} (href : node.get? "$ref" = some (.string text)) :
      Mentions node text
  | nested {node v : Json} {text : String} (href : node.get? "$ref" = none)
      (hv : v ∈ node.nodesBelow) (h : Mentions v text) : Mentions node text

theorem Mentions.eq_of_reference {node : Json} {text other : String}
    (href : node.get? "$ref" = some (.string text)) (h : node.Mentions other) : other = text := by
  cases h with
  | here h => simpa [href, eq_comm] using h
  | nested h _ _ => rw [href] at h; cases h

theorem Mentions.isObject {node : Json} {text : String} (h : node.Mentions text) :
    node.isObject = true := by
  cases h with
  | here h => exact isObject_of_get?_eq_some h
  | nested href hv h =>
    cases node with
    | object ms => rfl
    | _ => simp [nodesBelow, nodesOfObject, keywordMembers, get?, members] at hv

end Json

open Json

/-! ## The descent without its proofs of descent -/

section

variable {m : Type → Type} [Monad m] [MonadExceptOf SchemaError m]

def readFields (read : Json → m Shape) (members : List (String × Json)) :
    m (List (String × Shape)) :=
  members.mapM fun e => do return (e.1, ← read e.2)

def readPatterns (read : Json → m Shape) (members : List (String × Json)) :
    m (List (Pattern × Shape)) :=
  members.mapM fun e => do
    let p ← readPattern e.1
    return (p, ← read e.2)

variable (follow : String → m Shape) (node : Json)

/-- The record type of a node, if its types include `object`. -/
def recordPart : m (Option RecordType) :=
  if (TypeSet.ofSchema node).contains .object then some <$> recordTypeOf follow node else pure none

/-- The shape of the items of a node, if its types include `array`. -/
def itemsPart : m (Option Shape) :=
  if (TypeSet.ofSchema node).contains .array then some <$> itemsOf follow node else pure none

theorem itemsOf_eq :
    itemsOf follow node = match node.get? "items" with
      | some v => shapeOf follow v
      | none => pure .plain := by
  unfold itemsOf itemsWith
  split <;> rename_i h <;> simp only [h]

theorem shapeOf_of_not_isObject (h : node.isObject = false) :
    shapeOf follow node = pure .plain := by
  rw [shapeOf, if_neg (by simp [h])]

theorem shapeOf_of_reference {text : String} (href : node.get? "$ref" = some (.string text)) :
    shapeOf follow node = follow text := by
  rw [shapeOf, if_pos (isObject_of_get?_eq_some href)]
  simp only [href]

theorem shapeOf_of_malformed {v : Json} (href : node.get? "$ref" = some v)
    (hv : ∀ text, v ≠ .string text) :
    shapeOf follow node = throw (.invalid (.malformedReference v.kind)) := by
  rw [shapeOf, if_pos (isObject_of_get?_eq_some href)]
  cases v with
  | string text => exact absurd rfl (hv text)
  | _ => simp only [href]

variable [LawfulMonad m]

theorem recordTypeOf_eq :
    recordTypeOf follow node = do
      let fields ← readFields (shapeOf follow) (node.keywordMembers "properties")
      let patterns ← readPatterns (shapeOf follow) (node.keywordMembers "patternProperties")
      return {
        allowsAdditional := allowsAdditional node
        additionalExplicit := statesAdditional node
        fields
        patterns } := by
  unfold recordTypeOf recordTypeWith readFields readPatterns
  rw [List.mapM_subtype (g := fun e => do return (e.1, ← shapeOf follow e.2)) (fun _ _ => rfl),
    List.mapM_subtype (g := fun e => do
      let p ← readPattern e.1
      return (p, ← shapeOf follow e.2)) (fun _ _ => rfl),
    List.unattach_attach, List.unattach_attach]

theorem shapeOf_of_keywords (hobject : node.isObject = true) (href : node.get? "$ref" = none) :
    shapeOf follow node = do
      let record ← recordPart follow node
      let items ← itemsPart follow node
      return { record, items } := by
  rw [shapeOf, if_pos hobject]
  simp only [href, recordPart, itemsPart, recordTypeOf, itemsOf]
  split <;> split <;> simp only [map_eq_pure_bind, bind_assoc, pure_bind]

end

/-! ## The forms of nodes and documents -/

/-- The four forms of a node: what is no object, a reference, a malformed reference, and a node that
its keywords describe. -/
theorem nodeForm (node : Json) :
    node.isObject = false ∨ (∃ text, node.get? "$ref" = some (.string text)) ∨
      (∃ v, node.get? "$ref" = some v ∧ ∀ text, v ≠ .string text) ∨
      (node.isObject = true ∧ node.get? "$ref" = none) := by
  cases hobject : node.isObject with
  | false => exact Or.inl rfl
  | true =>
    cases href : node.get? "$ref" with
    | none => exact Or.inr (Or.inr (Or.inr ⟨rfl, rfl⟩))
    | some v =>
      cases v with
      | string text => exact Or.inr (Or.inl ⟨text, rfl⟩)
      | _ => exact Or.inr (Or.inr (Or.inl ⟨_, rfl, by simp⟩))

/-- What a document has to be like to be the schema of a record. -/
structure IsRecordSchema (document : Json) : Prop where
  object : (TypeSet.ofSchema document).contains .object = true
  properties : ∀ v, document.get? "properties" = some v → v.isObject = true

/-- A document either is no schema of a record and is refused, or it is an object schema. -/
theorem rootForm {m : Type → Type} [Monad m] [MonadExceptOf SchemaError m]
    (follow : String → m Shape) (ctx : Context) :
    (IsRecordSchema ctx.document ∧ rootTypeOf follow ctx = recordTypeOf follow ctx.document) ∨
      (¬ IsRecordSchema ctx.document ∧ ∃ e, rootTypeOf follow ctx = throw (.invalid e)) := by
  unfold rootTypeOf
  dsimp only
  split
  · rename_i hobject
    exact Or.inr ⟨fun h => by simp [h.object] at hobject, _, rfl⟩
  · rename_i hobject
    have hobject : (TypeSet.ofSchema ctx.document).contains .object = true := by
      simpa using hobject
    split
    · rename_i hproperties
      refine Or.inr ⟨fun h => ?_, _, rfl⟩
      cases hv : ctx.document.get? "properties" with
      | none => simp [hv] at hproperties
      | some v => simp [hv, h.properties v hv] at hproperties
    · rename_i hproperties
      refine Or.inl ⟨⟨hobject, fun v hv => ?_⟩, rfl⟩
      simpa [hv] using hproperties

/-! ## Related descents -/

/-- A relation between computations of two monads that is kept by returning a value, by finding a
schema invalid and by going on in related ways.  A descent raises no other errors of its own. -/
structure Simulation (m n : Type → Type) [Monad m] [MonadExceptOf SchemaError m]
    [Monad n] [MonadExceptOf SchemaError n] where
  rel : {α : Type} → m α → n α → Prop
  pure : {α : Type} → (a : α) → rel (Pure.pure a) (Pure.pure a)
  raise : {α : Type} → (e : InvalidSchema) →
    rel (α := α) (throw (SchemaError.invalid e)) (throw (SchemaError.invalid e))
  bind : {α β : Type} → {x : m α} → {y : n α} → {f : α → m β} → {g : α → n β} →
    rel x y → (∀ a, rel (f a) (g a)) → rel (x >>= f) (y >>= g)

namespace Simulation

variable {m n : Type → Type} [Monad m] [MonadExceptOf SchemaError m]
  [Monad n] [MonadExceptOf SchemaError n] (S : Simulation m n)

theorem readPattern (text : String) :
    S.rel (JsonRecords.readPattern text) (JsonRecords.readPattern text) := by
  unfold JsonRecords.readPattern
  split
  · exact S.pure _
  · exact S.raise _

variable {f : String → m Shape} {g : String → n Shape} {node : Json}

theorem itemsOf (h : ∀ v, node.get? "items" = some v → S.rel (shapeOf f v) (shapeOf g v)) :
    S.rel (itemsOf f node) (itemsOf g node) := by
  rw [itemsOf_eq, itemsOf_eq]
  cases hv : node.get? "items" with
  | none => exact S.pure _
  | some v => exact h v hv

variable [LawfulMonad m] [LawfulMonad n]

theorem map {α β : Type} {x : m α} {y : n α} (f : α → β) (h : S.rel x y) :
    S.rel (f <$> x) (f <$> y) := by
  rw [map_eq_pure_bind, map_eq_pure_bind]
  exact S.bind h fun a => S.pure (f a)

theorem mapM {α β : Type} {f : α → m β} {g : α → n β} {l : List α}
    (h : ∀ a ∈ l, S.rel (f a) (g a)) : S.rel (l.mapM f) (l.mapM g) := by
  induction l with
  | nil => exact S.pure []
  | cons a rest ih =>
    rw [List.mapM_cons, List.mapM_cons]
    refine S.bind (h a List.mem_cons_self) fun b => ?_
    exact S.bind (ih fun a' ha' => h a' (List.mem_cons_of_mem _ ha')) fun bs => S.pure (b :: bs)

theorem recordTypeOf (h : ∀ v ∈ node.nodesOfObject, S.rel (shapeOf f v) (shapeOf g v)) :
    S.rel (recordTypeOf f node) (recordTypeOf g node) := by
  have hfields : ∀ e ∈ node.keywordMembers "properties", S.rel (shapeOf f e.2) (shapeOf g e.2) :=
    fun e he => h e.2 (List.mem_append_left _ (List.mem_map_of_mem he))
  have hpatterns : ∀ e ∈ node.keywordMembers "patternProperties",
      S.rel (shapeOf f e.2) (shapeOf g e.2) :=
    fun e he => h e.2 (List.mem_append_right _ (List.mem_map_of_mem he))
  rw [recordTypeOf_eq, recordTypeOf_eq]
  refine S.bind (S.mapM fun e he => S.bind (hfields e he) fun s => S.pure _) fun fields => ?_
  refine S.bind (S.mapM fun e he => ?_) fun patterns => S.pure _
  exact S.bind (S.readPattern e.1) fun p => S.bind (hpatterns e he) fun s => S.pure _

theorem rootTypeOf {ctx : Context}
    (h : ∀ v ∈ ctx.document.nodesOfObject, S.rel (shapeOf f v) (shapeOf g v)) :
    S.rel (rootTypeOf f ctx) (rootTypeOf g ctx) := by
  unfold JsonRecords.rootTypeOf
  dsimp only
  split
  · exact S.raise _
  · split
    · exact S.raise _
    · exact S.recordTypeOf h

/-- Descents whose answers to the mentioned references are related have related results. -/
theorem shapeOf (h : ∀ text, node.Mentions text → S.rel (f text) (g text)) :
    S.rel (shapeOf f node) (shapeOf g node) := by
  -- the nodes below mention no other references, and they are smaller
  induction hsize : sizeOf node using Nat.strongRecOn generalizing node with
  | _ size ih =>
    subst hsize
    rcases nodeForm node with hobject | ⟨text, href⟩ | ⟨v, href, hv⟩ | ⟨hobject, href⟩
    · rw [shapeOf_of_not_isObject f node hobject, shapeOf_of_not_isObject g node hobject]
      exact S.pure _
    · rw [shapeOf_of_reference f node href, shapeOf_of_reference g node href]
      exact h text (.here href)
    · rw [shapeOf_of_malformed f node href hv, shapeOf_of_malformed g node href hv]
      exact S.raise _
    · have hbelow : ∀ v ∈ node.nodesBelow,
          S.rel (JsonRecords.shapeOf f v) (JsonRecords.shapeOf g v) := fun v hv =>
        ih _ (sizeOf_lt_of_mem_nodesBelow hv) (fun text ht => h text (.nested href hv ht)) rfl
      rw [shapeOf_of_keywords f node hobject href, shapeOf_of_keywords g node hobject href]
      refine S.bind ?_ fun record => S.bind ?_ fun items => S.pure _
      · unfold recordPart
        split
        · rename_i ht
          exact S.map some (S.recordTypeOf fun v hv => hbelow v (by simp [nodesBelow, ht, hv]))
        · exact S.pure _
      · unfold itemsPart
        split
        · rename_i ht
          exact S.map some (S.itemsOf fun v hv => hbelow v (by simp [nodesBelow, ht, hv]))
        · exact S.pure _

end Simulation

end JsonRecords
