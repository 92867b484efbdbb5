import JsonRecords.Proofs.Outline
import JsonRecords.Proofs.TargetIdentity

/-!
# Expansions of schemas

`Expands store ctx node s` says, without any compiler, that a node in a context stands for the shape
`s` once all of its references are replaced by what they lead to.  A derivation of it is a finite
tree, so a node whose references never come to an end has no expansion.

What makes the relation useful is that finite derivations leave no room for circles.  `IsNeededFor`
relates a reference to the ones that have to be followed for it, and `Expands.acc` turns a
derivation into a proof that this relation is well-founded below; nothing is then needed for itself
(`not_transGen_self`).

The two ways between descents and expansions are `expands_of_shapeOf` and `shapeOf_of_expands`: what
holds of the references mentioned in a node holds of the node.
-/

namespace JsonRecords

open Json Relation

variable {store : Store} {ctx : Context} {node : Json} {s : Shape} {t : RecordType}
  {text : String} {r : Resolved}

/-- The shape that a node in a context expands to.

* What is no object expands to the shape that says nothing.
* A reference expands to what the node it leads to expands to, in the context of that node.  One
  that is no string or leads nowhere leaves the node without an expansion.
* An object without a reference expands to a record type if its types include `object`, and to a
  list if they include `array`.  The record type has the properties as its fields and the pattern
  properties as its patterns, each with its expansion, in the order of the document. -/
inductive Expands (store : Store) : Context → Json → Shape → Prop where
  | noObject {ctx : Context} {node : Json} (hobject : node.isObject = false) :
      Expands store ctx node .plain
  | reference {ctx : Context} {node : Json} {text : String} {r : Resolved} {s : Shape}
      (href : node.get? "$ref" = some (.string text)) (hr : resolve store text ctx = .ok r)
      (h : Expands store r.context r.node s) : Expands store ctx node s
  | keywords {ctx : Context} {node : Json} {s : Shape} (hobject : node.isObject = true)
      (href : node.get? "$ref" = none) (outline : Outlines node s)
      (each : ∀ p ∈ parts node s, Expands store ctx p.1 p.2) : Expands store ctx node s

/-- The record type that a node expands to when it is taken as an object schema, whatever its types
and without regard to a reference on it. -/
def ExpandsToRecord (store : Store) (ctx : Context) (node : Json) (t : RecordType) : Prop :=
  OutlinesRecord node t ∧ ∀ p ∈ recordParts node t, Expands store ctx p.1 p.2

/-- A node without a reference has the expansions that its keywords allow. -/
theorem expands_of_outlines (href : node.get? "$ref" = none) (houtline : Outlines node s)
    (heach : ∀ p ∈ parts node s, Expands store ctx p.1 p.2) : Expands store ctx node s := by
  cases hobject : node.isObject with
  | true => exact .keywords hobject href houtline heach
  | false =>
    rw [houtline.eq_plain hobject]
    exact .noObject hobject

/-- The schema without keywords says nothing. -/
theorem expands_empty : Expands store ctx (.object []) .plain :=
  .keywords rfl rfl ⟨rfl, rfl, by simp [Shape.plain], by simp [Shape.plain]⟩
    (by simp [parts, Shape.plain])

theorem Expands.eq_plain (h : Expands store ctx node s) (hobject : node.isObject = false) :
    s = .plain := by
  cases h with
  | noObject => rfl
  | reference href =>
    rw [isObject_of_get?_eq_some href] at hobject
    cases hobject
  | keywords hno =>
    rw [hobject] at hno
    cases hno

theorem Expands.of_reference (h : Expands store ctx node s)
    (href : node.get? "$ref" = some (.string text)) (hr : resolve store text ctx = .ok r) :
    Expands store r.context r.node s := by
  cases h with
  | noObject hobject =>
    rw [isObject_of_get?_eq_some href] at hobject
    cases hobject
  | reference href' hr' h =>
    obtain rfl := Json.string.inj (Option.some.inj (href.symm.trans href'))
    obtain rfl := Except.ok.inj (hr.symm.trans hr')
    exact h
  | keywords _ hno =>
    rw [href] at hno
    cases hno

/-- Only a text can be followed. -/
theorem not_expands_of_malformed {v : Json} (href : node.get? "$ref" = some v)
    (hv : ∀ text, v ≠ .string text) : ¬ Expands store ctx node s := by
  intro h
  cases h with
  | noObject hobject =>
    rw [isObject_of_get?_eq_some href] at hobject
    cases hobject
  | reference href' =>
    rw [href] at href'
    exact hv _ (Option.some.inj href')
  | keywords _ hno =>
    rw [href] at hno
    cases hno

theorem Expands.of_keywords (h : Expands store ctx node s) (href : node.get? "$ref" = none) :
    Outlines node s ∧ ∀ p ∈ parts node s, Expands store ctx p.1 p.2 := by
  cases h with
  | noObject hobject => exact ⟨outlines_of_not_isObject hobject, by simp [parts, Shape.plain]⟩
  | reference href' =>
    rw [href] at href'
    cases href'
  | keywords _ _ outline each => exact ⟨outline, each⟩

/-! ## Nodes and object schemas -/

/-- The record type that a node expands to is what it expands to as an object schema. -/
theorem Expands.expandsToRecord (h : Expands store ctx node s) (href : node.get? "$ref" = none)
    (ht : s.record = some t) : ExpandsToRecord store ctx node t := by
  obtain ⟨outline, each⟩ := h.of_keywords href
  refine ⟨outline.record t ht, fun p hp => each p ?_⟩
  rw [parts, ht]
  exact List.mem_append_left _ (by simpa using hp)

/-- An object schema that is no array schema expands to its record type and to no list. -/
theorem ExpandsToRecord.expands (h : ExpandsToRecord store ctx node t)
    (href : node.get? "$ref" = none) (hobject : (TypeSet.ofSchema node).contains .object = true)
    (harray : (TypeSet.ofSchema node).contains .array = false) :
    Expands store ctx node ⟨some t, none⟩ := by
  have outline : Outlines node ⟨some t, none⟩ := by
    refine ⟨hobject.symm, harray.symm, fun u hu => ?_, fun i hi => ?_⟩
    · cases hu
      exact h.1
    · cases hi
  refine expands_of_outlines href outline fun p hp => h.2 p ?_
  simpa [parts] using hp

/-! ## The references met in an expansion -/

/-- The first reference has to be followed for the second: it stands in the node that the second one
leads to. -/
def IsNeededFor (store : Store) (r' r : Resolved) : Prop :=
  ∃ text, r.node.Mentions text ∧ resolve store text r.context = .ok r'

theorem IsNeededFor.isAbout {home : Context} {r' : Resolved} (h : IsNeededFor store r' r)
    (hr : r.IsAbout store home) : r'.IsAbout store home := by
  obtain ⟨text, -, hresolve⟩ := h
  exact hr.context.resolve hresolve

/-- The references in a node that expands lead to nodes below which nothing goes on forever. -/
theorem Expands.acc_of_mentions (h : Expands store ctx node s) :
    ∀ text r, node.Mentions text → resolve store text ctx = .ok r →
      Acc (IsNeededFor store) r := by
  induction h with
  | noObject hobject =>
    intro text r ht
    rw [ht.isObject] at hobject
    cases hobject
  | reference href hr h ih =>
    intro other r' ht hr'
    obtain rfl := ht.eq_of_reference href
    obtain rfl := Except.ok.inj (hr.symm.trans hr')
    exact Acc.intro _ fun q ⟨text, htext, hq⟩ => ih text q htext hq
  | keywords hobject href outline each ih =>
    intro text r ht hr
    cases ht with
    | here h => rw [href] at h; cases h
    | nested _ hv h =>
      obtain ⟨s', hs'⟩ := exists_mem_parts outline hv
      exact ih _ hs' text r h hr

theorem Expands.acc (h : Expands store r.context r.node s) : Acc (IsNeededFor store) r :=
  Acc.intro _ fun q ⟨text, htext, hq⟩ => h.acc_of_mentions text q htext hq

theorem not_transGen_self {α : Type} {rel : α → α → Prop} {a : α} (h : Acc rel a) :
    ¬ TransGen rel a a := by
  have hacc := h.transGen
  induction hacc with
  | intro a _ ih =>
    intro haa
    exact ih a haa h haa

/-! ## Descents and expansions -/

/-- A descent whose references give expansions gives an expansion. -/
theorem expands_of_shapeOf {follow : String → Except SchemaError Shape}
    (hfollow : ∀ text s, node.Mentions text → follow text = .ok s →
      ∃ r, resolve store text ctx = .ok r ∧ Expands store r.context r.node s)
    (h : shapeOf follow node = .ok s) : Expands store ctx node s := by
  induction hsize : sizeOf node using Nat.strongRecOn generalizing node s with
  | _ size ih =>
    subst hsize
    rcases nodeForm node with hobject | ⟨text, href⟩ | ⟨v, href, hv⟩ | ⟨hobject, href⟩
    · rw [shapeOf_of_not_isObject follow node hobject] at h
      cases h
      exact .noObject hobject
    · rw [shapeOf_of_reference follow node href] at h
      obtain ⟨r, hr, hs⟩ := hfollow text s (.here href) h
      exact .reference href hr hs
    · rw [shapeOf_of_malformed follow node href hv] at h
      cases h
    · obtain ⟨outline, each⟩ := (shapeOf_eq_ok_iff hobject href).1 h
      refine .keywords hobject href outline fun p hp => ?_
      have hbelow := mem_nodesBelow_of_mem_parts outline hp
      exact ih _ (sizeOf_lt_of_mem_nodesBelow hbelow)
        (fun text s ht => hfollow text s (.nested href hbelow ht)) (each p hp) rfl

/-- A descent whose references give the expansions of what they lead to gives the expansion. -/
theorem shapeOf_of_expands {follow : String → Except SchemaError Shape}
    (hfollow : ∀ text r s, node.Mentions text → resolve store text ctx = .ok r →
      Expands store r.context r.node s → follow text = .ok s)
    (h : Expands store ctx node s) : shapeOf follow node = .ok s := by
  induction h with
  | noObject hobject => exact shapeOf_of_not_isObject follow _ hobject
  | reference href hr h _ =>
    rw [shapeOf_of_reference follow _ href]
    exact hfollow _ _ _ (.here href) hr h
  | keywords hobject href outline each ih =>
    refine (shapeOf_eq_ok_iff hobject href).2 ⟨outline, fun p hp => ih p hp ?_⟩
    intro text r s ht
    exact hfollow text r s (.nested href (mem_nodesBelow_of_mem_parts outline hp) ht)

/-- A node without references expands to the same shape wherever it stands. -/
theorem Expands.of_not_mentions {ctx' : Context} (hnode : ∀ text, ¬ node.Mentions text)
    (h : Expands store ctx node s) : Expands store ctx' node s := by
  have hs : shapeOf (fun _ => (.ok .plain : Except SchemaError Shape)) node = .ok s :=
    shapeOf_of_expands (fun text _ _ ht => absurd ht (hnode text)) h
  exact expands_of_shapeOf (fun text _ ht => absurd ht (hnode text)) hs

end JsonRecords
