import JsonRecords.Schema.Pointer
import Mathlib.Data.List.Forall2
import Mathlib.Data.List.Perm.Subperm

/-!
# Equality up to the order of keys

Two maps have the same entries if they have the same keys, in whatever order, and related values of
each key (`Association.SameEntries`).  `Json.same` computes this equality for all objects of a value
at once.  It looks up the members of one object in the other, which is only half of the comparison;
but in a value whose objects have each key once, nothing is left over on the other side
(`Json.same_object_iff`).

On such values `Json.same` is an equivalence (`Json.same_refl`, `Json.same_symm`), and it is
respected by everything that reads values by their keys: `Json.get?`, `Json.walk` and
`Json.keywordMembers`.
-/

namespace JsonRecords

/-! ## Optional values that are related -/

section

variable {α : Type u} {β : Type v} {R : α → β → Prop}

theorem exists_of_some_rel {a : α} {b : Option β} (h : Option.Rel R (some a) b) :
    ∃ b', b = some b' ∧ R a b' := by
  cases h with
  | some hab => exact ⟨_, rfl, hab⟩

theorem isSome_eq_of_rel {a : Option α} {b : Option β} (h : Option.Rel R a b) :
    a.isSome = b.isSome := by
  cases h <;> rfl

theorem exists_of_rel_some {a : Option α} {b : β} (h : Option.Rel R a (some b)) :
    ∃ a', a = some a' ∧ R a' b := by
  cases h with
  | some hab => exact ⟨_, rfl, hab⟩

/-- An optional value that is there in the one case only in which it can be. -/
theorem exists_option {P : α → Prop} {b : Bool} (h : b = true → ∃ a, P a) :
    ∃ o : Option α, o.isSome = b ∧ ∀ a, o = some a → P a := by
  cases b with
  | false => exact ⟨none, rfl, fun a ha => by cases ha⟩
  | true =>
    obtain ⟨a, ha⟩ := h rfl
    refine ⟨some a, rfl, fun a' ha' => ?_⟩
    obtain rfl := Option.some.inj ha'
    exact ha

theorem rel_of_isSome_eq {a : Option α} {b : Option β} (h : a.isSome = b.isSome)
    (hrel : ∀ x y, a = some x → b = some y → R x y) : Option.Rel R a b := by
  cases a with
  | none =>
    cases b with
    | none => exact .none
    | some y => cases h
  | some x =>
    cases b with
    | none => cases h
    | some y => exact .some (hrel x y rfl rfl)

end

/-! ## Maps with the same entries -/

namespace Association

variable {α : Type u} {β : Type v} {γ : Type w} {δ : Type x} {R : α → β → Prop}
  {left : List (String × α)} {right : List (String × β)} {key : String}

/-- The same keys in some order, and related values of each key. -/
structure SameEntries (R : α → β → Prop) (left : List (String × α)) (right : List (String × β)) :
    Prop where
  keys : (keys left).Perm (keys right)
  values : ∀ key a b, left.lookup key = some a → right.lookup key = some b → R a b

theorem exists_lookup_of_mem_keys (h : key ∈ keys left) : ∃ a, left.lookup key = some a := by
  obtain ⟨e, he, rfl⟩ := List.mem_map.1 h
  rw [← Option.isSome_iff_exists, List.lookup_isSome_iff]
  exact ⟨e, he, beq_self_eq_true e.1⟩

theorem mem_keys_of_lookup {a : α} (h : left.lookup key = some a) : key ∈ keys left :=
  List.mem_map.2 ⟨(key, a), mem_of_lookup_eq_some h, rfl⟩

namespace SameEntries

theorem lookup (h : SameEntries R left right) (key : String) :
    Option.Rel R (left.lookup key) (right.lookup key) := by
  by_cases hkey : key ∈ Association.keys left
  · obtain ⟨a, ha⟩ := exists_lookup_of_mem_keys hkey
    obtain ⟨b, hb⟩ := exists_lookup_of_mem_keys (h.keys.mem_iff.1 hkey)
    rw [ha, hb]
    exact .some (h.values key a b ha hb)
  · rw [lookup_eq_none_of_not_mem hkey,
      lookup_eq_none_of_not_mem fun hright => hkey (h.keys.mem_iff.2 hright)]
    exact .none

/-- Every value on the right has its counterpart. -/
theorem exists_lookup_left {b : β} (h : SameEntries R left right)
    (hb : right.lookup key = some b) : ∃ a, left.lookup key = some a ∧ R a b := by
  have hkey := h.keys.mem_iff.2 (mem_keys_of_lookup hb)
  obtain ⟨a, ha⟩ := exists_lookup_of_mem_keys hkey
  exact ⟨a, ha, h.values key a b ha hb⟩

/-- Maps whose values are replaced key by key have the same entries if the new values are
related. -/
theorem map {S : γ → δ → Prop} {f : String → α → γ} {g : String → β → δ}
    (h : SameEntries R left right)
    (hvalues : ∀ key a b, left.lookup key = some a → right.lookup key = some b → R a b →
      S (f key a) (g key b)) :
    SameEntries S (left.map fun e => (e.1, f e.1 e.2)) (right.map fun e => (e.1, g e.1 e.2)) where
  keys := by
    have hkeys := h.keys
    simpa only [Association.keys, List.map_map, Function.comp_def] using hkeys
  values key c d hc hd := by
    rw [lookup_map_values] at hc hd
    obtain ⟨a, ha, rfl⟩ := Option.map_eq_some_iff.1 hc
    obtain ⟨b, hb, rfl⟩ := Option.map_eq_some_iff.1 hd
    exact hvalues key a b ha hb (h.values key a b ha hb)

end SameEntries

/-- If no key stands twice on the left, it is enough to look up every entry of the left on the right
and to compare the numbers of entries. -/
theorem sameEntries_iff (hnodup : (keys left).Nodup) :
    SameEntries R left right ↔
      left.length = right.length ∧ ∀ e ∈ left, ∃ b, right.lookup e.1 = some b ∧ R e.2 b := by
  constructor
  · intro h
    refine ⟨by simpa [keys] using h.keys.length_eq, fun e he => ?_⟩
    have hleft := lookup_eq_some_of_mem hnodup he
    have hright := h.lookup e.1
    rw [hleft] at hright
    exact exists_of_some_rel hright
  · rintro ⟨hlength, hfound⟩
    have hsubset : keys left ⊆ keys right := by
      intro key hkey
      obtain ⟨e, he, rfl⟩ := List.mem_map.1 hkey
      obtain ⟨b, hb, -⟩ := hfound e he
      exact mem_keys_of_lookup hb
    have hlength : (keys right).length ≤ (keys left).length := by
      simp [keys, hlength]
    refine ⟨(List.subperm_of_subset hnodup hsubset).perm_of_length_le hlength, ?_⟩
    intro key a b ha hb
    obtain ⟨b', hb', hvalue⟩ := hfound (key, a) (mem_of_lookup_eq_some ha)
    obtain rfl := Option.some.inj (hb.symm.trans hb')
    exact hvalue

/-- What a check says that looks up the entries on the left one after the other. -/
theorem all_found_iff {same : α → β → Bool}
    {check : List (String × α) → List (String × β) → Bool} (hnil : ∀ right, check [] right = true)
    (hcons : ∀ key a rest right, check ((key, a) :: rest) right =
      ((right.lookup key).any (same a) && check rest right)) :
    check left right = true ↔ ∀ e ∈ left, ∃ b, right.lookup e.1 = some b ∧ same e.2 b = true := by
  induction left with
  | nil => simp [hnil]
  | cons e rest ih =>
    obtain ⟨key, a⟩ := e
    rw [hcons, Bool.and_eq_true, ih, List.forall_mem_cons, Option.any_eq_true]

end Association

/-- What a check says that compares two lists item by item. -/
theorem all_same_iff {α : Type u} {β : Type v} {same : α → β → Bool}
    {check : List α → List β → Bool} (hnil : check [] [] = true)
    (hleft : ∀ a as, check (a :: as) [] = false) (hright : ∀ b bs, check [] (b :: bs) = false)
    (hcons : ∀ a as b bs, check (a :: as) (b :: bs) = (same a b && check as bs))
    {as : List α} {bs : List β} :
    check as bs = true ↔ List.Forall₂ (fun a b => same a b = true) as bs := by
  induction as generalizing bs with
  | nil => cases bs <;> simp [hnil, hright]
  | cons a rest ih => cases bs <;> simp [hleft, hcons, ih]

/-- What a check says that compares two optional values. -/
theorem both_same_iff {α : Type u} {β : Type v} {same : α → β → Bool}
    {check : Option α → Option β → Bool} (hnone : check none none = true)
    (hleft : ∀ a, check (some a) none = false) (hright : ∀ b, check none (some b) = false)
    (hsome : ∀ a b, check (some a) (some b) = same a b) {a : Option α} {b : Option β} :
    check a b = true ↔ Option.Rel (fun a b => same a b = true) a b := by
  cases a <;> cases b <;> simp [hnone, hleft, hright, hsome]

theorem exists_of_forall₂_of_mem {α : Type u} {β : Type v} {R : α → β → Prop} {as : List α}
    {bs : List β} {b : β} (h : List.Forall₂ R as bs) (hb : b ∈ bs) : ∃ a ∈ as, R a b := by
  induction h with
  | nil => cases hb
  | @cons a b' as bs hab _ ih =>
    rcases List.mem_cons.1 hb with rfl | hb
    · exact ⟨a, List.mem_cons_self, hab⟩
    · obtain ⟨a', ha', hab'⟩ := ih hb
      exact ⟨a', List.mem_cons_of_mem _ ha', hab'⟩

/-! ## Values that are the same -/

theorem Number.same_refl (n : Number) : n.same n = true := by
  cases n with
  | integer i => exact beq_self_eq_true i
  | float x => simp [Number.same, Binary64.sameValue]

theorem Number.same_symm {m n : Number} (h : m.same n = true) : n.same m = true := by
  cases m with
  | integer i =>
    cases n with
    | integer j => exact BEq.symm h
    | float y => cases h
  | float x =>
    cases n with
    | integer j => cases h
    | float y =>
      simp only [Number.same, Binary64.sameValue, Bool.or_eq_true, Bool.and_eq_true, beq_iff_eq]
        at h ⊢
      exact h.imp And.symm fun h => ⟨h.1.symm, h.2.symm⟩

namespace Json

open Association

variable {v w : Json} {vs ws : List Json} {ms ns : List (String × Json)} {key : String}

theorem same_array_iff :
    (array vs).same (array ws) = true ↔ List.Forall₂ (fun v w => v.same w = true) vs ws := by
  rw [same]
  exact all_same_iff rfl (fun _ _ => rfl) (fun _ _ => rfl) fun _ _ _ _ => rfl

theorem same_object_iff (hnodup : (keys ms).Nodup) :
    (object ms).same (object ns) = true ↔ SameEntries (fun v w => v.same w = true) ms ns := by
  have hmembers : sameMembers ms ns = true ↔
      ∀ m ∈ ms, ∃ w, ns.lookup m.1 = some w ∧ m.2.same w = true :=
    all_found_iff (fun _ => by rw [sameMembers]) fun key _ _ ns => by
      rw [sameMembers]
      cases ns.lookup key <;> rfl
  rw [same, Bool.and_eq_true, hmembers, sameEntries_iff hnodup, beq_iff_eq]

theorem kind_eq_of_same (h : v.same w = true) : v.kind = w.kind := by
  cases v <;> cases w <;> first | rfl | cases h

theorem exists_array_of_same (h : (array vs).same w = true) : ∃ ws, w = array ws := by
  cases w <;> first | exact ⟨_, rfl⟩ | cases h

theorem exists_object_of_same (h : (object ms).same w = true) : ∃ ns, w = object ns := by
  cases w <;> first | exact ⟨_, rfl⟩ | cases h

theorem isObject_eq_of_same (h : v.same w = true) : v.isObject = w.isObject := by
  cases v <;> cases w <;> first | rfl | cases h

/-- A string is the same as itself only, and so is a truth value. -/
theorem eq_string_iff_of_same {text : String} (h : v.same w = true) :
    v = string text ↔ w = string text := by
  cases v <;> cases w <;> simp_all [same]

theorem eq_bool_iff_of_same {b : Bool} (h : v.same w = true) : v = bool b ↔ w = bool b := by
  cases v <;> cases w <;> simp_all [same]

/-! ## An equivalence -/

theorem same_refl (h : v.WellFormed) : v.same v = true := by
  induction h with
  | null => rfl
  | bool b => exact beq_self_eq_true b
  | number n => exact n.same_refl
  | string s => exact beq_self_eq_true s
  | array _ ih => exact same_array_iff.2 (List.forall₂_same.2 ih)
  | object distinct _ ih =>
    refine (same_object_iff distinct).2 ⟨List.Perm.refl _, fun key v w hv hw => ?_⟩
    obtain rfl := Option.some.inj (hv.symm.trans hw)
    exact ih _ (mem_of_lookup_eq_some hv)

theorem same_symm (hv : v.WellFormed) (h : v.same w = true) : w.same v = true := by
  induction hv generalizing w with
  | null => cases w <;> first | rfl | cases h
  | bool b =>
    cases w with
    | bool c => exact BEq.symm h
    | _ => cases h
  | number n =>
    cases w with
    | number m => exact Number.same_symm h
    | _ => cases h
  | string s =>
    cases w with
    | string t => exact BEq.symm h
    | _ => cases h
  | array _ ih =>
    obtain ⟨ws, rfl⟩ := exists_array_of_same h
    obtain ⟨hlength, heach⟩ := List.forall₂_iff_zip.1 (same_array_iff.1 h)
    refine same_array_iff.2 (List.Forall₂.flip (List.forall₂_iff_zip.2 ⟨hlength, ?_⟩))
    exact fun hp => ih _ (List.of_mem_zip hp).1 (heach hp)
  | object distinct _ ih =>
    obtain ⟨ns, rfl⟩ := exists_object_of_same h
    have hmembers := (same_object_iff distinct).1 h
    have hnodup : (keys ns).Nodup := hmembers.keys.nodup_iff.1 distinct
    refine (same_object_iff hnodup).2 ⟨hmembers.keys.symm, fun key w v hw hv => ?_⟩
    exact ih (key, v) (mem_of_lookup_eq_some hv) (hmembers.values key v w hv hw)

theorem wellFormed_of_same (hv : v.WellFormed) (h : v.same w = true) : w.WellFormed := by
  induction hv generalizing w with
  | null => cases w <;> first | exact .null | cases h
  | bool => cases w <;> first | exact .bool _ | cases h
  | number => cases w <;> first | exact .number _ | cases h
  | string => cases w <;> first | exact .string _ | cases h
  | array _ ih =>
    obtain ⟨ws, rfl⟩ := exists_array_of_same h
    refine .array fun w hw => ?_
    obtain ⟨v, hv, hsame⟩ := exists_of_forall₂_of_mem (same_array_iff.1 h) hw
    exact ih v hv hsame
  | object distinct _ ih =>
    obtain ⟨ns, rfl⟩ := exists_object_of_same h
    have hmembers := (same_object_iff distinct).1 h
    have hnodup : (keys ns).Nodup := hmembers.keys.nodup_iff.1 distinct
    refine .object hnodup fun n hn => ?_
    obtain ⟨v, hv, hsame⟩ := hmembers.exists_lookup_left (lookup_eq_some_of_mem hnodup hn)
    exact ih _ (mem_of_lookup_eq_some hv) hsame

/-! ## The same content -/

/-- Equal values in which no object has a key twice: the second one is the first one with the keys
of its objects in another order. -/
structure SameContent (v w : Json) : Prop where
  wellFormed : v.WellFormed
  same : v.same w = true

namespace SameContent

theorem refl (h : v.WellFormed) : SameContent v v := ⟨h, same_refl h⟩

theorem symm (h : SameContent v w) : SameContent w v :=
  ⟨wellFormed_of_same h.wellFormed h.same, same_symm h.wellFormed h.same⟩

theorem isObject_eq (h : SameContent v w) : v.isObject = w.isObject :=
  isObject_eq_of_same h.same

theorem nodup_keys (h : SameContent v w) : (keys v.members).Nodup := by
  cases h.wellFormed with
  | object distinct _ => exact distinct
  | _ => exact List.nodup_nil

theorem items (h : SameContent (array vs) (array ws)) : List.Forall₂ SameContent vs ws := by
  cases h.wellFormed with
  | array each =>
    obtain ⟨hlength, hsame⟩ := List.forall₂_iff_zip.1 (same_array_iff.1 h.same)
    exact List.forall₂_iff_zip.2
      ⟨hlength, fun hp => ⟨each _ (List.of_mem_zip hp).1, hsame hp⟩⟩

/-- The members of an object are the same in another order; no other value has members. -/
theorem members (h : SameContent v w) : SameEntries SameContent v.members w.members := by
  cases v with
  | object ms =>
    obtain ⟨ns, rfl⟩ := exists_object_of_same h.same
    cases h.wellFormed with
    | object distinct each =>
      have hmembers := (same_object_iff distinct).1 h.same
      refine ⟨hmembers.keys, fun key v w hv hw => ⟨?_, hmembers.values key v w hv hw⟩⟩
      exact each _ (mem_of_lookup_eq_some hv)
  | _ =>
    have hnone : w.members = [] := by
      cases w <;> first | rfl | cases h.same
    rw [hnone]
    exact ⟨List.Perm.refl _, fun _ _ _ hv => by cases hv⟩

theorem get? (h : SameContent v w) (key : String) :
    Option.Rel SameContent (v.get? key) (w.get? key) :=
  h.members.lookup key

/-- The same keys lead to the same content. -/
theorem walk (h : SameContent v w) (path : List String) :
    Option.Rel SameContent (v.walk path) (w.walk path) := by
  induction path generalizing v w with
  | nil => exact .some h
  | cons segment rest ih =>
    have hstep := h.get? segment
    rw [Json.walk, Json.walk]
    revert hstep
    generalize v.get? segment = v'
    generalize w.get? segment = w'
    rintro (hstep | -)
    · exact ih hstep
    · exact .none

end SameContent

end Json

end JsonRecords
