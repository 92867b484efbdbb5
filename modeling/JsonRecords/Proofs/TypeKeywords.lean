import JsonRecords.Schema.TypeSet
import Mathlib.Data.List.Dedup
import Mathlib.Logic.Relation

/-!
# What a type keyword stands for

The keyword `type` may hold anything, and what it stands for is the set of the types it names, in
the one spelling each of them has.  Two lists stand for the same set exactly if one can be made from
the other by changing the order, by repeating members, by adding what names no type, and by undoing
such changes (`eqvGen_keywordChange_iff`).  The names of a set, in their canonical order and without
repetition, are the list among these that is read back as it was written (`ofKeyword_normalised`).
-/

namespace JsonRecords

open Relation

variable {items items' : List Json} {s : TypeSet} {t : TypeName}

namespace TypeSet

/-! ## What is named -/

/-- The types that the members of a list name, in the order of the list. -/
def namedIn (items : List Json) : List TypeName :=
  (keywordTexts (.array items)).filterMap TypeName.ofText?

@[simp] theorem namedIn_nil : namedIn [] = [] := rfl

theorem namedIn_cons_text (t : TypeName) (rest : List Json) :
    namedIn (.string t.text :: rest) = t :: namedIn rest := by
  simp [namedIn, keywordTexts, TypeName.ofText?_text]

theorem namedIn_cons_of_ne {v : Json} (hv : ∀ t : TypeName, v ≠ .string t.text)
    (rest : List Json) : namedIn (v :: rest) = namedIn rest := by
  cases v with
  | string text =>
    have hnone : TypeName.ofText? text = none := by
      rw [Option.eq_none_iff_forall_ne_some]
      intro t ht
      exact hv t (congrArg Json.string (TypeName.ofText?_eq_some_iff.1 ht))
    simp [namedIn, keywordTexts, hnone]
  | _ => simp [namedIn, keywordTexts]

theorem mem_namedIn : t ∈ namedIn items ↔ .string t.text ∈ items := by
  induction items with
  | nil => simp
  | cons v rest ih =>
    by_cases hv : ∃ u : TypeName, v = .string u.text
    · obtain ⟨u, rfl⟩ := hv
      rw [namedIn_cons_text, List.mem_cons, List.mem_cons, ih, Json.string.injEq,
        TypeName.text_inj]
    · have hne : ∀ u : TypeName, v ≠ .string u.text := fun u hu => hv ⟨u, hu⟩
      rw [namedIn_cons_of_ne hne, ih, List.mem_cons]
      simp [(hne t).symm]

theorem contains_ofKeyword_array :
    (ofKeyword (.array items)).contains t = true ↔ .string t.text ∈ items := by
  rw [← mem_namedIn]
  simp [ofKeyword, namedIn]

/-- A keyword stands for the types it names, itself or among its members. -/
theorem contains_ofKeyword_iff {keyword : Json} :
    (ofKeyword keyword).contains t = true ↔
      keyword = .string t.text ∨ ∃ items, keyword = .array items ∧ .string t.text ∈ items := by
  cases keyword with
  | array items => simp [contains_ofKeyword_array]
  | string text =>
    have hnames : (ofKeyword (.string text)).contains t = true ↔
        TypeName.ofText? text = some t := by
      cases h : TypeName.ofText? text <;> simp [ofKeyword, keywordTexts, h, eq_comm]
    rw [hnames, TypeName.ofText?_eq_some_iff]
    simp
  | _ => simp [ofKeyword, keywordTexts]

theorem ofKeyword_array_eq_iff :
    ofKeyword (.array items) = ofKeyword (.array items') ↔
      ∀ t : TypeName, .string t.text ∈ items ↔ .string t.text ∈ items' := by
  constructor
  · intro h t
    rw [← contains_ofKeyword_array, ← contains_ofKeyword_array, h]
  · intro h
    ext t
    rw [Bool.eq_iff_iff, contains_ofKeyword_array, contains_ofKeyword_array]
    exact h t

/-! ## Names -/

theorem mem_names {name : String} : name ∈ s.names ↔ ∃ t, s.contains t = true ∧ t.text = name := by
  simp [names, mem_toList]

theorem nodup_names (s : TypeSet) : s.names.Nodup := by
  have hall : TypeName.all.Nodup := by decide
  have hlist : s.toList.Nodup := hall.filter _
  exact hlist.map fun _ _ h => TypeName.text_inj.1 h

/-- Names come in the order of all type names. -/
theorem names_sublist (s : TypeSet) : s.names.Sublist (TypeName.all.map TypeName.text) :=
  List.filter_sublist.map _

/-- The names of a set are a keyword for it. -/
theorem ofKeyword_names (s : TypeSet) : ofKeyword (.array (s.names.map .string)) = s := by
  ext t
  rw [Bool.eq_iff_iff, contains_ofKeyword_array]
  simp [mem_names, TypeName.text_inj]

theorem decode_encode (s : TypeSet) : decode s.encode = some s := by
  have hmembers : (s.toList.map fun t => Json.string t.serialName).mapM decodeMember =
      some s.toList := by
    induction s.toList with
    | nil => rfl
    | cons t rest ih => simp [ih, decodeMember_serialName]
  have hset : ofList s.toList = s := by
    ext t
    rw [Bool.eq_iff_iff, contains_ofList, List.contains_iff_mem, mem_toList]
  rw [encode, decode, hmembers, Option.map_some, hset]

/-! ## Changes that do not show -/

/-- A change to the members of a keyword: another order, a member once more, or a member that names
no type, such as a number, a list, or a name in other letters. -/
inductive KeywordChange : List Json → List Json → Prop where
  | permuted {items items' : List Json} (h : items.Perm items') : KeywordChange items items'
  | repeated (front : List Json) {back : List Json} {v : Json} (hv : v ∈ front ++ back) :
      KeywordChange (front ++ back) (front ++ v :: back)
  | added (front : List Json) {back : List Json} {v : Json}
      (hv : ∀ t : TypeName, v ≠ .string t.text) :
      KeywordChange (front ++ back) (front ++ v :: back)

theorem KeywordChange.ofKeyword_eq (h : KeywordChange items items') :
    ofKeyword (.array items) = ofKeyword (.array items') := by
  rw [ofKeyword_array_eq_iff]
  intro t
  cases h with
  | permuted h => exact h.mem_iff
  | repeated _ hv => grind
  | added _ hv =>
    have hne := hv t
    grind

/-- A first member that stays does not matter to a change. -/
theorem KeywordChange.cons (v : Json) (h : KeywordChange items items') :
    KeywordChange (v :: items) (v :: items') := by
  cases h with
  | permuted h => exact .permuted (h.cons v)
  | repeated front hv => exact .repeated (v :: front) (List.mem_cons_of_mem v hv)
  | added front hv => exact .added (v :: front) hv

theorem eqvGen_cons (v : Json) (h : EqvGen KeywordChange items items') :
    EqvGen KeywordChange (v :: items) (v :: items') := by
  induction h with
  | rel _ _ h => exact .rel _ _ (h.cons v)
  | refl _ => exact .refl _
  | symm _ _ _ ih => exact .symm _ _ ih
  | trans _ _ _ _ _ ih ih' => exact .trans _ _ _ ih ih'

/-- Taking away all that names no type is a change of this kind. -/
theorem eqvGen_namedIn (items : List Json) :
    EqvGen KeywordChange items ((namedIn items).map (Json.string ∘ TypeName.text)) := by
  induction items with
  | nil => exact .refl _
  | cons v rest ih =>
    by_cases hv : ∃ t : TypeName, v = .string t.text
    · obtain ⟨t, rfl⟩ := hv
      rw [namedIn_cons_text]
      exact eqvGen_cons _ ih
    · have hne : ∀ t : TypeName, v ≠ .string t.text := fun t ht => hv ⟨t, ht⟩
      have hdrop : EqvGen KeywordChange (v :: rest) rest :=
        .symm _ _ (.rel _ _ (.added [] hne))
      rw [namedIn_cons_of_ne hne]
      exact hdrop.trans _ _ _ ih

/-- So is naming each type once. -/
theorem eqvGen_dedup (types : List TypeName) :
    EqvGen KeywordChange (types.map (Json.string ∘ TypeName.text))
      (types.dedup.map (Json.string ∘ TypeName.text)) := by
  induction types with
  | nil => exact .refl _
  | cons t rest ih =>
    by_cases ht : t ∈ rest
    · have hagain : Json.string t.text ∈ rest.map (Json.string ∘ TypeName.text) :=
        List.mem_map.2 ⟨t, ht, rfl⟩
      have hdrop : EqvGen KeywordChange ((t :: rest).map (Json.string ∘ TypeName.text))
          (rest.map (Json.string ∘ TypeName.text)) :=
        .symm _ _ (.rel _ _ (.repeated [] hagain))
      rw [List.dedup_cons_of_mem ht]
      exact hdrop.trans _ _ _ ih
    · rw [List.dedup_cons_of_notMem ht]
      exact eqvGen_cons _ ih

/-- Lists that stand for the same set are changed into each other by way of the types they name. -/
theorem eqvGen_keywordChange_iff :
    EqvGen KeywordChange items items' ↔
      ofKeyword (.array items) = ofKeyword (.array items') := by
  constructor
  · intro h
    induction h with
    | rel _ _ h => exact h.ofKeyword_eq
    | refl _ => rfl
    | symm _ _ _ ih => exact ih.symm
    | trans _ _ _ _ _ ih ih' => exact ih.trans ih'
  · intro h
    have hsame : ∀ t, t ∈ (namedIn items).dedup ↔ t ∈ (namedIn items').dedup := by
      intro t
      rw [List.mem_dedup, List.mem_dedup, mem_namedIn, mem_namedIn]
      exact ofKeyword_array_eq_iff.1 h t
    have hperm : (namedIn items).dedup.Perm (namedIn items').dedup :=
      (List.perm_ext_iff_of_nodup (List.nodup_dedup _) (List.nodup_dedup _)).2 hsame
    have hclean : ∀ items, EqvGen KeywordChange items
        ((namedIn items).dedup.map (Json.string ∘ TypeName.text)) := fun items =>
      (eqvGen_namedIn items).trans _ _ _ (eqvGen_dedup _)
    have horder := EqvGen.rel _ _ (KeywordChange.permuted (hperm.map (Json.string ∘ TypeName.text)))
    exact (hclean items).trans _ _ _ (horder.trans _ _ _ (.symm _ _ (hclean items')))

/-- **A type keyword is normalised to the set of types it names.**

* A type is in the set exactly if the keyword is the string that names it, or an array with that
  string among its direct members.
* The names of a set are those of its members, each once, in canonical order, and there are as many
  as the set is large.
* Two arrays have the same set exactly if they differ in the order of their members, in members
  given again and in members that name no type; and then the names, their number and the serialised
  form are the same as well.
* The names of a set, read as a keyword, give the set back, and so does its serialised form. -/
theorem ofKeyword_normalised :
    (∀ keyword t, (ofKeyword keyword).contains t = true ↔
      keyword = .string t.text ∨ ∃ items, keyword = .array items ∧ .string t.text ∈ items) ∧
    (∀ s : TypeSet, (∀ name, name ∈ s.names ↔ ∃ t, s.contains t = true ∧ t.text = name) ∧
      s.names.Nodup ∧ s.names.Sublist (TypeName.all.map TypeName.text) ∧
      s.size = s.names.length) ∧
    (∀ items items', EqvGen KeywordChange items items' ↔
      ofKeyword (.array items) = ofKeyword (.array items')) ∧
    (∀ items items', EqvGen KeywordChange items items' →
      (ofKeyword (.array items)).names = (ofKeyword (.array items')).names ∧
      (ofKeyword (.array items)).size = (ofKeyword (.array items')).size ∧
      (ofKeyword (.array items)).encode = (ofKeyword (.array items')).encode) ∧
    (∀ s : TypeSet, ofKeyword (.array (s.names.map .string)) = s ∧ decode s.encode = some s) := by
  refine ⟨fun _ _ => contains_ofKeyword_iff, fun s => ?_, fun _ _ => eqvGen_keywordChange_iff,
    fun items items' h => ?_, fun s => ⟨ofKeyword_names s, decode_encode s⟩⟩
  · refine ⟨fun _ => mem_names, nodup_names s, names_sublist s, ?_⟩
    rw [names, List.length_map, size]
  · have hset := eqvGen_keywordChange_iff.1 h
    rw [hset]
    exact ⟨rfl, rfl, rfl⟩

/-- An untidy keyword with two names in it. -/
def untidyKeyword : List Json :=
  [.string "null", .number (.integer 7), .string "Object", .array [.string "array"],
    .string "object", .string "null", .object [("number", .null)]]

def tidyKeyword : List Json := [.string "object", .string "null"]

theorem ofKeyword_normalised_untidy :
    EqvGen KeywordChange untidyKeyword tidyKeyword ∧
    (ofKeyword (.array untidyKeyword)).names = ["object", "null"] ∧
    (ofKeyword (.array untidyKeyword)).size = 2 ∧
    (ofKeyword (.array untidyKeyword)).encode = .array tidyKeyword := by
  obtain ⟨-, -, hiff, hsame, -⟩ := ofKeyword_normalised
  have hset : ofKeyword (.array untidyKeyword) = ofKeyword (.array tidyKeyword) := by
    ext t
    cases t <;> decide
  have hchange : EqvGen KeywordChange untidyKeyword tidyKeyword := (hiff _ _).2 hset
  obtain ⟨hnames, hsize, hencode⟩ := hsame _ _ hchange
  exact ⟨hchange, hnames.trans (by decide), hsize.trans (by decide), hencode.trans (by rfl)⟩

end TypeSet

end JsonRecords
