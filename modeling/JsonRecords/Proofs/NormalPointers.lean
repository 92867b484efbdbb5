import JsonRecords.Proofs.PointerText
import JsonRecords.Schema.Reference
import Mathlib.Data.List.DropRight

/-!
# The normal form of a pointer

A pointer can be written in several ways, with a slash in front or without one and with any number
of slashes at the end (`segments_slash`, `segments_append_slash`).  What counts are its segments,
and `Pointer.normal` writes them in the form that stands for them in the name of a target.

This form is canonical (`normal_canonical`): it has the segments of the pointer, and two pointers
have the same one only if their segments are the same.  The segments of pointers are those lists of
texts without slashes that do not end in an empty text (`exists_segments_eq_iff`), and every way
through the objects of a document with keys of this kind can be written as a reference, which leads
to its node (`resolve_keyPath`).
-/

namespace JsonRecords

open Association

variable {store : Store} {ctx : Context} {text : String} {r : Resolved} {v node : Json}
  {keys l : List String}

namespace Pointer

/-! ## Reading segments back -/

/-- Segments without slashes, the last of which is not empty. -/
structure Canonical (segments : List String) : Prop where
  slashFree : SlashFree segments
  last : ∀ h : segments ≠ [], segments.getLast h ≠ ""

theorem dropTrailingEmpty_eq (pieces : List String) :
    dropTrailingEmpty pieces = pieces.rdropWhile (· == "") :=
  rfl

theorem getLast_dropTrailingEmpty (pieces : List String) (h : dropTrailingEmpty pieces ≠ []) :
    (dropTrailingEmpty pieces).getLast h ≠ "" := fun hempty =>
  List.rdropWhile_last_not (· == "") pieces h (beq_iff_eq.2 hempty)

theorem canonical_segments (pointer : String) : Canonical (segments pointer) where
  slashFree := slashFree_segments pointer
  last := getLast_dropTrailingEmpty _

/-- Canonical segments are read back from their text. -/
theorem segments_text (h : Canonical l) : segments (Pointer.text l) = l := by
  cases l with
  | nil => rfl
  | cons first rest =>
    have hsplit := splitOn_append_text h.slashFree (s := []) (by simp)
    have hslash : (Pointer.text (first :: rest)).toList.head? = some '/' := by
      simp [toList_text]
    rw [List.nil_append] at hsplit
    rw [segments, hsplit, if_pos hslash, List.map_cons, List.drop_one, List.tail_cons,
      Pieces.map_ofList_toList, dropTrailingEmpty_eq, List.rdropWhile_eq_self_iff]
    simpa using h.last

/-! ## The normal form -/

/-- The text of the segments of a pointer. -/
def normal (pointer : String) : String := Pointer.text (segments pointer)

theorem segments_normal (pointer : String) : segments (normal pointer) = segments pointer :=
  segments_text (canonical_segments pointer)

theorem normal_normal (pointer : String) : normal (normal pointer) = normal pointer :=
  congrArg Pointer.text (segments_normal pointer)

theorem normal_eq_normal_iff {p q : String} : normal p = normal q ↔ segments p = segments q := by
  constructor
  · exact text_injective (slashFree_segments p) (slashFree_segments q)
  · exact congrArg Pointer.text

/-- Canonical segments are those that pointers have. -/
theorem exists_segments_eq_iff : (∃ pointer, segments pointer = l) ↔ Canonical l := by
  constructor
  · rintro ⟨pointer, rfl⟩
    exact canonical_segments pointer
  · exact fun h => ⟨Pointer.text l, segments_text h⟩

/-! ## Slashes that count for nothing -/

/-- A slash in front of a pointer that has none there counts for nothing. -/
theorem segments_slash {pointer : String} (h : pointer.toList.head? ≠ some '/') :
    segments ("/" ++ pointer) = segments pointer := by
  have hcut : ("/" ++ pointer).toList = '/' :: pointer.toList := by
    simp [String.toList_append]
  have hsplit : ('/' :: pointer.toList).splitOn '/' = [] :: pointer.toList.splitOn '/' :=
    List.splitOn_append_cons_self [] pointer.toList
  rw [segments, segments, hcut, hsplit, List.head?_cons, if_pos rfl, if_neg h]
  rfl

/-- A slash at the end always does. -/
theorem segments_append_slash (pointer : String) :
    segments (pointer ++ "/") = segments pointer := by
  by_cases hempty : pointer.toList = []
  · obtain rfl : pointer = "" := String.toList_eq_nil_iff.1 hempty
    rfl
  · have hcut : (pointer ++ "/").toList = pointer.toList ++ ['/'] := by
      simp [String.toList_append]
    have hsplit : (pointer.toList ++ ['/']).splitOn '/' = pointer.toList.splitOn '/' ++ [[]] := by
      rw [List.splitOn_append_cons_self]
      rfl
    have hhead : (pointer.toList ++ ['/']).head? = pointer.toList.head? := by
      cases hchars : pointer.toList with
      | nil => exact absurd hchars hempty
      | cons c rest => rfl
    have hpieces : 1 ≤ (pointer.toList.splitOn '/').length :=
      List.length_pos_iff.2 (List.splitOn_ne_nil '/' pointer.toList)
    rw [segments, segments, hcut, hsplit, hhead, dropTrailingEmpty_eq, dropTrailingEmpty_eq,
      List.map_append]
    -- the empty piece behind the last slash is the first to be dropped again
    split
    · rw [List.drop_append_of_le_length (by simpa using hpieces)]
      exact List.rdropWhile_concat_pos _ _ _ rfl
    · exact List.rdropWhile_concat_pos _ _ _ rfl

example : segments "definitions/address/" = segments "/definitions/address" ∧
    segments "/definitions/address" = ["definitions", "address"] := by
  decide

end Pointer

/-! ## References to the nodes of a document -/

/-- The pointer that resolving reports is in normal form. -/
theorem pointer_of_resolve (h : resolve store text ctx = .ok r) :
    r.pointer = Pointer.normal (Reference.parse text).pointer := by
  obtain ⟨-, -, hpointer⟩ := resolve_eq_ok_iff.1 h
  exact hpointer

/-- The keys lead through the objects of a value to the node. -/
inductive Json.KeyPath : Json → List String → Json → Prop where
  | here (v : Json) : KeyPath v [] v
  | member {ms : List (String × Json)} {key : String} {v node : Json} {keys : List String}
      (hm : (key, v) ∈ ms) (hrest : KeyPath v keys node) : KeyPath (.object ms) (key :: keys) node

theorem walk_of_keyPath (hv : v.WellFormed) (h : v.KeyPath keys node) :
    v.walk keys = some node := by
  induction h with
  | here v => rfl
  | member hm _ ih =>
    cases hv with
    | object distinct each =>
      have hget := lookup_eq_some_of_mem distinct hm
      rw [Json.walk, Json.get?, Json.members, hget]
      exact ih (each _ hm)

theorem parse_hash (pointer : String) : Reference.parse ("#" ++ pointer) = ⟨"", pointer⟩ := by
  simp [Reference.parse, String.toList_append]

/-- A way through the objects of a document is a reference in the document. -/
theorem resolve_keyPath (hdocument : ctx.document.WellFormed)
    (hpath : ctx.document.KeyPath keys node) (hkeys : Pointer.Canonical keys) :
    resolve store ("#" ++ Pointer.text keys) ctx = .ok ⟨node, ctx, Pointer.text keys⟩ := by
  rw [resolve_eq_ok_iff, parse_hash, Pointer.segments_text hkeys]
  exact ⟨rfl, walk_of_keyPath hdocument hpath, rfl⟩

/-- **Normal forms of pointers are canonical and lose nothing.**  The normal form of a pointer has
its segments and is its own normal form, and it tells pointers with different segments apart.
Segments can be any texts without slashes, as long as the last is not empty.  It is the normal form
that is reported for what a reference leads to, and any keys that can be segments and lead to a node
of a document are a reference in the document to this node. -/
theorem normal_canonical :
    (∀ p, Pointer.segments (Pointer.normal p) = Pointer.segments p) ∧
    (∀ p, Pointer.normal (Pointer.normal p) = Pointer.normal p) ∧
    (∀ p q, Pointer.normal p = Pointer.normal q ↔ Pointer.segments p = Pointer.segments q) ∧
    (∀ l, (∃ p, Pointer.segments p = l) ↔
      (∀ s ∈ l, '/' ∉ s.toList) ∧ ∀ h : l ≠ [], l.getLast h ≠ "") ∧
    (∀ store text ctx r, resolve store text ctx = .ok r →
      r.pointer = Pointer.normal (Reference.parse text).pointer) ∧
    (∀ (store : Store) (ctx : Context) (keys : List String) (node : Json),
      ctx.document.WellFormed → ctx.document.KeyPath keys node →
      (∀ s ∈ keys, '/' ∉ s.toList) → (∀ h : keys ≠ [], keys.getLast h ≠ "") →
      resolve store ("#" ++ Pointer.text keys) ctx = .ok ⟨node, ctx, Pointer.text keys⟩) := by
  refine ⟨Pointer.segments_normal, Pointer.normal_normal, fun p q => Pointer.normal_eq_normal_iff,
    fun l => ?_, fun _ _ _ _ => pointer_of_resolve, ?_⟩
  · rw [Pointer.exists_segments_eq_iff]
    exact ⟨fun h => ⟨h.slashFree, h.last⟩, fun h => ⟨h.1, h.2⟩⟩
  · intro store ctx keys node hdocument hpath hfree hlast
    exact resolve_keyPath hdocument hpath ⟨hfree, hlast⟩

/-! ## A document with odd keys -/

/-- Two of the keys are empty, and one has the sign in it that parts a file from a pointer. -/
def oddKeys : List String := ["", "a#b", "", "~1"]

def oddDocument : Json :=
  .object [("", .object [("a#b", .object [("", .object [("~1", .bool true)])])])]

theorem wellFormed_oddDocument : oddDocument.WellFormed := by
  refine .object (by decide) (List.forall_mem_singleton.2 ?_)
  refine .object (by decide) (List.forall_mem_singleton.2 ?_)
  refine .object (by decide) (List.forall_mem_singleton.2 ?_)
  exact .object (by decide) (List.forall_mem_singleton.2 (.bool true))

theorem keyPath_oddKeys : oddDocument.KeyPath oddKeys (.bool true) := by
  refine .member List.mem_cons_self (.member List.mem_cons_self ?_)
  exact .member List.mem_cons_self (.member List.mem_cons_self (.here _))

/-- The reference made of the keys leads to the node, and so it does with slashes behind it. -/
theorem normal_canonical_oddKeys :
    oddDocument.WellFormed ∧ oddDocument.KeyPath oddKeys (.bool true) ∧
    (∀ s ∈ oddKeys, '/' ∉ s.toList) ∧ (∀ h : oddKeys ≠ [], oddKeys.getLast h ≠ "") ∧
    resolve ⟨"/", []⟩ ("#" ++ "//a#b//~1") (.ofDocument oddDocument "s") =
      .ok ⟨.bool true, .ofDocument oddDocument "s", "//a#b//~1"⟩ ∧
    resolve ⟨"/", []⟩ "#//a#b//~1//" (.ofDocument oddDocument "s") =
      .ok ⟨.bool true, .ofDocument oddDocument "s", "//a#b//~1"⟩ ∧
    "//a#b//~1" = Pointer.normal (Reference.parse "#//a#b//~1//").pointer := by
  obtain ⟨-, -, -, -, hpointer, hresolve⟩ := normal_canonical
  have hfree : ∀ s ∈ oddKeys, '/' ∉ s.toList := by decide
  have hlast : ∀ h : oddKeys ≠ [], oddKeys.getLast h ≠ "" := by decide
  have htext : Pointer.text oddKeys = "//a#b//~1" := by decide
  have hroute := hresolve ⟨"/", []⟩ (.ofDocument oddDocument "s") oddKeys _ wellFormed_oddDocument
    keyPath_oddKeys hfree hlast
  rw [htext] at hroute
  have hslashes : resolve ⟨"/", []⟩ "#//a#b//~1//" (.ofDocument oddDocument "s") =
      .ok ⟨.bool true, .ofDocument oddDocument "s", "//a#b//~1"⟩ := by
    rfl
  exact ⟨wellFormed_oddDocument, keyPath_oddKeys, hfree, hlast, hroute, hslashes,
    hpointer _ _ _ _ hslashes⟩

end JsonRecords
