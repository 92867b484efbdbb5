import JsonRecords.Json.Value

/-!
# Pointers into a document

A pointer is a list of keys set apart by slashes.  `Pointer.segments` reads one: a slash in front
and empty segments at the end count for nothing, and there are no escapes, so a key with a slash in
it cannot be pointed to.  `Pointer.text` writes segments in the one form that stands for them, each
behind a slash.

`Json.walk` follows segments through the objects of a value, and `Json.paths` lists all the segments
that can be followed.
-/

namespace JsonRecords

namespace Pointer

def dropTrailingEmpty (segments : List String) : List String :=
  (segments.reverse.dropWhile (· == "")).reverse

def segments (pointer : String) : List String :=
  let pieces := (pointer.toList.splitOn '/').map String.ofList
  dropTrailingEmpty (if pointer.toList.head? = some '/' then pieces.drop 1 else pieces)

def text (segments : List String) : String :=
  String.join (segments.map ("/" ++ ·))

end Pointer

namespace Json

/-- The node that segments lead to; each has to be a key of an object. -/
def walk (v : Json) : List String → Option Json
  | [] => some v
  | segment :: rest =>
    match v.get? segment with
    | some w => walk w rest
    | none => none

mutual

/-- All lists of keys that lead from a value to a node in it. -/
def paths : Json → List (List String)
  | object ms => [] :: pathsOfMembers ms
  | _ => [[]]

def pathsOfMembers : List (String × Json) → List (List String)
  | [] => []
  | (key, v) :: rest => (paths v).map (key :: ·) ++ pathsOfMembers rest

end

theorem nil_mem_paths (v : Json) : [] ∈ v.paths := by
  cases v <;> simp [paths]

theorem mem_pathsOfMembers {ms : List (String × Json)} {key : String} {v : Json}
    {path : List String} (hm : (key, v) ∈ ms) (hp : path ∈ v.paths) :
    key :: path ∈ pathsOfMembers ms := by
  induction ms with
  | nil => simp at hm
  | cons m rest ih =>
    obtain ⟨k, w⟩ := m
    simp only [pathsOfMembers, List.mem_append, List.mem_map]
    rcases List.mem_cons.1 hm with h | h
    · cases h
      exact Or.inl ⟨path, hp, rfl⟩
    · exact Or.inr (ih h)

/-- Whatever can be followed is listed. -/
theorem mem_paths_of_walk {v w : Json} {path : List String} (h : v.walk path = some w) :
    path ∈ v.paths := by
  induction path generalizing v with
  | nil => exact nil_mem_paths v
  | cons segment rest ih =>
    rw [walk] at h
    split at h
    · rename_i u hu
      cases v with
      | object ms =>
        rw [paths]
        have hmember := Association.mem_of_lookup_eq_some hu
        exact List.mem_cons_of_mem _ (mem_pathsOfMembers hmember (ih h))
      | _ => simp [get?, members] at hu
    · cases h

end Json

end JsonRecords
