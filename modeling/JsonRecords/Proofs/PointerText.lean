import JsonRecords.Schema.Pointer
import JsonRecords.Text.Pieces

/-!
# Pointers in normal form

`Pointer.text` writes segments behind a slash each.  The segments that `Pointer.segments` reads hold
no slash themselves, and segments without slashes can be told from the text written for them
(`text_injective`): two pointers have the same normal form only if they lead the same way.
-/

namespace JsonRecords.Pointer

/-- Segments as a pointer can have them. -/
def SlashFree (segments : List String) : Prop :=
  ∀ s ∈ segments, '/' ∉ s.toList

theorem mem_of_mem_dropTrailingEmpty {segments : List String} {s : String}
    (h : s ∈ dropTrailingEmpty segments) : s ∈ segments := by
  rw [dropTrailingEmpty, List.mem_reverse] at h
  exact List.mem_reverse.1 ((List.dropWhile_sublist _).subset h)

theorem slashFree_segments (pointer : String) : SlashFree (segments pointer) := by
  intro s hs
  have hpiece : s ∈ (pointer.toList.splitOn '/').map String.ofList := by
    have hs := mem_of_mem_dropTrailingEmpty hs
    split at hs
    · exact List.mem_of_mem_drop hs
    · exact hs
  obtain ⟨piece, hmem, rfl⟩ := List.mem_map.1 hpiece
  rw [String.toList_ofList]
  exact Pieces.not_mem_of_mem_splitOn hmem

/-! ## Reading the text of segments back -/

theorem toList_text (segments : List String) :
    (text segments).toList = segments.flatMap fun s => '/' :: s.toList := by
  simp [text, List.flatMap_map]

theorem splitOn_append_text {segments : List String} (h : SlashFree segments) {s : List Char}
    (hs : '/' ∉ s) :
    (s ++ (text segments).toList).splitOn '/' = s :: segments.map String.toList := by
  induction segments generalizing s with
  | nil => simp [toList_text, List.splitOn_eq_singleton hs]
  | cons first rest ih =>
    have hfirst : '/' ∉ first.toList := h first List.mem_cons_self
    have hrest : SlashFree rest := fun t ht => h t (List.mem_cons_of_mem _ ht)
    have hcut : (text (first :: rest)).toList = '/' :: (first.toList ++ (text rest).toList) := by
      simp [toList_text]
    rw [hcut, List.splitOn_append_cons_self_of_not_mem hs, ih hrest hfirst, List.map_cons]

theorem text_injective {segments segments' : List String} (h : SlashFree segments)
    (h' : SlashFree segments') (e : text segments = text segments') : segments = segments' := by
  have hsplit := splitOn_append_text h (s := []) (by simp)
  rw [e, splitOn_append_text h' (by simp), List.cons.injEq] at hsplit
  exact ((List.map_inj_right fun _ _ => String.toList_inj.1).1 hsplit.2).symm

end JsonRecords.Pointer
