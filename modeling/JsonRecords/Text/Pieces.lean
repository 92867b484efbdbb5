/-!
# Texts in pieces

File paths, pointers and field paths are cut into pieces at a separator.  No piece holds the
separator, and texts are the same again after they have been taken apart into characters.
-/

namespace JsonRecords.Pieces

theorem not_mem_of_mem_splitOn {α : Type} [BEq α] [LawfulBEq α] {a : α} {xs piece : List α}
    (h : piece ∈ xs.splitOn a) : a ∉ piece := by
  induction xs generalizing piece with
  | nil => simp_all
  | cons x rest ih =>
    rw [List.splitOn_cons_eq_if_modifyHead] at h
    split at h
    · rcases List.mem_cons.1 h with rfl | h
      · simp
      · exact ih h
    · rename_i hx
      cases hpieces : rest.splitOn a with
      | nil => exact absurd hpieces (List.splitOn_ne_nil a rest)
      | cons first others =>
        rw [hpieces, List.modifyHead_cons] at h
        rcases List.mem_cons.1 h with rfl | h
        · have hfirst := ih (hpieces ▸ List.mem_cons_self)
          simp only [beq_iff_eq] at hx
          rw [List.mem_cons, not_or]
          exact ⟨fun e => hx e.symm, hfirst⟩
        · exact ih (hpieces ▸ List.mem_cons_of_mem _ h)

theorem map_ofList_toList (pieces : List String) :
    (pieces.map String.toList).map String.ofList = pieces := by
  rw [List.map_map]
  exact (List.map_congr_left fun _ _ => String.ofList_toList).trans (List.map_id pieces)

end JsonRecords.Pieces
