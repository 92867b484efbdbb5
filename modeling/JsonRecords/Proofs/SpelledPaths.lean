import JsonRecords.Proofs.ListIndices

/-!
# The path to a value

Whatever stands in a record can be asked for by its path.  The way to it leads through fields of
records and items of lists (`LeadsTo`), and the path spells the way: the names of the fields and the
decimal spellings of the indices, with points between them (`spell`).  A path is cut at every point,
so the way is found again if no name has a point in it (`lookup_spell`).  No other name makes
trouble, be it empty, like a number, or the only one on a path that is empty itself.
-/

namespace JsonRecords

/-! ## Ways and their spelling -/

/-- A step from a bound value to one in it.  An index has 64 bits, which are enough for every list
that is kept in memory. -/
inductive PathStep where
  | field (name : String)
  | item (index : UInt64)

def PathStep.segment : PathStep → String
  | .field name => name
  | .item index => toString index.toNat

/-- The path that spells the steps. -/
def spell (steps : List PathStep) : String :=
  ".".intercalate (steps.map PathStep.segment)

/-- The steps lead from the first value to the second, each to a field that a record has or to an
item that a list has. -/
inductive LeadsTo : BoundValue → List PathStep → BoundValue → Prop where
  | here (b : BoundValue) : LeadsTo b [] b
  | field {r : Record} {name : String} {b c : BoundValue} {steps : List PathStep}
      (hb : r.get? name = some b) (hrest : LeadsTo b steps c) :
      LeadsTo (.record r) (.field name :: steps) c
  | item {items : List BoundValue} {index : UInt64} {b c : BoundValue} {steps : List PathStep}
      (hb : items[index.toNat]? = some b) (hrest : LeadsTo b steps c) :
      LeadsTo (.list items) (.item index :: steps) c

variable {r : Record} {b c : BoundValue} {steps : List PathStep}

/-! ## Reading the spelling back -/

/-- Pieces without points come back from the path they make. -/
theorem pathSegments_intercalate {pieces : List String} (hne : pieces ≠ [])
    (hfree : ∀ piece ∈ pieces, '.' ∉ piece.toList) :
    pathSegments (".".intercalate pieces) = pieces := by
  have hchars : ∀ cs ∈ pieces.map String.toList, '.' ∉ cs := by simpa using hfree
  rw [pathSegments, String.toList_intercalate]
  change ((['.'].intercalate (pieces.map String.toList)).splitOn '.').map String.ofList = pieces
  rw [List.splitOn_intercalate '.' hchars (by simpa using hne), Pieces.map_ofList_toList]

theorem not_mem_segment_item (index : UInt64) : '.' ∉ (PathStep.item index).segment.toList := by
  intro hpoint
  have hdigit := (isNumeral_toString index.toNat).digits '.' hpoint
  cases hdigit

theorem pathSegments_spell (hne : steps ≠ [])
    (hfree : ∀ name, .field name ∈ steps → '.' ∉ name.toList) :
    pathSegments (spell steps) = steps.map PathStep.segment := by
  refine pathSegments_intercalate (by simpa using hne) fun piece hpiece => ?_
  obtain ⟨step, hstep, rfl⟩ := List.mem_map.1 hpiece
  cases step with
  | field name => exact hfree name hstep
  | item index => exact not_mem_segment_item index

theorem follow_of_leadsTo (h : LeadsTo b steps c) :
    b.follow (steps.map PathStep.segment) = .ok c := by
  induction h with
  | here b => rfl
  | @field r name b c steps hb _ ih =>
    have hstep : (BoundValue.record r).step name = .ok b := field_eq_ok_iff.2 hb
    exact (BoundValue.follow_cons_of_ok hstep).trans ih
  | @item items index b c steps hb _ ih =>
    have hstep : (BoundValue.list items).step (toString index.toNat) = .ok b :=
      step_list_eq_ok_iff.2 ⟨index.toNat, readIndex?_toString index, hb⟩
    exact (BoundValue.follow_cons_of_ok hstep).trans ih

/-- **Every value in a record is found by its path**, if no name on the way has a point in it. -/
theorem lookup_spell (h : LeadsTo (.record r) steps b) (hne : steps ≠ [])
    (hfree : ∀ name, .field name ∈ steps → '.' ∉ name.toList) :
    r.lookup (spell steps) = .ok b := by
  rw [lookup_eq_follow, pathSegments_spell hne hfree]
  exact follow_of_leadsTo h

/-! ## A board with odd names -/

def cellsShape : Shape := ⟨none, some ⟨none, some .plain⟩⟩

def boardType : RecordType :=
  ⟨true, false, [("", ⟨some ⟨true, false, [("+1", cellsShape)], []⟩, none⟩)], []⟩

/-- One name is empty, the other looks like an index. -/
def board : Record :=
  boardType.bindMembers [("", .object [("+1", .array [.array [.null, .bool true]])])]

theorem lookup_spell_board :
    LeadsTo (.record board) [.field "", .field "+1", .item 0, .item 1] (.raw (.bool true)) ∧
    spell [.field "", .field "+1", .item 0, .item 1] = ".+1.0.1" ∧
    board.lookup ".+1.0.1" = .ok (.raw (.bool true)) ∧
    (∃ b, LeadsTo (.record board) [.field ""] b ∧ board.lookup "" = .ok b) := by
  have hcell : LeadsTo (.record board) [.field "", .field "+1", .item 0, .item 1]
      (.raw (.bool true)) :=
    .field rfl (.field rfl (.item rfl (.item rfl (.here _))))
  have hempty : ∃ b, LeadsTo (.record board) [.field ""] b := ⟨_, .field rfl (.here _)⟩
  obtain ⟨b, hb⟩ := hempty
  refine ⟨hcell, rfl, ?_, b, hb, ?_⟩
  · exact lookup_spell hcell (by simp) (by simp)
  · exact lookup_spell hb (by simp) (by simp)

end JsonRecords
