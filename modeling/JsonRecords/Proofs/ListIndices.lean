import JsonRecords.Proofs.PathWalks

/-!
# Numerals as indices

A segment of decimal digits stands for an index into a list, whatever its length and however many
zeros it begins with, and `readIndex?` reads its value (`readIndex?_of_isNumeral`).  An index is a
number of 64 bits, however.  A numeral for a larger one is read as no index at all, and so it is
reported in the way of a segment that is no numeral, although what is wrong with it is that it goes
past the end of the list (`lookup_vastNumeral`).  Up to this bound a numeral leads to its item, or
past the end (`lookup_of_isNumeral`).
-/

namespace JsonRecords

variable {r : Record} {b item : BoundValue} {items : List BoundValue} {index : Nat}
  {segment front rest : String} {after : List String}

/-! ## Reading a numeral -/

/-- The segment is written in decimal digits. -/
structure IsNumeral (segment : String) : Prop where
  nonempty : segment ≠ ""
  digits : ∀ c ∈ segment.toList, c.isDigit = true

/-- The number that a numeral stands for. -/
def numeralValue (segment : String) : Nat :=
  Nat.ofDigitChars 10 segment.toList 0

theorem digitsValue?_of_digits {ds : List Char} (hne : ds ≠ [])
    (hdigits : ∀ d ∈ ds, d.isDigit = true) : digitsValue? ds = some (Nat.ofDigitChars 10 ds 0) := by
  have hall : (ds.isEmpty || ds.any (!·.isDigit)) = false := by
    simpa [hne] using hdigits
  rw [digitsValue?, hall]
  rfl

/-- A numeral is read as its value, if this has at most 64 bits. -/
theorem readIndex?_of_isNumeral (h : IsNumeral segment) : readIndex? segment =
    if numeralValue segment < UInt64.size then some (numeralValue segment) else none := by
  have hne : segment.toList ≠ [] := by simpa using h.nonempty
  have hvalue := digitsValue?_of_digits hne h.digits
  -- A sign in front would not be a digit.
  have hsign : ∀ ds, segment.toList ≠ '+' :: ds := by
    intro ds hsegment
    have hplus := h.digits '+' (hsegment ▸ List.mem_cons_self)
    cases hplus
  unfold readIndex?
  split
  · exact absurd ‹_› (hsign _)
  · rw [hvalue]
    rfl

/-- The decimal spelling of a number is a numeral for it. -/
theorem isNumeral_toString (index : Nat) : IsNumeral (toString index) where
  nonempty h := by
    have hdigits := congrArg String.toList h
    rw [Nat.toString_eq_repr, Nat.toList_repr] at hdigits
    exact Nat.toDigits_ne_nil hdigits
  digits c hc := by
    rw [Nat.toString_eq_repr, Nat.toList_repr] at hc
    exact Nat.isDigit_of_mem_toDigits (by decide) (by decide) hc

theorem numeralValue_toString (index : Nat) : numeralValue (toString index) = index := by
  rw [numeralValue, Nat.toString_eq_repr, Nat.toList_repr, Nat.ofDigitChars_ten_toDigits]

/-- A decimal spelling is read back. -/
theorem readIndex?_toString (index : UInt64) :
    readIndex? (toString index.toNat) = some index.toNat := by
  rw [readIndex?_of_isNumeral (isNumeral_toString _), numeralValue_toString,
    if_pos index.toNat_lt_size]

/-! ## A numeral applied to a list -/

/-- A numeral leads to its item or past the end of the list, if it can be read. -/
theorem step_list_of_isNumeral (h : IsNumeral segment) (items : List BoundValue) :
    (BoundValue.list items).step segment =
      if numeralValue segment < UInt64.size then
        match items[numeralValue segment]? with
        | some item => .ok item
        | none => .error (.indexOutOfBounds (numeralValue segment) items.length)
      else .error (.notTraversable segment .list) := by
  by_cases hbound : numeralValue segment < UInt64.size
  · have hindex : readIndex? segment = some (numeralValue segment) := by
      rw [readIndex?_of_isNumeral h, if_pos hbound]
    rw [if_pos hbound]
    cases hitem : items[numeralValue segment]? with
    | some item => exact step_list_eq_ok_iff.2 ⟨_, hindex, hitem⟩
    | none => simp [BoundValue.step, hindex, hitem]
  · have hindex : readIndex? segment = none := by
      rw [readIndex?_of_isNumeral h, if_neg hbound]
    rw [if_neg hbound]
    simp [BoundValue.step, hindex]

/-- A path goes on from where its front part leads. -/
theorem lookup_append_of_ok (h : r.lookup front = .ok b) (rest : String) :
    r.lookup (front ++ "." ++ rest) = b.follow (pathSegments rest) := by
  rw [lookup_eq_follow] at h ⊢
  rw [pathSegments_append, BoundValue.follow, List.foldlM_append, ← BoundValue.follow, h]
  rfl

/-- **A numeral applied to a list leads to its item or past the end.**  A path comes to a list, and
the next segment is a numeral.  If the value of the numeral is the index of an item, the path goes
on from there, and if it is an index past the end of the list, then that is the error.  A value of
more than 64 bits is no index: the error is that of a segment which is no numeral. -/
theorem lookup_of_isNumeral (hlist : r.lookup front = .ok (.list items))
    (hrest : pathSegments rest = segment :: after) (hnumeral : IsNumeral segment) :
    (numeralValue segment < UInt64.size →
      (∀ item, items[numeralValue segment]? = some item →
        r.lookup (front ++ "." ++ rest) = item.follow after) ∧
      (items.length ≤ numeralValue segment → r.lookup (front ++ "." ++ rest) =
        .error (.indexOutOfBounds (numeralValue segment) items.length))) ∧
    (UInt64.size ≤ numeralValue segment →
      r.lookup (front ++ "." ++ rest) = .error (.notTraversable segment .list)) := by
  have hstep := step_list_of_isNumeral hnumeral items
  rw [lookup_append_of_ok hlist, hrest]
  refine ⟨fun hbound => ?_, fun hbound => ?_⟩
  · rw [if_pos hbound] at hstep
    refine ⟨fun item hitem => ?_, fun hlength => ?_⟩
    · rw [hitem] at hstep
      exact BoundValue.follow_cons_of_ok hstep
    · rw [List.getElem?_eq_none hlength] at hstep
      exact BoundValue.follow_cons_of_error hstep
  · rw [if_neg (Nat.not_lt.2 hbound)] at hstep
    exact BoundValue.follow_cons_of_error hstep

/-! ## Numerals in the gift -/

def giftItems : List BoundValue :=
  [.raw (.string "red"), .raw (.object [("size", .number (.integer 3))])]

theorem lookup_gift_lid : giftRecord.lookup "lid" = .ok (.list giftItems) := by rfl

/-- The numeral for zero with zeros in front of it. -/
def longZero : String := "0000000000000000000000000"

/-- The greatest index of 64 bits. -/
def lastNumeral : String := "18446744073709551615"

/-- A long numeral can lead to the first item, and the path goes on from there; a large one leads
past the end. -/
theorem lookup_numeral_gift :
    giftRecord.lookup "lid" = .ok (.list giftItems) ∧
    pathSegments (longZero ++ ".size") = [longZero, "size"] ∧ IsNumeral longZero ∧
    giftRecord.lookup ("lid" ++ "." ++ (longZero ++ ".size")) =
      (BoundValue.raw (.string "red")).follow ["size"] ∧
    pathSegments lastNumeral = [lastNumeral] ∧ IsNumeral lastNumeral ∧
    giftRecord.lookup ("lid" ++ "." ++ lastNumeral) =
      .error (.indexOutOfBounds (UInt64.size - 1) 2) := by
  have hzero : IsNumeral longZero := ⟨by decide, List.all_eq_true.1 (by decide)⟩
  have hlast : IsNumeral lastNumeral := ⟨by decide, List.all_eq_true.1 (by decide)⟩
  have hsize : pathSegments (longZero ++ ".size") = [longZero, "size"] := by rfl
  have halone : pathSegments lastNumeral = [lastNumeral] := by rfl
  have hitem := ((lookup_of_isNumeral lookup_gift_lid hsize hzero).1 (by decide +kernel)).1
  have hpast := ((lookup_of_isNumeral lookup_gift_lid halone hlast).1 (by decide +kernel)).2
  exact ⟨lookup_gift_lid, hsize, hzero, hitem _ rfl, halone, hlast,
    hpast (by decide +kernel)⟩

/-- The least number of more than 64 bits. -/
def vastNumeral : String := "18446744073709551616"

/-- The numeral is past the end of a list of two items, but this is not what is reported. -/
theorem lookup_vastNumeral :
    giftRecord.lookup "lid" = .ok (.list giftItems) ∧ giftItems.length = 2 ∧
    IsNumeral vastNumeral ∧ numeralValue vastNumeral = UInt64.size ∧
    giftRecord.lookup ("lid." ++ vastNumeral) = .error (.notTraversable vastNumeral .list) ∧
    ¬ ∃ index, giftRecord.lookup ("lid." ++ vastNumeral) = .error (.indexOutOfBounds index 2) := by
  have hrefused : giftRecord.lookup ("lid." ++ vastNumeral) =
      .error (.notTraversable vastNumeral .list) := by
    rfl
  have hvast : IsNumeral vastNumeral := ⟨by decide, List.all_eq_true.1 (by decide)⟩
  refine ⟨lookup_gift_lid, rfl, hvast, by decide +kernel, hrefused, ?_⟩
  rintro ⟨index, hindex⟩
  rw [hrefused] at hindex
  cases hindex

end JsonRecords
