import JsonRecords.Json.Printer
import JsonRecords.Json.Reader
import Mathlib.Data.List.Basic

/-!
# Printed values read back

What `Json.pretty` prints, `Json.readNested` reads back, as long as the nesting is allowed and no
numbers are in it (`readNested_pretty`).  So different values are printed differently, and a text
that was printed decides the value (`pretty_inj`).

Each part of a printed value is followed by more text, and its reader stops where the part does: a
string at the quote that is not escaped, an item or member before the comma or line break that comes
next.  The blanks between the parts are passed over.
-/

namespace JsonRecords.Json

variable {v : Json} {vs : List Json} {ms : List (String × Json)} {c : Char} {cs rest : List Char}
  {item : Reader Json} {level bound depth : Nat}

/-- Values without numbers in which no object has a key twice. -/
inductive NumberFree : Json → Prop where
  | null : NumberFree null
  | bool (b : Bool) : NumberFree (bool b)
  | string (s : String) : NumberFree (string s)
  | array {items : List Json} (each : ∀ v ∈ items, NumberFree v) : NumberFree (array items)
  | object {ms : List (String × Json)} (distinct : (Association.keys ms).Nodup)
      (each : ∀ m ∈ ms, NumberFree m.2) : NumberFree (object ms)

theorem length_le_length_flatMap {α β : Type} {f : α → List β} {as : List α}
    (h : ∀ a ∈ as, 1 ≤ (f a).length) : as.length ≤ (as.flatMap f).length := by
  induction as with
  | nil => simp
  | cons a rest ih =>
    obtain ⟨ha, hrest⟩ := List.forall_mem_cons.1 h
    have := ih hrest
    rw [List.flatMap_cons, List.length_append, List.length_cons]
    omega

theorem intercalate_cons {α : Type} (sep piece : List α) (pieces : List (List α)) :
    sep.intercalate (piece :: pieces) = piece ++ pieces.flatMap (sep ++ ·) := by
  induction pieces generalizing piece with
  | nil => simp
  | cons next rest ih =>
    rw [List.intercalate_cons_cons, ih, List.flatMap_cons, List.append_assoc, List.append_assoc]

/-! ## Blanks -/

theorem skipBlanks_cons (h : isBlank c = false) : skipBlanks (c :: cs) = c :: cs := by
  rw [skipBlanks, List.dropWhile_cons_of_neg (by simp [h])]

theorem skipBlanks_newline (level : Nat) (cs : List Char) :
    skipBlanks ((newline level).toList ++ cs) = skipBlanks cs := by
  refine List.dropWhile_append_of_pos fun c hc => ?_
  simp only [newline, String.toList_append, String.toList_ofList, List.mem_append,
    List.mem_replicate] at hc
  rcases hc with hc | ⟨-, rfl⟩
  · obtain rfl : c = '\n' := by simpa using hc
    rfl
  · rfl

/-! ## Strings -/

/-- The escape of a control character by its code point has four digits, the first two of them
zeros. -/
theorem hexTextPadded_control {n : Nat} (hn : n < 0x20) :
    (hexTextPadded 4 n).toList = ['0', '0', (n / 16).digitChar, (n % 16).digitChar] := by
  have hdigits : ∀ n < 0x20, List.replicate (4 - (Nat.toDigits 16 n).length) '0' ++
      Nat.toDigits 16 n = ['0', '0', (n / 16).digitChar, (n % 16).digitChar] := by
    decide
  rw [hexTextPadded, String.toList_ofList]
  exact hdigits n hn

theorem readUnicodeEscape_control {n : Nat} (hn : n < 0x20) (rest : List Char) :
    readUnicodeEscape ((hexTextPadded 4 n).toList ++ rest) = .ok (Char.ofNat n, rest) := by
  have hdigit : ∀ k < 16, hexDigit? k.digitChar = some k := by decide
  have hzero : hexDigit? '0' = some 0 := by decide
  have hhigh : hexDigit? (n / 16).digitChar = some (n / 16) := hdigit _ (by omega)
  have hlow : hexDigit? (n % 16).digitChar = some (n % 16) := hdigit _ (by omega)
  have hread : readHex4 ((hexTextPadded 4 n).toList ++ rest) = .ok (n, rest) := by
    rw [hexTextPadded_control hn]
    simp only [List.cons_append, List.nil_append, readHex4, hzero, hhigh, hlow]
    congr 2
    omega
  rw [readUnicodeEscape, hread]
  change (if 0xDC00 ≤ n ∧ n ≤ 0xDFFF then _ else if n < 0xD800 ∨ 0xDFFF < n then _ else _) = _
  rw [if_neg (by omega), if_pos (by omega)]

/-- The reader of escapes undoes them; what is not escaped stands for itself. -/
theorem escapeChar_cases (c : Char) :
    (∃ cs, escapeChar c = '\\' :: cs ∧ ∀ rest, readEscape (cs ++ rest) = .ok (c, rest)) ∨
      (escapeChar c = [c] ∧ c ≠ '"' ∧ c ≠ '\\' ∧ ¬ c.toNat < 0x20) := by
  unfold escapeChar
  split
  · exact .inl ⟨_, rfl, fun _ => rfl⟩
  · exact .inl ⟨_, rfl, fun _ => rfl⟩
  · exact .inl ⟨_, rfl, fun _ => rfl⟩
  · exact .inl ⟨_, rfl, fun _ => rfl⟩
  · exact .inl ⟨_, rfl, fun _ => rfl⟩
  · exact .inl ⟨_, rfl, fun _ => rfl⟩
  · exact .inl ⟨_, rfl, fun _ => rfl⟩
  · split
    · rename_i hcontrol
      refine .inl ⟨_, rfl, fun rest => ?_⟩
      rw [List.cons_append, readEscape, readUnicodeEscape_control hcontrol, Char.ofNat_toNat]
    · exact .inr ⟨rfl, ‹_›, ‹_›, ‹_›⟩

theorem readChars_escaped {bound : Nat} {acc s : List Char} (hbound : s.length ≤ bound) :
    readChars bound acc (s.flatMap escapeChar ++ '"' :: rest) =
      .ok (String.ofList (acc.reverse ++ s), rest) := by
  induction s generalizing bound acc with
  | nil => simp [readChars]
  | cons c s ih =>
    obtain ⟨bound, rfl⟩ : ∃ bound', bound = bound' + 1 := ⟨bound - 1, by simp at hbound; omega⟩
    have hbound : s.length ≤ bound := by simpa using hbound
    rw [List.flatMap_cons, List.append_assoc]
    rcases escapeChar_cases c with ⟨cs, hescape, hread⟩ | ⟨hplain, hquote, hbackslash, hlarge⟩
    · rw [hescape, List.cons_append, readChars, hread]
      change readChars bound (c :: acc) _ = _
      rw [ih hbound, List.reverse_cons, List.append_assoc, List.singleton_append]
    · rw [hplain, List.singleton_append, readChars, if_neg hlarge, ih hbound, List.reverse_cons,
        List.append_assoc, List.singleton_append]
      · exact hquote
      · exact hbackslash

/-- A printed string is read up to its closing quote. -/
theorem readString_stringText (s : String) (rest : List Char) :
    ∃ cs, (stringText s).toList = '"' :: cs ∧ readString (cs ++ rest) = .ok (s, rest) := by
  refine ⟨s.toList.flatMap escapeChar ++ ['"'], by simp [stringText], ?_⟩
  have hlength : s.toList.length ≤ (s.toList.flatMap escapeChar ++ '"' :: rest).length := by
    have hnonempty : ∀ c ∈ s.toList, 1 ≤ (escapeChar c).length := by
      intro c _
      rcases escapeChar_cases c with ⟨cs, hescape, -⟩ | ⟨hplain, -⟩
      · simp [hescape]
      · simp [hplain]
    have hflat := length_le_length_flatMap hnonempty
    rw [List.length_append]
    omega
  rw [List.append_assoc, List.singleton_append, readString, readChars_escaped hlength]
  simp

/-! ## Entries between brackets -/

/-- The text of the entries after the first one. -/
def moreText {α : Type} (level : Nat) (text : α → String) (entries : List α) : List Char :=
  entries.flatMap fun e => ',' :: ((newline level).toList ++ (text e).toList)

theorem toList_block {α : Type} (level : Nat) (opening closing : String) (text : α → String)
    (e : α) (entries : List α) :
    (block level opening closing ((e :: entries).map text)).toList =
      opening.toList ++ ((newline (level + 1)).toList ++ ((text e).toList ++
        (moreText (level + 1) text entries ++ ((newline level).toList ++ closing.toList)))) := by
  have hcomma : ",".toList = [','] := rfl
  simp only [block, List.map_cons, List.isEmpty_cons, Bool.false_eq_true, if_false,
    String.toList_append, String.toList_intercalate, intercalate_cons, List.append_assoc, moreText,
    List.map_map, List.flatMap_map, hcomma, List.nil_append, Function.comp_def, List.cons_append]

theorem length_le_moreText {α : Type} (level : Nat) (text : α → String) (entries : List α) :
    entries.length ≤ (moreText level text entries).length :=
  length_le_length_flatMap fun _ _ => Nat.succ_le_succ (Nat.zero_le _)

theorem prettyItems_eq_map (level : Nat) (vs : List Json) :
    prettyItems level vs = vs.map (prettyAt level) := by
  induction vs with
  | nil => rfl
  | cons v rest ih => rw [prettyItems, ih, List.map_cons]

def memberText (level : Nat) (m : String × Json) : String :=
  stringText m.1 ++ ": " ++ prettyAt level m.2

theorem prettyMembers_eq_map (level : Nat) (ms : List (String × Json)) :
    prettyMembers level ms = ms.map (memberText level) := by
  induction ms with
  | nil => rfl
  | cons m rest ih =>
    rw [prettyMembers, ih, List.map_cons]
    rfl

theorem exists_toList_block (level : Nat) (opening closing : String) (entries : List String) :
    ∃ cs, (block level opening closing entries).toList = opening.toList ++ cs := by
  unfold block
  split
  · exact ⟨_, String.toList_append⟩
  · simp only [String.toList_append, List.append_assoc]
    exact ⟨_, rfl⟩

theorem prettyAt_null (level : Nat) : (prettyAt level null).toList = ['n', 'u', 'l', 'l'] := by
  simp [prettyAt, compact]

theorem prettyAt_true (level : Nat) :
    (prettyAt level (bool true)).toList = ['t', 'r', 'u', 'e'] := by
  simp [prettyAt, compact]

theorem prettyAt_false (level : Nat) :
    (prettyAt level (bool false)).toList = ['f', 'a', 'l', 's', 'e'] := by
  simp [prettyAt, compact]

theorem prettyAt_string (level : Nat) (s : String) : prettyAt level (string s) = stringText s := by
  simp [prettyAt, compact]

theorem prettyAt_array (level : Nat) (vs : List Json) :
    prettyAt level (array vs) = block level "[" "]" (vs.map (prettyAt (level + 1))) := by
  rw [prettyAt, prettyItems_eq_map]

theorem prettyAt_object (level : Nat) (ms : List (String × Json)) :
    prettyAt level (object ms) =
      block level "\x7b" "\x7d" (ms.map (memberText (level + 1))) := by
  rw [prettyAt, prettyMembers_eq_map]

/-- A printed value does not begin with a blank or a closing bracket. -/
theorem exists_head (hv : v.NumberFree) (level : Nat) :
    ∃ c cs, (prettyAt level v).toList = c :: cs ∧ isBlank c = false ∧ c ≠ ']' := by
  cases hv with
  | null => exact ⟨_, _, prettyAt_null level, rfl, by decide⟩
  | bool b =>
    cases b with
    | true => exact ⟨_, _, prettyAt_true level, rfl, by decide⟩
    | false => exact ⟨_, _, prettyAt_false level, rfl, by decide⟩
  | string s =>
    obtain ⟨cs, hcs, -⟩ := readString_stringText s []
    rw [prettyAt_string]
    exact ⟨'"', cs, hcs, rfl, by decide⟩
  | @array vs _ =>
    obtain ⟨cs, hcs⟩ := exists_toList_block level "[" "]" (vs.map (prettyAt (level + 1)))
    rw [prettyAt_array]
    exact ⟨'[', cs, hcs, rfl, by decide⟩
  | @object ms _ _ =>
    obtain ⟨cs, hcs⟩ := exists_toList_block level "\x7b" "\x7d" (ms.map (memberText (level + 1)))
    rw [prettyAt_object]
    exact ⟨'\x7b', cs, hcs, rfl, by decide⟩

/-- Where a printed value comes next, there is nothing to pass over. -/
theorem skipBlanks_prettyAt (hv : v.NumberFree) (level : Nat) (rest : List Char) :
    skipBlanks ((prettyAt level v).toList ++ rest) = (prettyAt level v).toList ++ rest := by
  obtain ⟨c, cs, hcs, hblank, -⟩ := exists_head hv level
  rw [hcs, List.cons_append, skipBlanks_cons hblank]

/-! ## Items -/

/-- The reader reads the value where it is printed on a level, whatever follows. -/
def Reader.Reads (item : Reader Json) (level : Nat) (v : Json) : Prop :=
  ∀ rest, item ((prettyAt level v).toList ++ rest) = .ok (v, rest)

theorem readMoreItems_of_close {acc : List Json} (h : skipBlanks cs = ']' :: rest) :
    readMoreItems item bound acc cs = .ok (array acc.reverse, rest) := by
  rw [readMoreItems.eq_def, h]
  simp

theorem readMoreItems_of_comma {acc : List Json} (h : skipBlanks cs = ',' :: rest)
    (hnext : ∀ rest', skipBlanks rest ≠ ']' :: rest') :
    readMoreItems item (bound + 1) acc cs = (do
      let (v, rest) ← item (skipBlanks rest)
      readMoreItems item bound (v :: acc) rest) := by
  rw [readMoreItems.eq_def, h]
  simp

theorem readMoreItems_moreText {acc : List Json} (hbound : vs.length ≤ bound)
    (hfree : ∀ v ∈ vs, v.NumberFree) (hitem : ∀ v ∈ vs, item.Reads level v) (below : Nat) :
    readMoreItems item bound acc
        (moreText level (prettyAt level) vs ++ ((newline below).toList ++ ']' :: rest)) =
      .ok (array (acc.reverse ++ vs), rest) := by
  induction vs generalizing bound acc with
  | nil =>
    have hclose : skipBlanks ((newline below).toList ++ ']' :: rest) = ']' :: rest := by
      rw [skipBlanks_newline, skipBlanks_cons rfl]
    exact (readMoreItems_of_close hclose).trans (by rw [List.append_nil])
  | cons v vs ih =>
    obtain ⟨bound, rfl⟩ : ∃ bound', bound = bound' + 1 := ⟨bound - 1, by simp at hbound; omega⟩
    have hbound : vs.length ≤ bound := by simpa using hbound
    obtain ⟨hv, hvs⟩ := List.forall_mem_cons.1 hfree
    obtain ⟨hread, hreads⟩ := List.forall_mem_cons.1 hitem
    have hnext : ∀ more,
        skipBlanks ((newline level).toList ++ ((prettyAt level v).toList ++ more)) =
          (prettyAt level v).toList ++ more := by
      intro more
      rw [skipBlanks_newline, skipBlanks_prettyAt hv]
    rw [moreText, List.flatMap_cons, List.append_assoc, List.cons_append, List.append_assoc,
      readMoreItems_of_comma (skipBlanks_cons rfl), hnext, hread]
    · change readMoreItems item bound (v :: acc) (moreText level (prettyAt level) vs ++ _) = _
      rw [ih hbound hvs hreads, List.reverse_cons, List.append_assoc, List.singleton_append]
    · intro rest' hrest'
      obtain ⟨c, cs, hcs, -, hclose⟩ := exists_head hv level
      rw [hnext, hcs, List.cons_append, List.cons.injEq] at hrest'
      exact hclose hrest'.1

theorem readItems_of_first (h : skipBlanks cs = c :: rest) (hc : c ≠ ']') :
    readItems item cs = (do
      let (v, rest) ← item (c :: rest)
      readMoreItems item rest.length [v] rest) := by
  rw [readItems, h]
  split
  · rename_i heq
    exact absurd (List.cons.inj heq).1 hc
  · rename_i heq
    cases heq
  · rfl

/-- An array is read after its opening bracket. -/
theorem readItems_pretty (hfree : ∀ v ∈ vs, v.NumberFree)
    (hitem : ∀ v ∈ vs, item.Reads (level + 1) v) :
    ∃ cs, (prettyAt level (array vs)).toList = '[' :: cs ∧
      ∀ rest, readItems item (cs ++ rest) = .ok (array vs, rest) := by
  cases vs with
  | nil =>
    refine ⟨[']'], by simp [prettyAt_array, block], fun rest => ?_⟩
    have hclose : skipBlanks (']' :: rest) = ']' :: rest := skipBlanks_cons rfl
    simp [readItems, hclose]
  | cons v vs =>
    obtain ⟨hv, hvs⟩ := List.forall_mem_cons.1 hfree
    obtain ⟨hread, hreads⟩ := List.forall_mem_cons.1 hitem
    refine ⟨(newline (level + 1)).toList ++ ((prettyAt (level + 1) v).toList ++
      (moreText (level + 1) (prettyAt (level + 1)) vs ++ ((newline level).toList ++ [']']))),
      ?_, ?_⟩
    · rw [prettyAt_array, toList_block]
      rfl
    · intro rest
      obtain ⟨c, cs, hcs, hblank, hclose⟩ := exists_head hv (level + 1)
      simp only [List.append_assoc, List.singleton_append]
      have hfirst := hread (moreText (level + 1) (prettyAt (level + 1)) vs ++
        ((newline level).toList ++ ']' :: rest))
      rw [hcs, List.cons_append] at hfirst ⊢
      rw [readItems_of_first ((skipBlanks_newline _ _).trans (skipBlanks_cons hblank)) hclose,
        hfirst]
      change readMoreItems item (List.length _) [v] _ = _
      refine readMoreItems_moreText ?_ hvs hreads level
      have := length_le_moreText (level + 1) (prettyAt (level + 1)) vs
      rw [List.length_append]
      omega

/-! ## Members -/

/-- The reader reads the value where it is printed behind its key, whatever follows. -/
def Reader.ReadsMember (item : Reader Json) (level : Nat) (m : String × Json) : Prop :=
  ∀ rest, item (' ' :: ((prettyAt level m.2).toList ++ rest)) = .ok (m.2, rest)

/-- The text of a member is read as its key and its value. -/
theorem readMember_memberText {m : String × Json} (hitem : item.ReadsMember level m)
    (h : skipBlanks cs = (memberText level m).toList ++ rest) :
    readMember item cs = .ok (m, rest) := by
  obtain ⟨text, htext, hkey⟩ :=
    readString_stringText m.1 (':' :: ' ' :: ((prettyAt level m.2).toList ++ rest))
  have hcolon : ": ".toList = [':', ' '] := rfl
  have hmember : (memberText level m).toList ++ rest =
      '"' :: (text ++ ':' :: ' ' :: ((prettyAt level m.2).toList ++ rest)) := by
    simp [memberText, htext, hcolon]
  have hskip : skipBlanks (':' :: ' ' :: ((prettyAt level m.2).toList ++ rest)) =
      ':' :: ' ' :: ((prettyAt level m.2).toList ++ rest) := skipBlanks_cons rfl
  rw [readMember, h, hmember]
  simp [hkey, hskip, hitem rest, bind, Except.bind, pure, Except.pure]

theorem readMoreMembers_of_close {acc : List (String × Json)} (h : skipBlanks cs = '\x7d' :: rest) :
    readMoreMembers item bound acc cs = .ok (ofMembers acc.reverse, rest) := by
  rw [readMoreMembers.eq_def, h]
  simp

theorem readMoreMembers_of_comma {acc : List (String × Json)} (h : skipBlanks cs = ',' :: rest) :
    readMoreMembers item (bound + 1) acc cs = (do
      let (m, rest) ← readMember item rest
      readMoreMembers item bound (m :: acc) rest) := by
  rw [readMoreMembers.eq_def, h]
  simp

theorem exists_memberText (level : Nat) (m : String × Json) :
    ∃ cs, (memberText level m).toList = '"' :: cs := by
  obtain ⟨cs, hcs, -⟩ := readString_stringText m.1 []
  rw [memberText, String.toList_append, String.toList_append, hcs]
  exact ⟨_, rfl⟩

theorem skipBlanks_memberText (level : Nat) (m : String × Json) (rest : List Char) :
    skipBlanks ((memberText level m).toList ++ rest) = (memberText level m).toList ++ rest := by
  obtain ⟨cs, hcs⟩ := exists_memberText level m
  rw [hcs]
  exact skipBlanks_cons rfl

theorem readMoreMembers_moreText {acc : List (String × Json)} (hbound : ms.length ≤ bound)
    (hitem : ∀ m ∈ ms, item.ReadsMember level m) (below : Nat) :
    readMoreMembers item bound acc
        (moreText level (memberText level) ms ++ ((newline below).toList ++ '\x7d' :: rest)) =
      .ok (ofMembers (acc.reverse ++ ms), rest) := by
  induction ms generalizing bound acc with
  | nil =>
    have hclose : skipBlanks ((newline below).toList ++ '\x7d' :: rest) = '\x7d' :: rest := by
      rw [skipBlanks_newline, skipBlanks_cons rfl]
    exact (readMoreMembers_of_close hclose).trans (by rw [List.append_nil])
  | cons m ms ih =>
    obtain ⟨bound, rfl⟩ : ∃ bound', bound = bound' + 1 := ⟨bound - 1, by simp at hbound; omega⟩
    have hbound : ms.length ≤ bound := by simpa using hbound
    obtain ⟨hread, hreads⟩ := List.forall_mem_cons.1 hitem
    have hnext : ∀ more,
        skipBlanks ((newline level).toList ++ ((memberText level m).toList ++ more)) =
          (memberText level m).toList ++ more := by
      intro more
      rw [skipBlanks_newline, skipBlanks_memberText]
    rw [moreText, List.flatMap_cons, List.append_assoc, List.cons_append, List.append_assoc,
      readMoreMembers_of_comma (skipBlanks_cons rfl), readMember_memberText hread (hnext _)]
    change readMoreMembers item bound (m :: acc) (moreText level (memberText level) ms ++ _) = _
    rw [ih hbound hreads, List.reverse_cons, List.append_assoc, List.singleton_append]

theorem readMembers_of_first (h : skipBlanks cs = c :: rest) (hc : c ≠ '\x7d') :
    readMembers item cs = (do
      let (m, rest) ← readMember item (c :: rest)
      readMoreMembers item rest.length [m] rest) := by
  rw [readMembers, h]
  split
  · rename_i heq
    exact absurd (List.cons.inj heq).1 hc
  · rfl

/-- An object is read after its opening brace. -/
theorem readMembers_pretty (hnodup : (Association.keys ms).Nodup)
    (hitem : ∀ m ∈ ms, item.ReadsMember (level + 1) m) :
    ∃ cs, (prettyAt level (object ms)).toList = '\x7b' :: cs ∧
      ∀ rest, readMembers item (cs ++ rest) = .ok (object ms, rest) := by
  cases ms with
  | nil =>
    refine ⟨['\x7d'], by simp [prettyAt_object, block], fun rest => ?_⟩
    have hclose : skipBlanks ('\x7d' :: rest) = '\x7d' :: rest := skipBlanks_cons rfl
    simp [readMembers, hclose]
  | cons m ms =>
    obtain ⟨hread, hreads⟩ := List.forall_mem_cons.1 hitem
    refine ⟨(newline (level + 1)).toList ++ ((memberText (level + 1) m).toList ++
      (moreText (level + 1) (memberText (level + 1)) ms ++ ((newline level).toList ++ ['\x7d']))),
      ?_, ?_⟩
    · rw [prettyAt_object, toList_block]
      rfl
    · intro rest
      simp only [List.append_assoc, List.singleton_append]
      have hskip := skipBlanks_memberText (level + 1) m
        (moreText (level + 1) (memberText (level + 1)) ms ++
          ((newline level).toList ++ '\x7d' :: rest))
      obtain ⟨cs, hcs⟩ := exists_memberText (level + 1) m
      have hfirst := readMember_memberText hread hskip
      rw [hcs, List.cons_append] at hfirst hskip ⊢
      rw [readMembers_of_first ((skipBlanks_newline _ _).trans hskip) (by decide), hfirst]
      change readMoreMembers item (List.length _) [m] _ = _
      rw [readMoreMembers_moreText ?_ hreads level]
      · rw [List.reverse_singleton, List.singleton_append, ofMembers_of_nodup hnodup]
      · have := length_le_moreText (level + 1) (memberText (level + 1)) ms
        rw [List.length_append]
        omega

/-! ## Values -/

theorem readValue_blank (depth : Nat) (cs : List Char) :
    readValue depth (' ' :: cs) = readValue depth cs := by
  have hskip : skipBlanks (' ' :: cs) = skipBlanks cs := rfl
  rw [readValue.eq_def, hskip, ← readValue.eq_def]

theorem readValue_of_quote (h : skipBlanks cs = '"' :: rest) :
    readValue depth cs = (do
      let (s, rest) ← readString rest
      return (string s, rest)) := by
  rw [readValue.eq_def, h]
  simp

theorem readValue_of_bracket (h : skipBlanks cs = '[' :: rest) :
    readValue (depth + 1) cs = readItems (readValue depth) rest := by
  rw [readValue.eq_def, h]
  simp

theorem readValue_of_brace (h : skipBlanks cs = '\x7b' :: rest) :
    readValue (depth + 1) cs = readMembers (readValue depth) rest := by
  rw [readValue.eq_def, h]
  simp

theorem readValue_pretty (hv : v.NumberFree) (hdepth : sizeOf v ≤ depth) (level : Nat)
    (rest : List Char) : readValue depth ((prettyAt level v).toList ++ rest) = .ok (v, rest) := by
  induction hv generalizing depth level rest with
  | null =>
    have hskip := skipBlanks_prettyAt .null level rest
    rw [prettyAt_null] at hskip ⊢
    rw [readValue.eq_def, hskip]
    simp [readLiteral]
  | bool b =>
    have hskip := skipBlanks_prettyAt (.bool b) level rest
    cases b with
    | true =>
      rw [prettyAt_true] at hskip ⊢
      rw [readValue.eq_def, hskip]
      simp [readLiteral]
    | false =>
      rw [prettyAt_false] at hskip ⊢
      rw [readValue.eq_def, hskip]
      simp [readLiteral]
  | string s =>
    obtain ⟨cs, hcs, hread⟩ := readString_stringText s rest
    rw [prettyAt_string, hcs, List.cons_append, readValue_of_quote (skipBlanks_cons rfl), hread]
    rfl
  | @array vs hfree ih =>
    obtain ⟨depth, rfl⟩ : ∃ depth', depth = depth' + 1 := ⟨depth - 1, by simp at hdepth; omega⟩
    have hitem : ∀ v ∈ vs, Reader.Reads (readValue depth) (level + 1) v := by
      intro v hv rest
      refine ih v hv ?_ (level + 1) rest
      have := List.sizeOf_lt_of_mem hv
      simp only [array.sizeOf_spec] at hdepth
      omega
    obtain ⟨cs, hcs, hread⟩ := readItems_pretty hfree hitem
    rw [hcs, List.cons_append, readValue_of_bracket (skipBlanks_cons rfl), hread]
  | @object ms hnodup hfree ih =>
    obtain ⟨depth, rfl⟩ : ∃ depth', depth = depth' + 1 := ⟨depth - 1, by simp at hdepth; omega⟩
    have hitem : ∀ m ∈ ms, Reader.ReadsMember (readValue depth) (level + 1) m := by
      intro m hm rest
      rw [readValue_blank]
      refine ih m hm ?_ (level + 1) rest
      have := sizeOf_lt_of_mem_members (v := object ms) hm
      omega
    obtain ⟨cs, hcs, hread⟩ := readMembers_pretty hnodup hitem
    rw [hcs, List.cons_append, readValue_of_brace (skipBlanks_cons rfl), hread]

/-- **What is printed reads back.**  The value needs no more levels of nesting than its size. -/
theorem readNested_pretty (hv : v.NumberFree) (hdepth : sizeOf v ≤ depth) :
    readNested depth v.pretty = .ok v := by
  have hread := readValue_pretty hv hdepth 0 []
  rw [List.append_nil] at hread
  rw [readNested, pretty, hread]
  rfl

/-- Different values are printed differently. -/
theorem pretty_inj {w : Json} (hv : v.NumberFree) (hw : w.NumberFree) (h : v.pretty = w.pretty) :
    v = w := by
  have hread := readNested_pretty hv (Nat.le_max_left (sizeOf v) (sizeOf w))
  rw [h, readNested_pretty hw (Nat.le_max_right (sizeOf v) (sizeOf w))] at hread
  exact (Except.ok.inj hread).symm

end JsonRecords.Json
