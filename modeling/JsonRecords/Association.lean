/-!
# Lists of keys with values

Maps that keep the order of their keys are lists of pairs, read by `List.lookup`.
`Association.insert` gives a new key the last place; a known key keeps its place and takes the new
value, so an insertion never makes a key occur twice.
-/

namespace JsonRecords.Association

variable {α : Type u} {β : Type v}

def keys (entries : List (α × β)) : List α := entries.map Prod.fst

def insert [DecidableEq α] (entries : List (α × β)) (key : α) (value : β) : List (α × β) :=
  match entries with
  | [] => [(key, value)]
  | (k, v) :: rest => if k = key then (k, value) :: rest else (k, v) :: insert rest key value

theorem mem_of_lookup_eq_some [BEq α] [LawfulBEq α] {key : α} {value : β}
    {entries : List (α × β)} (h : entries.lookup key = some value) : (key, value) ∈ entries := by
  obtain ⟨before, after, rfl, -⟩ := List.lookup_eq_some_iff.1 h
  simp

theorem lookup_eq_some_of_mem [BEq α] [LawfulBEq α] {key : α} {value : β}
    {entries : List (α × β)} (h : (keys entries).Nodup) (hm : (key, value) ∈ entries) :
    entries.lookup key = some value := by
  induction entries with
  | nil => simp at hm
  | cons e rest ih =>
    obtain ⟨k, v⟩ := e
    obtain ⟨hk, hrest⟩ := List.nodup_cons.1 h
    rcases List.mem_cons.1 hm with he | hm'
    · cases he
      exact List.lookup_cons_self
    · have hne : (key == k) = false := by
        rw [beq_eq_false_iff_ne]
        rintro rfl
        exact hk (List.mem_map.2 ⟨_, hm', rfl⟩)
      rw [List.lookup_cons, hne]
      exact ih hrest hm'

theorem lookup_eq_none_of_not_mem [BEq α] [LawfulBEq α] {key : α} {entries : List (α × β)}
    (h : key ∉ keys entries) : entries.lookup key = none := by
  rw [List.lookup_eq_none_iff]
  intro e he
  rw [bne_iff_ne]
  rintro rfl
  exact h (List.mem_map.2 ⟨e, he, rfl⟩)

/-- Values that are replaced key by key are found replaced. -/
theorem lookup_map_values {γ : Type w} [BEq α] [LawfulBEq α] (f : α → β → γ)
    (entries : List (α × β)) (key : α) :
    (entries.map fun e => (e.1, f e.1 e.2)).lookup key = (entries.lookup key).map (f key) := by
  induction entries with
  | nil => rfl
  | cons e rest ih =>
    obtain ⟨k, v⟩ := e
    rw [List.map_cons, List.lookup_cons, List.lookup_cons, ih]
    cases hk : key == k with
    | true =>
      rw [eq_of_beq hk]
      rfl
    | false => rfl

/-- Entries that are picked by their keys are found as before. -/
theorem lookup_filter_keys [BEq α] [LawfulBEq α] (p : α → Bool) (entries : List (α × β))
    (key : α) :
    (entries.filter fun e => p e.1).lookup key = if p key then entries.lookup key else none := by
  induction entries with
  | nil => simp
  | cons e rest ih =>
    obtain ⟨k, v⟩ := e
    rw [List.filter_cons, List.lookup_cons]
    by_cases hk : key = k
    · subst hk
      cases hp : p key with
      | true => simp
      | false => simp [ih, hp]
    · have hne : (key == k) = false := beq_eq_false_iff_ne.2 hk
      cases p k with
      | true => simpa [hne, List.lookup_cons] using ih
      | false => simpa [hne] using ih

/-- Replacements of values are equal if the keys are and the values become equal place by place. -/
theorem map_values_eq_iff {γ : Type w} {f : α → β → γ} {left right : List (α × β)} :
    (left.map fun e => (e.1, f e.1 e.2)) = (right.map fun e => (e.1, f e.1 e.2)) ↔
      keys left = keys right ∧ ∀ p ∈ left.zip right, f p.1.1 p.1.2 = f p.1.1 p.2.2 := by
  induction left generalizing right with
  | nil => cases right <;> simp [keys]
  | cons e rest ih =>
    cases right with
    | nil => simp [keys]
    | cons e' rest' =>
      obtain ⟨key, value⟩ := e
      obtain ⟨key', value'⟩ := e'
      simp only [List.map_cons, List.cons.injEq, Prod.mk.injEq, keys, List.zip_cons_cons,
        List.forall_mem_cons] at ih ⊢
      rw [ih]
      constructor
      · rintro ⟨⟨rfl, hvalue⟩, hkeys, hrest⟩
        exact ⟨⟨rfl, hkeys⟩, hvalue, hrest⟩
      · rintro ⟨⟨rfl, hkeys⟩, hvalue, hrest⟩
        exact ⟨⟨rfl, hvalue⟩, hkeys, hrest⟩

/-- A replacement of values changes nothing if it changes none of the values. -/
theorem map_values_eq_self_iff {f : α → β → β} {entries : List (α × β)} :
    (entries.map fun e => (e.1, f e.1 e.2)) = entries ↔ ∀ e ∈ entries, f e.1 e.2 = e.2 := by
  induction entries with
  | nil => simp
  | cons e rest ih =>
    rw [List.map_cons, List.cons.injEq, List.forall_mem_cons, ih]
    exact and_congr_left fun _ => ⟨congrArg Prod.snd, fun h => Prod.ext rfl h⟩

theorem mem_keys_insert [DecidableEq α] {entries : List (α × β)} {key k : α} {value : β} :
    k ∈ keys (insert entries key value) ↔ k = key ∨ k ∈ keys entries := by
  induction entries with
  | nil => simp [insert, keys]
  | cons e rest ih =>
    obtain ⟨k', v⟩ := e
    unfold insert
    split
    · subst_vars
      simp [keys]
    · simp only [keys, List.map_cons, List.mem_cons] at ih ⊢
      rw [ih]
      grind

theorem nodup_keys_insert [DecidableEq α] {entries : List (α × β)} {key : α} {value : β}
    (h : (keys entries).Nodup) : (keys (insert entries key value)).Nodup := by
  induction entries with
  | nil => simp [insert, keys]
  | cons e rest ih =>
    obtain ⟨k', v⟩ := e
    simp only [keys, List.map_cons, List.nodup_cons] at h
    unfold insert
    split
    · simpa [keys] using h
    · rename_i hne
      have hk : k' ∉ keys (insert rest key value) := fun hm =>
        (mem_keys_insert.1 hm).elim hne h.1
      exact List.nodup_cons.2 ⟨hk, ih h.2⟩

theorem mem_insert [DecidableEq α] {entries : List (α × β)} {e : α × β} {key : α} {value : β}
    (h : e ∈ insert entries key value) : e ∈ entries ∨ e = (key, value) := by
  induction entries with
  | nil => exact Or.inr (List.mem_singleton.1 h)
  | cons first rest ih =>
    obtain ⟨k, v⟩ := first
    unfold insert at h
    split at h
    · rcases List.mem_cons.1 h with rfl | hrest
      · simp_all
      · exact Or.inl (List.mem_cons_of_mem _ hrest)
    · rcases List.mem_cons.1 h with rfl | hrest
      · exact Or.inl List.mem_cons_self
      · exact (ih hrest).imp_left (List.mem_cons_of_mem _)

theorem insert_of_not_mem_keys [DecidableEq α] {entries : List (α × β)} {key : α} {value : β}
    (h : key ∉ keys entries) : insert entries key value = entries ++ [(key, value)] := by
  induction entries with
  | nil => rfl
  | cons e rest ih =>
    obtain ⟨k, v⟩ := e
    simp only [keys, List.map_cons, List.mem_cons, not_or] at h
    rw [insert, if_neg (Ne.symm h.1), ih h.2]
    rfl

/-- Entries whose keys are new and distinct are added as they stand. -/
theorem foldl_insert [DecidableEq α] {entries more : List (α × β)}
    (h : (keys (entries ++ more)).Nodup) :
    more.foldl (fun acc e => insert acc e.1 e.2) entries = entries ++ more := by
  induction more generalizing entries with
  | nil => simp
  | cons e rest ih =>
    have hnew : e.1 ∉ keys entries := by
      intro hmem
      rw [keys, List.map_append, List.nodup_append] at h
      exact h.2.2 e.1 hmem e.1 (by simp) rfl
    rw [← List.singleton_append, ← List.append_assoc] at h
    rw [List.foldl_cons, insert_of_not_mem_keys hnew, ih h, List.append_assoc,
      List.singleton_append]

theorem foldl_insert_nil [DecidableEq α] {entries : List (α × β)} (h : (keys entries).Nodup) :
    entries.foldl (fun acc e => insert acc e.1 e.2) [] = entries :=
  foldl_insert h

end JsonRecords.Association
