import JsonRecords.Proofs.LosslessBinding
import JsonRecords.Proofs.PathWalks

/-!
# Loaded documents

The readers collect the members of an object by insertion, so in what they read no object has a key
twice, at any depth (`wellFormed_of_loadDocument`).  Whether a file is JSON or YAML makes no
difference; a YAML document gets its objects one node at a time, aliases included.

What is true of all well-formed values therefore holds of the documents of the program: binding one
prints the document itself exactly if it has the declared keys in order wherever a closed record is
made of an object (`bindDocument_eq_document_iff`).
-/

namespace JsonRecords

variable {v : Json} {ms : List (String × Json)}

theorem wellFormed_ofMembers (h : ∀ m ∈ ms, m.2.WellFormed) : (Json.ofMembers ms).WellFormed := by
  obtain ⟨ns, hns, hnodup, hmem⟩ := Json.exists_ofMembers ms
  rw [hns]
  exact .object hnodup fun n hn => h n (hmem n hn)

/-! ## JSON -/

namespace Json

variable {item : Reader Json} {cs rest : List Char} {acc : List Json} {bound depth : Nat}

/-- All values that a reader gives are well-formed. -/
def Reader.GivesWellFormed (item : Reader Json) : Prop :=
  ∀ ⦃cs v rest⦄, item cs = .ok (v, rest) → v.WellFormed

theorem givesWellFormed_readLiteral {expected : List Char} (hv : v.WellFormed) :
    Reader.GivesWellFormed (readLiteral v expected) := by
  intro cs w rest h
  induction expected generalizing cs with
  | nil =>
    cases h
    exact hv
  | cons c more ih =>
    cases cs with
    | nil => cases h
    | cons d cs =>
      rw [readLiteral] at h
      split at h
      · exact ih h
      · cases h

theorem wellFormed_of_readMoreItems (hitem : item.GivesWellFormed) (hacc : ∀ v ∈ acc, v.WellFormed)
    (h : readMoreItems item bound acc cs = .ok (v, rest)) : v.WellFormed := by
  fun_induction readMoreItems item bound acc cs with
  | case1 bound acc cs rest' hclose =>
    cases h
    exact .array (by simpa using hacc)
  | case2 => cases h
  | case3 acc cs bound rest' hcomma hopen ih =>
    obtain ⟨⟨w, rest''⟩, hw, h⟩ := bind_eq_ok_iff.1 h
    exact ih w rest'' (List.forall_mem_cons.2 ⟨hitem hw, hacc⟩) h
  | case4 => cases h

theorem givesWellFormed_readItems (hitem : item.GivesWellFormed) :
    Reader.GivesWellFormed (readItems item) := by
  intro cs v rest h
  unfold readItems at h
  split at h
  · cases h
    exact .array (by simp)
  · cases h
  · obtain ⟨⟨w, rest'⟩, hw, h⟩ := bind_eq_ok_iff.1 h
    exact wellFormed_of_readMoreItems hitem (by simpa using hitem hw) h

theorem wellFormed_of_readMember {m : String × Json} (hitem : item.GivesWellFormed)
    (h : readMember item cs = .ok (m, rest)) : m.2.WellFormed := by
  unfold readMember at h
  split at h
  · obtain ⟨⟨key, rest'⟩, -, h⟩ := bind_eq_ok_iff.1 h
    dsimp only at h
    split at h
    · obtain ⟨⟨w, rest''⟩, hw, h⟩ := bind_eq_ok_iff.1 h
      cases h
      exact hitem hw
    · cases h
  · cases h

theorem wellFormed_of_readMoreMembers (hitem : item.GivesWellFormed)
    (hms : ∀ m ∈ ms, m.2.WellFormed)
    (h : readMoreMembers item bound ms cs = .ok (v, rest)) : v.WellFormed := by
  fun_induction readMoreMembers item bound ms cs with
  | case1 bound ms cs rest' hclose =>
    cases h
    exact wellFormed_ofMembers (by simpa using hms)
  | case2 ms cs rest' bound hcomma ih =>
    obtain ⟨⟨m, rest''⟩, hm, h⟩ := bind_eq_ok_iff.1 h
    exact ih m rest'' (List.forall_mem_cons.2 ⟨wellFormed_of_readMember hitem hm, hms⟩) h
  | case3 => cases h

theorem givesWellFormed_readMembers (hitem : item.GivesWellFormed) :
    Reader.GivesWellFormed (readMembers item) := by
  intro cs v rest h
  unfold readMembers at h
  split at h
  · cases h
    exact .object List.nodup_nil (by simp)
  · obtain ⟨⟨m, rest'⟩, hm, h⟩ := bind_eq_ok_iff.1 h
    exact wellFormed_of_readMoreMembers hitem
      (by simpa using wellFormed_of_readMember hitem hm) h

theorem givesWellFormed_readValue (depth : Nat) : Reader.GivesWellFormed (readValue depth) := by
  induction depth using Nat.strongRecOn with
  | ind depth ih =>
    intro cs v rest h
    unfold readValue at h
    split at h
    · exact givesWellFormed_readLiteral .null h
    · exact givesWellFormed_readLiteral (.bool true) h
    · exact givesWellFormed_readLiteral (.bool false) h
    · obtain ⟨⟨text, rest'⟩, -, h⟩ := bind_eq_ok_iff.1 h
      cases h
      exact .string text
    · exact givesWellFormed_readItems (ih _ (Nat.lt_succ_self _)) h
    · exact givesWellFormed_readMembers (ih _ (Nat.lt_succ_self _)) h
    · split at h
      · obtain ⟨⟨n, rest'⟩, -, h⟩ := bind_eq_ok_iff.1 h
        cases h
        exact .number n
      · cases h
    · cases h

theorem wellFormed_of_read {text : String} (h : read text = .ok v) : v.WellFormed := by
  obtain ⟨⟨w, rest⟩, hw, h⟩ := bind_eq_ok_iff.1 h
  dsimp only at h
  split at h
  · cases h
    exact givesWellFormed_readValue 127 hw
  · cases h

end Json

/-! ## YAML -/

namespace Yaml

variable {α β : Type} {P : β → Prop} {Q : α → Prop}

theorem wellFormed_of_null? {text : String} (h : null? text = some v) : v.WellFormed := by
  unfold null? at h
  split at h
  · cases h
    exact .null
  · cases h

theorem wellFormed_of_bool? {text : String} (h : bool? text = some v) : v.WellFormed := by
  unfold bool? at h
  split at h
  · cases h
    exact .bool true
  · split at h
    · cases h
      exact .bool false
    · cases h

theorem wellFormed_of_integerValue? {n : Int} (h : integerValue? n = some v) : v.WellFormed := by
  unfold integerValue? at h
  split at h
  · cases h
    exact .number _
  · cases h

theorem wellFormed_floatValue (x : Float) : (floatValue x).WellFormed := by
  cases x with
  | finite x => exact .number _
  | special => exact .null

theorem wellFormed_of_plainValue? {text : String} (h : plainValue? text = some v) :
    v.WellFormed := by
  unfold plainValue? at h
  dsimp only at h
  split at h
  · cases h
    exact .null
  · split at h
    · rename_i w hw
      cases h
      cases hnull : null? text with
      | some u =>
        rw [hnull] at hw
        cases hw
        exact wellFormed_of_null? hnull
      | none =>
        rw [hnull] at hw
        exact wellFormed_of_bool? hw
    · split at h
      · exact wellFormed_of_integerValue? h
      · cases h
        generalize (if isZeroPadded text.toList = true then none else float? text.toList) = float
        cases float with
        | none => exact .string text
        | some x => exact wellFormed_floatValue x

theorem wellFormed_of_scalarValue? {tag : Option String} {text : String} {style : Style}
    (h : scalarValue? tag text style = some v) : v.WellFormed := by
  unfold scalarValue? at h
  repeat' split at h
  · exact wellFormed_of_plainValue? h
  · cases h
    exact .string text
  · cases h
  · exact wellFormed_of_null? h
  · exact wellFormed_of_bool? h
  · obtain ⟨n, -, h⟩ := Option.bind_eq_some_iff.1 h
    exact wellFormed_of_integerValue? h
  · obtain ⟨x, -, rfl⟩ := Option.map_eq_some_iff.1 h
    exact wellFormed_floatValue x
  · cases h
    exact .string text

/-- All results of a step that counts aliases have a property. -/
def Yields (P : α → Prop) (step : StateT Nat Option α) : Prop :=
  ∀ ⦃left a left'⦄, step.run left = some (a, left') → P a

namespace Yields

theorem any (step : StateT Nat Option α) : Yields (fun _ => True) step :=
  fun _ _ _ _ => trivial

theorem pure {a : α} (h : Q a) : Yields Q (Pure.pure a) := by
  intro left a' left' hrun
  cases hrun
  exact h

theorem failure : Yields Q failure := by
  intro left a left' hrun
  cases hrun

theorem bind {step : StateT Nat Option α} {next : α → StateT Nat Option β} (h : Yields Q step)
    (hnext : ∀ a, Q a → Yields P (next a)) : Yields P (step >>= next) := by
  intro left b left' hrun
  rw [StateT.run_bind] at hrun
  obtain ⟨⟨a, left''⟩, ha, hb⟩ := Option.bind_eq_some_iff.1 hrun
  exact hnext a (h ha) hb

theorem mapM {f : α → StateT Nat Option β} {as : List α} (h : ∀ a ∈ as, Yields P (f a)) :
    Yields (fun bs => ∀ b ∈ bs, P b) (as.mapM f) := by
  induction as with
  | nil =>
    rw [List.mapM_nil]
    exact pure (by simp)
  | cons a rest ih =>
    obtain ⟨ha, hrest⟩ := List.forall_mem_cons.1 h
    rw [List.mapM_cons]
    refine ha.bind fun b hb => (ih hrest).bind fun bs hbs => ?_
    exact pure (List.forall_mem_cons.2 ⟨hb, hbs⟩)

end Yields

theorem yields_scalarValue? (tag : Option String) (text : String) (style : Style) :
    Yields Json.WellFormed (liftM (scalarValue? tag text style)) := by
  intro left v left' hrun
  obtain ⟨w, hw, hsame⟩ := Option.bind_eq_some_iff.1 hrun
  cases hsame
  exact wellFormed_of_scalarValue? hw

theorem yields_valueIn (root : Node Nat) (depth : Nat) (node : Node Nat) :
    Yields Json.WellFormed (valueIn root depth node) := by
  induction depth generalizing node with
  | zero =>
    unfold valueIn
    refine (Yields.any (follow root node)).bind fun node _ => ?_
    cases node with
    | scalar properties text style => exact yields_scalarValue? properties.tag text style
    | _ => exact .failure
  | succ depth ih =>
    unfold valueIn
    refine (Yields.any (follow root node)).bind fun node _ => ?_
    cases node with
    | scalar properties text style => exact yields_scalarValue? properties.tag text style
    | sequence properties items =>
      refine (Yields.any (checkTag properties)).bind fun _ _ => ?_
      exact (Yields.mapM fun item _ => ih item).bind fun vs hvs => .pure (.array hvs)
    | mapping properties members =>
      refine (Yields.any (checkTag properties)).bind fun _ _ => ?_
      have hmember : ∀ member ∈ members, Yields (fun m : String × Json => m.2.WellFormed)
          (do return (← keyText root member.1, ← valueIn root depth member.2)) := by
        intro member _
        refine (Yields.any (keyText root member.1)).bind fun key _ => ?_
        exact (ih member.2).bind fun v hv => .pure hv
      exact (Yields.mapM hmember).bind fun ms hms => .pure (wellFormed_ofMembers hms)
    | _ => exact .failure

theorem wellFormed_of_read {text : String} (h : read text = some v) : v.WellFormed := by
  obtain ⟨tokens, -, h⟩ := Option.bind_eq_some_iff.1 h
  obtain ⟨nodes, -, h⟩ := Option.bind_eq_some_iff.1 h
  split at h
  · cases h
    exact .null
  · rename_i node
    obtain ⟨numbered, -, h⟩ := Option.bind_eq_some_iff.1 h
    obtain ⟨⟨w, left⟩, hrun, rfl⟩ := Option.map_eq_some_iff.1 h
    exact yields_valueIn numbered depthLimit numbered hrun
  · cases h

end Yaml

/-! ## The documents of the program -/

/-- No object of a loaded document has a key twice. -/
theorem wellFormed_of_loadDocument {store : Store} {path : String}
    (h : loadDocument store path = .ok v) : v.WellFormed := by
  unfold loadDocument at h
  repeat' split at h
  all_goals cases h
  · rename_i hread
    exact Yaml.wellFormed_of_read hread
  · rename_i hread
    exact Json.wellFormed_of_read hread

/-- A document that is bound is printed as it stands exactly if its keys are in order wherever a
closed record is made of an object. -/
theorem Command.bindDocument_eq_document_iff {store : Store} {root schema document : String}
    {t : RecordType} (hcompile : Command.compileSchema store root schema = .ok t)
    (hload : loadDocument store document = .ok v) (hobject : v.isObject = true) :
    Command.bindDocument store root schema document none = .ok v ↔
      ∀ u ms, Visits u ms ⟨some t, none⟩ v → u.policy = .closed →
        u.KeysInOrder (Association.keys ms) := by
  have hv := wellFormed_of_loadDocument hload
  have hself := toJson_bind_eq_self_iff (s := ⟨some t, none⟩) (v := v)
    fun u ms hvisits _ => hvisits.nodup_keys hv
  cases v with
  | object ms =>
    -- As a shape the type makes the same record, and its JSON form is what is printed.
    rw [← hself, bind_object rfl, BoundValue.toJson]
    have hprint : Command.bindDocument store root schema document none =
        .ok (t.bindMembers ms).toJson :=
      Command.bindDocument_eq_ok_iff.2 ⟨t, _, _, hcompile, hload, rfl, rfl⟩
    rw [hprint, Except.ok.injEq]
  | _ => cases hobject

end JsonRecords
