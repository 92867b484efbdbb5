import JsonRecords.Files.Store
import JsonRecords.Text.Pieces

/-!
# Where walks end

Whatever links a walk follows and however often it goes up, it ends at a place to which a way leads
from the root through directories alone.  `Store.HasDirectory` and `Store.HasPlace` say what such a
way is, and `Store.hasPlace_of_walk` that every walk from a directory that has one ends at a place
that has one.
-/

namespace JsonRecords

/-- A text that paths can have as a step. -/
structure IsStep (step : String) : Prop where
  nonempty : step ≠ ""
  slashFree : '/' ∉ step.toList

/-- A step to an entry of the directory it is taken from. -/
structure IsName (step : String) : Prop extends IsStep step where
  ne_here : step ≠ "."
  ne_up : step ≠ ".."
  short : step.utf8ByteSize ≤ Store.nameLimit

namespace Path

theorem isStep_of_mem_pieces {path step : String} (h : step ∈ pieces path) : IsStep step := by
  rw [pieces, List.mem_filter, List.mem_map] at h
  obtain ⟨⟨piece, hpiece, rfl⟩, hne⟩ := h
  refine ⟨of_decide_eq_true hne, ?_⟩
  rw [String.toList_ofList]
  exact Pieces.not_mem_of_mem_splitOn hpiece

theorem isStep_here : IsStep "." := ⟨by decide, by decide⟩

theorem isStep_of_mem_steps {path step : String} (h : step ∈ steps path) : IsStep step := by
  rw [steps, List.mem_append] at h
  rcases h with h | h
  · exact isStep_of_mem_pieces h
  · split at h
    · rw [List.mem_singleton.1 h]
      exact isStep_here
    · cases h

end Path

def Entry.isFile : Entry → Bool
  | .text _ => true
  | .binary => true
  | _ => false

namespace Store

/-- The names lead from the root through directories to a directory. -/
inductive HasDirectory (store : Store) : List String → Prop where
  | root : HasDirectory store []
  | child {here : List String} {name : String} (h : HasDirectory store here) (hname : IsName name)
      (hentry : store.entryAt (here ++ [name]) = some .directory) :
      HasDirectory store (here ++ [name])

/-- The names lead from the root through directories to the entry, a directory or a file. -/
inductive HasPlace (store : Store) : Place → Prop where
  | directory {here : List String} (h : HasDirectory store here) : HasPlace store ⟨here, .directory⟩
  | file {here : List String} {name : String} {entry : Entry} (h : HasDirectory store here)
      (hname : IsName name) (hentry : store.entryAt (here ++ [name]) = some entry)
      (hfile : entry.isFile = true) : HasPlace store ⟨here ++ [name], entry⟩

variable {store : Store} {here steps : List String} {place : Place}

theorem HasDirectory.dropLast (h : HasDirectory store here) :
    HasDirectory store here.dropLast := by
  cases h with
  | root => exact .root
  | child h =>
    rw [List.dropLast_concat]
    exact h

theorem HasDirectory.entryAt (h : HasDirectory store here) :
    store.entryAt here = some .directory := by
  cases h with
  | root => rfl
  | child _ _ hentry => exact hentry

theorem HasPlace.entryAt (h : HasPlace store place) :
    store.entryAt place.names = some place.entry := by
  cases h with
  | directory h => exact h.entryAt
  | file _ _ hentry => exact hentry

/-! ## Walks -/

/-- One stretch of a walk ends at such a place if the walk after the next link does. -/
theorem hasPlace_of_walkSteps {follow : List String → List String → Except FileError Place}
    (hfollow : ∀ here steps, HasDirectory store here → (∀ step ∈ steps, IsStep step) →
      follow here steps = .ok place → HasPlace store place)
    (hhere : HasDirectory store here) (hsteps : ∀ step ∈ steps, IsStep step)
    (h : store.walkSteps follow here steps = .ok place) : HasPlace store place := by
  induction steps generalizing here with
  | nil =>
    have hplace : place = ⟨here, .directory⟩ := (Except.ok.inj h).symm
    rw [hplace]
    exact .directory hhere
  | cons step rest ih =>
    obtain ⟨hstep, hrest⟩ := List.forall_mem_cons.1 hsteps
    rw [walkSteps] at h
    by_cases hdot : step = "."
    · rw [if_pos hdot] at h
      exact ih hhere hrest h
    by_cases hup : step = ".."
    · rw [if_neg hdot, if_pos hup] at h
      exact ih hhere.dropLast hrest h
    by_cases hlong : nameLimit < step.utf8ByteSize
    · rw [if_neg hdot, if_neg hup, if_pos hlong] at h
      cases h
    have hname : IsName step := ⟨hstep, hdot, hup, Nat.le_of_not_lt hlong⟩
    rw [if_neg hdot, if_neg hup, if_neg hlong] at h
    split at h
    · cases h
    · rename_i hentry
      exact ih (.child hhere hname hentry) hrest h
    · rename_i target hentry
      -- the walk goes on with the steps of the link and from where the link counts from
      have hstart : HasDirectory store (if Path.isAbsolute target then [] else here) := by
        split
        · exact .root
        · exact hhere
      have htarget : ∀ step ∈ Path.steps target ++ rest, IsStep step :=
        List.forall_mem_append.2 ⟨fun _ => Path.isStep_of_mem_steps, hrest⟩
      exact hfollow _ _ hstart htarget h
    · rename_i file hdirectory hlink hentry
      split at h
      · have hplace : place = ⟨here ++ [step], file⟩ := (Except.ok.inj h).symm
        have hfile : file.isFile = true := by
          cases file with
          | directory => exact absurd rfl hdirectory
          | link target => exact absurd rfl (hlink target)
          | _ => rfl
        rw [hplace]
        exact .file hhere hname hentry hfile
      · cases h

theorem hasPlace_of_walk (links : Nat) (hhere : HasDirectory store here)
    (hsteps : ∀ step ∈ steps, IsStep step) (h : store.walk links here steps = .ok place) :
    HasPlace store place := by
  induction links generalizing here steps with
  | zero =>
    have hnone : ∀ (here steps : List String), HasDirectory store here →
        (∀ step ∈ steps, IsStep step) →
        (.error .tooManyLinks : Except FileError Place) = .ok place → HasPlace store place := by
      intro _ _ _ _ h
      cases h
    exact hasPlace_of_walkSteps hnone hhere hsteps h
  | succ links ih =>
    exact hasPlace_of_walkSteps (fun here steps hhere hsteps => ih hhere hsteps) hhere hsteps h

theorem hasPlace_of_locate {path : String} (h : store.locate path = .ok place) :
    HasPlace store place := by
  have hsteps : ∀ step ∈ store.stepsFromRoot path, IsStep step := by
    unfold stepsFromRoot
    split
    · intro step
      exact Path.isStep_of_mem_steps
    · exact List.forall_mem_append.2
        ⟨fun _ => Path.isStep_of_mem_pieces, fun _ => Path.isStep_of_mem_steps⟩
  unfold locate at h
  split at h
  · cases h
  · exact hasPlace_of_walk linkLimit .root hsteps h

/-! ## What a path gives -/

/-- Reading gives the content of the file that the path leads to. -/
theorem read_eq_ok_iff {path content : String} :
    store.read path = .ok content ↔
      ∃ names, store.locate path = .ok ⟨names, .text content⟩ := by
  unfold read
  cases hplace : store.locate path with
  | error e => simp [bind, Except.bind]
  | ok place =>
    obtain ⟨names, entry⟩ := place
    cases entry <;> simp [bind, Except.bind]

/-- The canonical path is the way to the place that the path leads to. -/
theorem canonical_eq_ok_iff {path : String} {real : AbsolutePath} :
    store.canonical path = .ok real ↔
      (∃ entry, store.locate path = .ok ⟨real.names, entry⟩) ∧ pathFault? real.text = none := by
  unfold canonical
  cases hplace : store.locate path with
  | error e => simp [bind, Except.bind]
  | ok place =>
    obtain ⟨names, entry⟩ := place
    obtain ⟨names'⟩ := real
    simp only [bind, Except.bind]
    by_cases hnames : names = names'
    · subst hnames
      cases pathFault? (AbsolutePath.text ⟨names⟩) <;> simp
    · cases pathFault? (AbsolutePath.text ⟨names⟩) <;> simp [hnames]

end Store

end JsonRecords
