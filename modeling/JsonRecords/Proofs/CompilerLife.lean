import JsonRecords.Proofs.Circles
import JsonRecords.Proofs.Termination
import Mathlib.Logic.Relation

/-!
# The life of a compiler

A compiler may be asked again and again, about whatever documents, and many of its calls may fail.
In between the files may change.  `Next` lets it do all that: a state goes on with a step of the
machine, on any store, or with another call when the last one has come to its outcome.  What the
earlier calls left behind is there in the later ones, the path included.

Two things stay in order all the time (`WellKept`).  The path holds the targets of the frames, no
target twice, and nothing that is known already; and what is known is known once.  All of it comes
from what a single step can do to the path and to the knowledge (`Effect`): nothing, put a new
target on the path, or take the last one off, keeping its shape if there is one.
-/

namespace JsonRecords.Machine

open Json Relation

variable {store : Store} {σ σ' σ'' : State} {t : Target} {s : Shape}

/-! ## What a step does -/

def Frame.target? : Frame → Option Target
  | .target t => some t
  | _ => none

/-- The targets that the frames will take off the path, the innermost first. -/
def targetsOf (frames : List Frame) : List Target := frames.filterMap Frame.target?

/-- What can become of the path and of what the compiler knows. -/
inductive Effect (σ σ' : State) : Prop where
  | within (compiler : σ'.compiler = σ.compiler) (path : σ'.path = σ.path)
      (frames : targetsOf σ'.frames = targetsOf σ.frames)
  | begins (t : Target) (unknown : σ.compiler.shape? t = none) (new : t ∉ σ.path)
      (compiler : σ'.compiler = σ.compiler) (path : σ'.path = t :: σ.path)
      (frames : σ'.frames = .target t :: σ.frames)
  | completes (t : Target) (s : Shape) (compiler : σ'.compiler = σ.compiler.keep t s)
      (path : σ'.path = σ.path.tail) (frames : σ.frames = .target t :: σ'.frames)
  | abandons (t : Target) (compiler : σ'.compiler = σ.compiler) (path : σ'.path = σ.path.tail)
      (frames : σ.frames = .target t :: σ'.frames)

theorem effect_of_enter (store : Store) (ctx : Context) (frames : List Frame) (c : Compiler)
    (path : List Target) (task : Task) :
    Effect ⟨.call ctx task, frames, c, path⟩ (enter store ctx frames c path task) := by
  cases task with
  | root =>
    simp only [enter]
    split
    · exact .within rfl rfl rfl
    · split <;> exact .within rfl rfl rfl
  | object node => exact .within rfl rfl rfl
  | fields node found left =>
    cases left <;> exact .within rfl rfl rfl
  | patterns node fields found left =>
    cases left with
    | nil => exact .within rfl rfl rfl
    | cons e left =>
      simp only [enter]
      split <;> exact .within rfl rfl rfl
  | items node =>
    simp only [enter]
    split <;> exact .within rfl rfl rfl
  | node node =>
    simp only [enter]
    split
    · split
      · exact .within rfl rfl rfl
      · exact .within rfl rfl rfl
      · split <;> exact .within rfl rfl rfl
    · exact .within rfl rfl rfl
  | rest node record =>
    simp only [enter]
    split <;> exact .within rfl rfl rfl
  | reference text =>
    simp only [enter]
    split
    · exact .within rfl rfl rfl
    · split
      · exact .within rfl rfl rfl
      · rename_i hs
        split
        · exact .within rfl rfl rfl
        · rename_i hp
          exact .begins _ hs hp rfl rfl rfl

theorem effect_of_resume {frames : List Frame} {c : Compiler} {path : List Target} {F : Frame}
    {a : Compiler.Answer} (h : resume frames c path F a = some σ') :
    Effect ⟨.answer a, F :: frames, c, path⟩ σ' := by
  cases F <;> cases a <;> cases h
  case target.shape t s => exact .completes t s rfl rfl rfl
  all_goals exact .within rfl rfl rfl

theorem effect_of_step (h : step store σ = some σ') : Effect σ σ' := by
  obtain ⟨control, frames, c, path⟩ := σ
  cases control with
  | call ctx task =>
    cases h
    exact effect_of_enter store ctx frames c path task
  | answer a =>
    cases frames with
    | nil => cases h
    | cons F frames => exact effect_of_resume h
  | raise e =>
    cases frames with
    | nil => cases h
    | cons F frames =>
      cases h
      cases F with
      | target t => exact .abandons t rfl rfl rfl
      | _ => exact .within rfl rfl rfl

/-! ## What stays in order -/

/-- The path consists of the targets of the frames, has none of them twice and none that is known,
and nothing is known twice. -/
structure WellKept (σ : State) : Prop where
  path_eq : σ.path = targetsOf σ.frames
  nodup_path : σ.path.Nodup
  unknown : ∀ t ∈ σ.path, σ.compiler.shape? t = none
  nodup_known : (Association.keys σ.compiler.compiled).Nodup

theorem not_mem_keys_of_shape?_eq_none {c : Compiler} (h : c.shape? t = none) :
    t ∉ Association.keys c.compiled := by
  intro hmem
  obtain ⟨e, he, rfl⟩ := List.mem_map.1 hmem
  exact absurd (beq_self_eq_true e.1) (by simpa using List.lookup_eq_none_iff.1 h e he)

/-- A frame of a target that is left takes its target off the path. -/
theorem WellKept.path_of_leave (h : WellKept σ) (hp : σ'.path = σ.path.tail)
    (hf : σ.frames = .target t :: σ'.frames) :
    σ.path = t :: σ'.path ∧ σ'.path = targetsOf σ'.frames := by
  have hpath : σ.path = t :: targetsOf σ'.frames := by
    rw [h.path_eq, hf]
    rfl
  rw [hpath, List.tail_cons] at hp
  exact ⟨hp ▸ hpath, hp⟩

theorem Effect.wellKept (h : Effect σ σ') (hσ : WellKept σ) : WellKept σ' := by
  cases h with
  | within hc hp hf =>
    refine ⟨?_, hp ▸ hσ.nodup_path, ?_, hc ▸ hσ.nodup_known⟩
    · rw [hp, hσ.path_eq, hf]
    · rw [hp, hc]
      exact hσ.unknown
  | begins t hs hnew hc hp hf =>
    refine ⟨?_, ?_, ?_, hc ▸ hσ.nodup_known⟩
    · rw [hp, hf, hσ.path_eq]
      rfl
    · rw [hp]
      exact List.nodup_cons.2 ⟨hnew, hσ.nodup_path⟩
    · rw [hp, hc]
      exact List.forall_mem_cons.2 ⟨hs, hσ.unknown⟩
  | completes t s hc hp hf =>
    obtain ⟨hcut, hpath⟩ := hσ.path_of_leave hp hf
    obtain ⟨ht, hnodup⟩ := List.nodup_cons.1 (hcut ▸ hσ.nodup_path)
    obtain ⟨hs, hunknown⟩ := List.forall_mem_cons.1 (hcut ▸ hσ.unknown)
    refine ⟨hpath, hnodup, fun u hu => ?_, ?_⟩
    · have hne : u ≠ t := fun e => ht (e ▸ hu)
      rw [hc, Compiler.shape?_keep_of_ne _ _ _ hne]
      exact hunknown u hu
    · rw [hc]
      exact List.nodup_cons.2 ⟨not_mem_keys_of_shape?_eq_none hs, hσ.nodup_known⟩
  | abandons t hc hp hf =>
    obtain ⟨hcut, hpath⟩ := hσ.path_of_leave hp hf
    refine ⟨hpath, (List.nodup_cons.1 (hcut ▸ hσ.nodup_path)).2, ?_, hc ▸ hσ.nodup_known⟩
    rw [hc]
    exact (List.forall_mem_cons.1 (hcut ▸ hσ.unknown)).2

theorem Effect.suffix (h : Effect σ σ') : σ.compiler.compiled <:+ σ'.compiler.compiled := by
  cases h with
  | within hc | begins _ _ _ hc | abandons _ hc => exact hc ▸ List.suffix_rfl
  | completes t s hc =>
    rw [hc]
    exact List.suffix_cons _ _

/-! ## A whole life -/

/-- A call has come to its outcome, and nothing is being done. -/
def State.Idle (σ : State) : Prop := ∃ path outcome, σ = .ofOutcome [] path outcome

/-- How the life of a compiler goes on: with a step on the store as it is now, or with another call
when there is nothing left to do. -/
inductive Next : State → State → Prop where
  | step {store : Store} {σ σ' : State} (h : step store σ = some σ') : Next σ σ'
  | call {σ : State} (idle : σ.Idle) (call : Compiler.Call) :
      Next σ (.ofCall σ.compiler σ.path call)

/-- The next step hands the shape of a target to the frame that keeps it. -/
def State.Completes (t : Target) (σ : State) : Prop :=
  ∃ s frames, σ.control = .answer (.shape s) ∧ σ.frames = .target t :: frames

theorem State.Idle.frames_eq (h : σ.Idle) : σ.frames = [] := by
  obtain ⟨path, ⟨_ | _, c⟩, rfl⟩ := h <;> rfl

theorem frames_ofCall (c : Compiler) (path : List Target) (call : Compiler.Call) :
    (State.ofCall c path call).frames = [] := by
  cases call <;> rfl

theorem path_ofCall (c : Compiler) (path : List Target) (call : Compiler.Call) :
    (State.ofCall c path call).path = path := by
  cases call <;> rfl

theorem compiler_ofCall (c : Compiler) (path : List Target) (call : Compiler.Call) :
    (State.ofCall c path call).compiler = c := by
  cases call <;> rfl

theorem path_ofOutcome (frames : List Frame) (path : List Target)
    (outcome : Except SchemaError Compiler.Answer × Compiler) :
    (State.ofOutcome frames path outcome).path = path := by
  obtain ⟨_ | _, c⟩ := outcome <;> rfl

theorem compiler_ofOutcome (frames : List Frame) (path : List Target)
    (outcome : Except SchemaError Compiler.Answer × Compiler) :
    (State.ofOutcome frames path outcome).compiler = outcome.2 := by
  obtain ⟨_ | _, c⟩ := outcome <;> rfl

theorem Next.effect (h : Next σ σ') : Effect σ σ' := by
  cases h with
  | step h => exact effect_of_step h
  | call idle call =>
    refine .within (compiler_ofCall _ _ _) (path_ofCall _ _ _) ?_
    rw [frames_ofCall, idle.frames_eq]

theorem wellKept_new (first : Compiler.Call) : WellKept (.ofCall {} [] first) := by
  refine ⟨?_, ?_, ?_, ?_⟩
  · rw [path_ofCall, frames_ofCall]
    rfl
  · rw [path_ofCall]
    exact List.nodup_nil
  · rw [path_ofCall]
    exact List.forall_mem_nil _
  · rw [compiler_ofCall]
    exact List.nodup_nil

theorem WellKept.of_reflTransGen (h : ReflTransGen Next σ σ') (hσ : WellKept σ) : WellKept σ' := by
  induction h with
  | refl => exact hσ
  | tail _ hnext ih => exact hnext.effect.wellKept ih

theorem reflTransGen_of_comes (h : Comes store σ σ') : ReflTransGen Next σ σ' := by
  obtain ⟨n, h⟩ := h
  induction n generalizing σ with
  | zero =>
    cases h
    exact .refl
  | succ n ih =>
    rw [steps] at h
    cases hstep : step store σ with
    | none => simp [hstep] at h
    | some τ =>
      rw [hstep] at h
      exact .head (.step hstep) (ih h)

theorem suffix_of_reflTransGen (h : ReflTransGen Next σ σ') :
    σ.compiler.compiled <:+ σ'.compiler.compiled := by
  induction h with
  | refl => exact List.suffix_rfl
  | tail _ hnext ih => exact ih.trans hnext.effect.suffix

/-- What is known stays known, and stays what it is. -/
theorem shape?_of_reflTransGen (h : ReflTransGen Next σ σ') (hσ : WellKept σ)
    (hs : σ.compiler.shape? t = some s) : σ'.compiler.shape? t = some s := by
  induction h with
  | refl => exact hs
  | tail hbefore hnext ih =>
    have hkept := hσ.of_reflTransGen hbefore
    cases hnext.effect with
    | within hc | begins _ _ _ hc | abandons _ hc =>
      rw [hc]
      exact ih
    | completes u s' hc hp hf =>
      have hu := hkept.unknown u ((hkept.path_of_leave hp hf).1 ▸ List.mem_cons_self)
      have hne : t ≠ u := by
        rintro rfl
        rw [hu] at ih
        cases ih
      rw [hc, Compiler.shape?_keep_of_ne _ _ _ hne]
      exact ih

/-! ## Targets are completed once -/

theorem WellKept.unknown_of_completes (h : WellKept σ) (ht : σ.Completes t) :
    σ.compiler.shape? t = none := by
  obtain ⟨s, frames, -, hf⟩ := ht
  refine h.unknown t ?_
  rw [h.path_eq, hf]
  exact List.mem_cons_self

theorem Next.known_of_completes (h : Next σ σ') (ht : σ.Completes t) :
    ∃ s, σ'.compiler.shape? t = some s := by
  obtain ⟨s, frames, hcontrol, hf⟩ := ht
  obtain ⟨control, fs, c, path⟩ := σ
  cases hcontrol
  cases hf
  cases h with
  | step h =>
    cases h
    exact ⟨s, Compiler.shape?_keep_self c t s⟩
  | call idle call => cases idle.frames_eq

theorem not_completes_twice (hσ : WellKept σ) (ht : σ.Completes t) (h : TransGen Next σ σ') :
    ¬ σ'.Completes t := by
  intro ht'
  obtain ⟨τ, hnext, hrest⟩ := TransGen.head'_iff.1 h
  have hτ := hnext.effect.wellKept hσ
  obtain ⟨s, hs⟩ := hnext.known_of_completes ht
  have hknown := shape?_of_reflTransGen hrest hτ hs
  rw [(hτ.of_reflTransGen hrest).unknown_of_completes ht'] at hknown
  cases hknown

/-! ## Calls within calls -/

/-- Every task is some computation of the compiler. -/
theorem exists_computes (store : Store) (path : List Target) (ctx : Context) (task : Task) :
    ∃ x, Computes store path ctx task x := by
  have hnode := computes_shape store path ctx
  cases task with
  | root => exact ⟨_, computes_root fun v _ => hnode v⟩
  | object node => exact ⟨_, computes_object fun v _ => hnode v⟩
  | fields node found left =>
    exact ⟨_, computes_fields found (fun e _ => hnode e.2) fun e _ => hnode e.2⟩
  | patterns node fields found left => exact ⟨_, computes_patterns found fun e _ => hnode e.2⟩
  | items node => exact ⟨_, computes_items fun v _ => hnode v⟩
  | node node => exact ⟨_, hnode node⟩
  | rest node record => exact ⟨_, computes_rest fun _ => computes_items fun v _ => hnode v⟩
  | reference text => exact ⟨_, computes_reference (mem_contexts_self store ctx) text⟩

/-- A call, also one within another, is answered or fails, and the frames and the path are then as
they were when it was made. -/
theorem exists_outcome (store : Store) {ctx : Context} {task : Task}
    (h : σ.control = .call ctx task) :
    ∃ outcome, Comes store σ (.ofOutcome σ.frames σ.path outcome) := by
  obtain ⟨control, frames, c, path⟩ := σ
  cases h
  obtain ⟨x, hx⟩ := exists_computes store path ctx task
  exact ⟨_, hx c frames⟩

/-- **A compiler stays in order through its whole life.**  Whatever it is asked, whether its calls
fail or not, and whatever becomes of the files, at every moment:

* no target is on the path twice, and none that is on it is known;
* what is known is known for ever, in the same place and as the same shape, and nothing gets known
  twice, so that no target is completed more than once;
* a call, also one within another, is answered or fails with the frames and the path as they were
  when it was made, and whenever the frames are the same the path is the same;
* between two calls the path is empty, so the next call is answered as by a compiler that knows what
  this one knows and works on nothing, and no circle is reported that is not there. -/
theorem life_wellKept {first : Compiler.Call}
    (h : ReflTransGen Next (.ofCall {} [] first) σ) :
    (σ.path.Nodup ∧ ∀ t ∈ σ.path, σ.compiler.shape? t = none) ∧
    (∀ σ', ReflTransGen Next σ σ' → σ.compiler.compiled <:+ σ'.compiler.compiled ∧
      (Association.keys σ'.compiler.compiled).Nodup ∧
      ∀ t s, σ.compiler.shape? t = some s → σ'.compiler.shape? t = some s) ∧
    (∀ t σ', σ.Completes t → TransGen Next σ σ' → ¬ σ'.Completes t) ∧
    (∀ ctx task, σ.control = .call ctx task →
      (∀ store, ∃ outcome, Comes store σ (.ofOutcome σ.frames σ.path outcome)) ∧
      ∀ σ', ReflTransGen Next σ σ' → σ'.frames = σ.frames → σ'.path = σ.path) ∧
    (σ.Idle → σ.path = [] ∧ ∀ store call,
      HaltsAt store (.ofCall σ.compiler σ.path call)
        (.ofOutcome [] [] (σ.compiler.run (call.compile store))) ∧
      ∀ chain, (σ.compiler.run (call.compile store)).1 = .error (.reference (.cyclic chain)) →
        IsCircle store call.context chain) := by
  have hσ : WellKept σ := (wellKept_new first).of_reflTransGen h
  refine ⟨⟨hσ.nodup_path, hσ.unknown⟩, fun σ' hlater => ?_, fun t σ' => not_completes_twice hσ,
    fun ctx task hcall => ⟨fun store => exists_outcome store hcall, fun σ' hlater hframes => ?_⟩,
    fun hidle => ?_⟩
  · exact ⟨suffix_of_reflTransGen hlater, (hσ.of_reflTransGen hlater).nodup_known,
      fun t s => shape?_of_reflTransGen hlater hσ⟩
  · rw [(hσ.of_reflTransGen hlater).path_eq, hframes, hσ.path_eq]
  · have hpath : σ.path = [] := by
      rw [hσ.path_eq, hidle.frames_eq]
      rfl
    refine ⟨hpath, fun store call => ⟨?_, reporting_compile call σ.compiler⟩⟩
    rw [hpath, ← compileAlong_nil]
    exact ⟨comes_ofCall store call _ [], step_ofOutcome store [] _⟩

/-! ## A failure and a success -/

/-- What is left of a compiler that ran into the circle. -/
def afterCircle : Compiler := (({} : Compiler).run (lobbyCall.compile circle)).2

def wholeFileCall : Compiler.Call :=
  .items (.ofDocument lobby "s") (.object [("items", .object [("$ref", .string "left.json")])])

def wholeFile : Target := ⟨some ⟨["s", "left.json"]⟩, ""⟩

/-- A whole file of the circle is about to be completed. -/
def completingFile : State :=
  ⟨.answer (.shape .plain), [.target wholeFile], afterCircle, [wholeFile]⟩

theorem comes_completingFile :
    Comes circle (.ofCall afterCircle [] wholeFileCall) completingFile := by
  have hunknown : afterCircle.shape? wholeFile = none :=
    Option.isNone_iff_eq_none.1 (by decide +kernel)
  have hdescend : steps circle 2 (.ofCall afterCircle [] wholeFileCall) =
      some ⟨.call (.ofDocument lobby "s") (.reference "left.json"), [], afterCircle, []⟩ := by
    rfl
  have hresolve : resolve circle "left.json" (.ofDocument lobby "s") =
      .ok ⟨leftDocument, .ofFile leftDocument ⟨["s", "left.json"]⟩, ""⟩ := by
    rfl
  have hfollow : step circle
      ⟨.call (.ofDocument lobby "s") (.reference "left.json"), [], afterCircle, []⟩ =
      some ⟨.call (.ofFile leftDocument ⟨["s", "left.json"]⟩) (.node leftDocument),
        [.target wholeFile], afterCircle, [wholeFile]⟩ := by
    have htarget : Resolved.target
        ⟨leftDocument, .ofFile leftDocument ⟨["s", "left.json"]⟩, ""⟩ = wholeFile := rfl
    simp only [step, enter, hresolve, htarget, hunknown, List.not_mem_nil, if_false]
  have hanswer : steps circle 2
      ⟨.call (.ofFile leftDocument ⟨["s", "left.json"]⟩) (.node leftDocument),
        [.target wholeFile], afterCircle, [wholeFile]⟩ = some completingFile := by
    rfl
  exact (Comes.trans ⟨2, hdescend⟩ (.single hfollow)).trans ⟨2, hanswer⟩

theorem life_completingFile :
    ReflTransGen Next (.ofCall {} [] lobbyCall) completingFile ∧
    (completingFile.path.Nodup ∧
      ∀ t ∈ completingFile.path, completingFile.compiler.shape? t = none) ∧
    completingFile.Completes wholeFile ∧
    ∀ σ', TransGen Next completingFile σ' → ¬ σ'.Completes wholeFile := by
  have hidle : State.Idle (.ofOutcome [] [] (({} : Compiler).run (lobbyCall.compile circle))) :=
    ⟨[], _, rfl⟩
  have hfails : ReflTransGen Next (.ofCall {} [] lobbyCall)
      (.ofOutcome [] [] (({} : Compiler).run (lobbyCall.compile circle))) :=
    reflTransGen_of_comes (comes_ofCall circle lobbyCall {} [])
  have hlife : ReflTransGen Next (.ofCall {} [] lobbyCall) completingFile := by
    refine (hfails.tail (.call hidle wholeFileCall)).trans ?_
    rw [path_ofOutcome, compiler_ofOutcome]
    exact reflTransGen_of_comes comes_completingFile
  have hcompletes : completingFile.Completes wholeFile := ⟨.plain, [], rfl, rfl⟩
  obtain ⟨hpath, -, honce, -, -⟩ := life_wellKept hlife
  exact ⟨hlife, hpath, hcompletes, fun σ' => honce wholeFile σ' hcompletes⟩

end JsonRecords.Machine
