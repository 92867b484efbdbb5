import JsonRecords.Proofs.Machine

/-!
# Compiling comes to an end

Whatever is in the store, and whatever a compiler knows and is working on, a call on the machine
halts after finitely many steps, and it halts with the answer or error that the compiler gives
(`call_halts`).

`Computes` says that the machine carries out a computation of the compiler: starting on a task it
comes to the outcome of the computation, with the frames and the path as they were.  This goes along
with the structure of the computation (`Computes.bind`), so descending through a node is a matter of
the nodes below it, which are smaller, and of its references (`computes_node`).  A reference puts
one more target on the path, of finitely many (`computes_reference`).
-/

namespace JsonRecords.Machine

open Json

variable {store : Store} {root ctx ctx' : Context} {path : List Target} {task task' : Task}
  {F : Frame} {node : Json} {text : String} {r : Resolved}

/-! ## Carrying out a computation -/

/-- The machine comes from one state to another in some number of steps. -/
def Comes (store : Store) (σ σ' : State) : Prop := ∃ n, steps store n σ = some σ'

namespace Comes

variable {σ σ' σ'' : State}

theorem single (h : step store σ = some σ') : Comes store σ σ' := by
  refine ⟨1, ?_⟩
  rw [steps, h]
  rfl

theorem trans (h : Comes store σ σ') (h' : Comes store σ' σ'') : Comes store σ σ'' := by
  obtain ⟨m, hm⟩ := h
  obtain ⟨n, hn⟩ := h'
  exact ⟨m + n, (steps_add hm n).trans hn⟩

theorem head (h : step store σ = some σ') (h' : Comes store σ' σ'') : Comes store σ σ'' :=
  (single h).trans h'

end Comes

/-- Starting on a task, the machine comes to the outcome of a computation, whatever the compiler
knows and whatever waits for the outcome. -/
def Computes (store : Store) (path : List Target) (ctx : Context) (task : Task)
    (x : CompileM Compiler.Answer) : Prop :=
  ∀ c frames, Comes store ⟨.call ctx task, frames, c, path⟩ (.ofOutcome frames path (c.run x))

namespace Computes

theorem pure {a : Compiler.Answer}
    (h : ∀ frames c, enter store ctx frames c path task = ⟨.answer a, frames, c, path⟩) :
    Computes store path ctx task (Pure.pure a) := by
  intro c frames
  exact .single (congrArg some (h frames c))

theorem throw {e : SchemaError}
    (h : ∀ frames c, enter store ctx frames c path task = ⟨.raise e, frames, c, path⟩) :
    Computes store path ctx task (MonadExceptOf.throw e) := by
  intro c frames
  exact .single (congrArg some (h frames c))

/-- A task may consist in another one. -/
theorem call {x : CompileM Compiler.Answer}
    (h : ∀ frames c, enter store ctx frames c path task = ⟨.call ctx' task', frames, c, path⟩)
    (hx : Computes store path ctx' task' x) : Computes store path ctx task x := by
  intro c frames
  exact .head (congrArg some (h frames c)) (hx c frames)

/-- A task that needs the outcome of another one leaves a frame behind, and the answer is handed to
the frame.  An error passes the frame by. -/
theorem bind {α : Type} {wrap : α → Compiler.Answer} {x : CompileM α}
    {f : α → CompileM Compiler.Answer} (hleave : F.leave path = path)
    (h : ∀ frames c, enter store ctx frames c path task =
      ⟨.call ctx' task', F :: frames, c, path⟩)
    (hx : Computes store path ctx' task' (wrap <$> x))
    (hf : ∀ a c frames, Comes store ⟨.answer (wrap a), F :: frames, c, path⟩
      (.ofOutcome frames path (c.run (f a)))) :
    Computes store path ctx task (x >>= f) := by
  intro c frames
  refine .head (congrArg some (h frames c)) ((hx c (F :: frames)).trans ?_)
  rw [Compiler.run_map, Compiler.run_bind]
  cases c.run x with
  | mk outcome c' =>
    cases outcome with
    | ok a => exact hf a c' frames
    | error e =>
      have hraise : step store ⟨.raise e, F :: frames, c', path⟩ =
          some ⟨.raise e, frames, c', path⟩ := by
        simp only [step, hleave]
      exact .single hraise

end Computes

/-! ## Descending -/

section

variable {f : String → CompileM Shape}

theorem computes_items (h : ∀ v, node.get? "items" = some v →
      Computes store path ctx (.node v) (.shape <$> shapeOf f v)) :
    Computes store path ctx (.items node) (.shape <$> itemsOf f node) := by
  rw [itemsOf_eq]
  cases hv : node.get? "items" with
  | none =>
    rw [map_pure]
    exact .pure fun frames c => by simp only [enter, hv]
  | some v => exact .call (fun frames c => by simp only [enter, hv]) (h v hv)

theorem readFields_cons_bind {α : Type} {read : Json → CompileM Shape} {e : String × Json}
    {left : List (String × Json)} {g : List (String × Shape) → CompileM α} :
    readFields read (e :: left) >>= g =
      read e.2 >>= fun s => readFields read left >>= fun fields => g ((e.1, s) :: fields) := by
  simp [readFields]

theorem readPatterns_cons_bind {α : Type} {read : Json → CompileM Shape} {e : String × Json}
    {left : List (String × Json)} {g : List (Pattern × Shape) → CompileM α} :
    readPatterns read (e :: left) >>= g =
      readPattern e.1 >>= fun p => read e.2 >>= fun s =>
        readPatterns read left >>= fun patterns => g ((p, s) :: patterns) := by
  simp [readPatterns]

/-- The patterns left are read one by one and come after the ones found before. -/
theorem computes_patterns {fields : List (String × Shape)} (found : List (Pattern × Shape))
    {left : List (String × Json)}
    (h : ∀ e ∈ left, Computes store path ctx (.node e.2) (.shape <$> shapeOf f e.2)) :
    Computes store path ctx (.patterns node fields found left)
      (readPatterns (shapeOf f) left >>= fun patterns => pure (.record
        ⟨allowsAdditional node, statesAdditional node, fields, found ++ patterns⟩)) := by
  induction left generalizing found with
  | nil =>
    rw [readPatterns, List.mapM_nil, pure_bind, List.append_nil]
    exact .pure fun frames c => rfl
  | cons e left ih =>
    rw [readPatterns_cons_bind, readPattern]
    cases hp : Pattern.ofText? e.1 with
    | none => exact .throw fun frames c => by simp only [enter, hp]
    | some p =>
      dsimp only
      rw [pure_bind]
      refine .bind (F := .pattern ctx node fields found p left) rfl
        (fun frames c => by simp only [enter, hp]) (h e List.mem_cons_self) ?_
      intro s c frames
      have hrest := ih (found ++ [(p, s)]) (fun e he => h e (List.mem_cons_of_mem _ he))
      simp only [List.append_assoc, List.singleton_append] at hrest
      exact .head rfl (hrest c frames)

/-- The fields left are read one by one and come after the ones found before; patterns follow. -/
theorem computes_fields (found : List (String × Shape)) {left : List (String × Json)}
    (h : ∀ e ∈ left, Computes store path ctx (.node e.2) (.shape <$> shapeOf f e.2))
    (hpatterns : ∀ e ∈ node.keywordMembers "patternProperties",
      Computes store path ctx (.node e.2) (.shape <$> shapeOf f e.2)) :
    Computes store path ctx (.fields node found left)
      (readFields (shapeOf f) left >>= fun fields =>
        readPatterns (shapeOf f) (node.keywordMembers "patternProperties") >>= fun patterns =>
          pure (.record
            ⟨allowsAdditional node, statesAdditional node, found ++ fields, patterns⟩)) := by
  induction left generalizing found with
  | nil =>
    rw [readFields, List.mapM_nil, pure_bind, List.append_nil]
    exact .call (fun frames c => rfl) (computes_patterns [] hpatterns)
  | cons e left ih =>
    rw [readFields_cons_bind]
    refine .bind (F := .field ctx node found e.1 left) rfl
      (fun frames c => rfl) (h e List.mem_cons_self) ?_
    intro s c frames
    have hrest := ih (found ++ [(e.1, s)]) (fun e he => h e (List.mem_cons_of_mem _ he))
    simp only [List.append_assoc, List.singleton_append] at hrest
    exact .head rfl (hrest c frames)

theorem computes_object (h : ∀ v ∈ node.nodesOfObject,
      Computes store path ctx (.node v) (.shape <$> shapeOf f v)) :
    Computes store path ctx (.object node) (.record <$> recordTypeOf f node) := by
  have hfields : ∀ e ∈ node.keywordMembers "properties",
      Computes store path ctx (.node e.2) (.shape <$> shapeOf f e.2) :=
    fun e he => h e.2 (List.mem_append_left _ (List.mem_map_of_mem he))
  have hpatterns : ∀ e ∈ node.keywordMembers "patternProperties",
      Computes store path ctx (.node e.2) (.shape <$> shapeOf f e.2) :=
    fun e he => h e.2 (List.mem_append_right _ (List.mem_map_of_mem he))
  rw [recordTypeOf_eq]
  simp only [map_bind, map_pure]
  exact .call (fun frames c => rfl) (computes_fields [] hfields hpatterns)

/-- What is left to do for a node whose record type is known. -/
theorem computes_rest {record : Option RecordType}
    (h : (TypeSet.ofSchema node).contains .array = true →
      Computes store path ctx (.items node) (.shape <$> itemsOf f node)) :
    Computes store path ctx (.rest node record)
      (itemsPart f node >>= fun items => pure (.shape ⟨record, items⟩)) := by
  unfold itemsPart
  split
  · rename_i harray
    rw [bind_map_left]
    refine .bind (F := .items record) rfl
      (fun frames c => by simp only [enter, harray, if_true]) (h harray) ?_
    intro s c frames
    exact .single rfl
  · rename_i harray
    rw [pure_bind]
    exact .pure fun frames c => by simp only [enter, harray, Bool.false_eq_true, if_false]

/-- Descending through a node comes to its outcome if following its references does. -/
theorem computes_node (hf : ∀ text, node.Mentions text →
      Computes store path ctx (.reference text) (.shape <$> f text)) :
    Computes store path ctx (.node node) (.shape <$> shapeOf f node) := by
  induction hsize : sizeOf node using Nat.strongRecOn generalizing node with
  | _ size ih =>
    subst hsize
    rcases nodeForm node with hobject | ⟨text, href⟩ | ⟨v, href, hv⟩ | ⟨hobject, href⟩
    · rw [shapeOf_of_not_isObject f node hobject, map_pure]
      exact .pure fun frames c => by simp only [enter, hobject, Bool.false_eq_true, if_false]
    · rw [shapeOf_of_reference f node href]
      have hobject := isObject_of_get?_eq_some href
      refine .call (fun frames c => ?_) (hf text (.here href))
      simp only [enter, hobject, href, if_true]
    · rw [shapeOf_of_malformed f node href hv]
      have hobject := isObject_of_get?_eq_some href
      refine .throw fun frames c => ?_
      cases v with
      | string text => exact absurd rfl (hv text)
      | _ => simp only [enter, hobject, href, if_true]
    · have hbelow : ∀ v ∈ node.nodesBelow,
          Computes store path ctx (.node v) (.shape <$> shapeOf f v) := fun v hv =>
        ih _ (sizeOf_lt_of_mem_nodesBelow hv) (fun text ht => hf text (.nested href hv ht)) rfl
      have hrest : ∀ record, Computes store path ctx (.rest node record)
          (itemsPart f node >>= fun items => pure (.shape ⟨record, items⟩)) := fun record =>
        computes_rest fun harray => computes_items fun v hv =>
          hbelow v (by simp [nodesBelow, harray, hv])
      rw [shapeOf_of_keywords f node hobject href]
      simp only [map_bind, map_pure]
      unfold recordPart
      split
      · rename_i htype
        rw [bind_map_left]
        refine .bind (F := .record ctx node) rfl
          (fun frames c => by simp only [enter, hobject, href, htype, if_true])
          (computes_object fun v hv => hbelow v (by simp [nodesBelow, htype, hv])) ?_
        intro t c frames
        exact .head rfl (hrest (some t) c frames)
      · rename_i htype
        rw [pure_bind]
        refine .call (fun frames c => ?_) (hrest none)
        simp only [enter, hobject, href, htype, Bool.false_eq_true, if_true, if_false]

theorem computes_root (h : ∀ v ∈ ctx.document.nodesOfObject,
      Computes store path ctx (.node v) (.shape <$> shapeOf f v)) :
    Computes store path ctx .root (.record <$> rootTypeOf f ctx) := by
  unfold rootTypeOf
  dsimp only
  split
  · rename_i hobject
    exact .throw fun frames c => by simp only [enter, hobject, if_true]
  · rename_i hobject
    split
    · rename_i hproperties
      refine .throw fun frames c => ?_
      simp only [enter, hobject, hproperties, Bool.false_eq_true, if_true, if_false]
    · rename_i hproperties
      refine .call (fun frames c => ?_) (computes_object h)
      simp only [enter, hobject, hproperties, Bool.false_eq_true, if_false]

end

/-! ## Following references -/

/-- Following a reference comes to its outcome, on whatever path. -/
theorem computes_reference (hctx : ctx ∈ root :: store.documents) (text : String) :
    Computes store path ctx (.reference text)
      (.shape <$> followAlong store root path ctx hctx text) := by
  induction hleft : targetsLeft (store.targetsFrom root) path using Nat.strongRecOn
    generalizing path ctx text with
  | _ left ih =>
    subst hleft
    intro c frames
    rw [Compiler.run_map]
    cases hr : resolve store text ctx with
    | error e =>
      rw [run_followAlong_of_error hctx hr]
      refine .single (congrArg some ?_)
      simp only [enter, hr]
      rfl
    | ok r =>
      cases hs : c.shape? r.target with
      | some s =>
        rw [run_followAlong_of_known hctx hr hs]
        refine .single (congrArg some ?_)
        simp only [enter, hr, hs]
        rfl
      | none =>
        by_cases hp : r.target ∈ path
        · rw [run_followAlong_of_mem hctx hr hs hp]
          refine .single (congrArg some ?_)
          simp only [enter, hr, hs, hp, if_true]
          rfl
        · rw [run_followAlong_of_not_mem hctx hr hs hp]
          -- the node the reference leads to is compiled with one target less to go
          have hnode : Computes store (r.target :: path) r.context (.node r.node)
              (.shape <$> shapeOf (followAlong store root (r.target :: path) r.context
                (mem_contexts_of_resolve hctx hr)) r.node) :=
            computes_node fun text _ => ih _ (targetsLeft_lt hctx hr hp) _ text rfl
          have hcall : step store ⟨.call ctx (.reference text), frames, c, path⟩ =
              some ⟨.call r.context (.node r.node), .target r.target :: frames, c,
                r.target :: path⟩ := by
            simp only [step, enter, hr, hs, hp, if_false]
          refine .head hcall ((hnode c (.target r.target :: frames)).trans ?_)
          rw [Compiler.run_map]
          cases Compiler.run c (shapeOf _ r.node) with
          | mk outcome c' => cases outcome <;> exact .single rfl

/-- So the shape of any node is found, on whatever path. -/
theorem computes_shape (store : Store) (path : List Target) (ctx : Context) (node : Json) :
    Computes store path ctx (.node node)
      (.shape <$> shapeOf (followAlong store ctx path ctx (mem_contexts_self store ctx)) node) :=
  computes_node fun text _ => computes_reference (mem_contexts_self store ctx) text

/-! ## Calls -/

/-- A call that is made while targets are being worked on; between calls there are none. -/
def compileAlong (store : Store) (path : List Target) :
    Compiler.Call → CompileM Compiler.Answer
  | .root ctx =>
    .record <$> rootTypeOf (followAlong store ctx path ctx (mem_contexts_self store ctx)) ctx
  | .object ctx node =>
    .record <$> recordTypeOf (followAlong store ctx path ctx (mem_contexts_self store ctx)) node
  | .items ctx node =>
    .shape <$> itemsOf (followAlong store ctx path ctx (mem_contexts_self store ctx)) node

theorem compileAlong_nil (store : Store) (call : Compiler.Call) :
    compileAlong store [] call = call.compile store := by
  cases call <;> rfl

theorem comes_ofCall (store : Store) (call : Compiler.Call) (c : Compiler) (path : List Target) :
    Comes store (.ofCall c path call)
      (.ofOutcome [] path (c.run (compileAlong store path call))) := by
  cases call with
  | root ctx => exact computes_root (fun v _ => computes_shape store path ctx v) c []
  | object ctx node => exact computes_object (fun v _ => computes_shape store path ctx v) c []
  | items ctx node => exact computes_items (fun v _ => computes_shape store path ctx v) c []

/-- The machine comes to a state and can go no further. -/
def HaltsAt (store : Store) (σ σ' : State) : Prop :=
  Comes store σ σ' ∧ step store σ' = none

/-- **Compiling comes to an end.**  In whatever store, for whatever context and node and whatever
the compiler has learned before, a call halts after finitely many steps, with the answer or the
error that the compiler gives for it, with what the compiler has then learned and with no target
left on the path.  It would halt even if there had been targets on the path before, and leave them
there. -/
theorem call_halts (store : Store) (call : Compiler.Call) (c : Compiler) :
    HaltsAt store (.ofCall c [] call) (.ofOutcome [] [] (c.run (call.compile store))) ∧
    ∀ path, ∃ outcome, HaltsAt store (.ofCall c path call) (.ofOutcome [] path outcome) := by
  constructor
  · rw [← compileAlong_nil]
    exact ⟨comes_ofCall store call c [], step_ofOutcome store [] _⟩
  · intro path
    exact ⟨_, comes_ofCall store call c path, step_ofOutcome store path _⟩

end JsonRecords.Machine
