import JsonRecords.Proofs.CompilerLife
import JsonRecords.Proofs.FileNames
import JsonRecords.Proofs.NormalPointers

/-!
# The contexts of calls

While a document is compiled, references lead into other files and back.  Every call is made in the
context that its node belongs to.  While no target is being worked on, that is the context of the
root; while one is, it is the context of the last target on the path, and the node stands in the
fragment that the target names (`Belongs`).  So what a fragment of another file refers to is looked
for from that file.

What a call is about is its node (`Task.IsAt`), and a frame stands where the call stood that left it
(`Frame.Placed`).  A step of the machine keeps all of this in order (`State.Placed.step`), and so
does a run.  That a target names one node in one context is known from `Resolved.eq_of_target_eq`.
-/

namespace JsonRecords

open Json

/-! ## Nodes in a value -/

namespace Json

variable {u v w : Json} {keys keys' : List String}

/-- The node stands somewhere in the value, below objects only. -/
def HasNode (v node : Json) : Prop := ∃ keys, v.KeyPath keys node

theorem KeyPath.append (h : u.KeyPath keys v) (h' : v.KeyPath keys' w) :
    u.KeyPath (keys ++ keys') w := by
  induction h with
  | here v => exact h'
  | member hm _ ih => exact .member hm (ih h')

theorem HasNode.refl (v : Json) : v.HasNode v := ⟨[], .here v⟩

theorem HasNode.trans (h : u.HasNode v) (h' : v.HasNode w) : u.HasNode w := by
  obtain ⟨keys, hkeys⟩ := h
  obtain ⟨keys', hkeys'⟩ := h'
  exact ⟨keys ++ keys', hkeys.append hkeys'⟩

theorem hasNode_of_mem_members {e : String × Json} (h : e ∈ v.members) : v.HasNode e.2 := by
  cases v with
  | object ms => exact ⟨[e.1], .member h (.here e.2)⟩
  | _ => cases h

theorem hasNode_of_get? {key : String} (h : v.get? key = some w) : v.HasNode w :=
  hasNode_of_mem_members (Association.mem_of_lookup_eq_some h)

theorem hasNode_of_mem_keywordMembers {keyword : String} {e : String × Json}
    (h : e ∈ v.keywordMembers keyword) : v.HasNode e.2 := by
  unfold keywordMembers at h
  cases hkeyword : v.get? keyword with
  | none => simp [hkeyword] at h
  | some value =>
    rw [hkeyword] at h
    exact (hasNode_of_get? hkeyword).trans (hasNode_of_mem_members h)

theorem hasNode_of_walk (h : v.walk keys = some w) : v.HasNode w := by
  induction keys generalizing v with
  | nil =>
    cases h
    exact .refl _
  | cons key rest ih =>
    rw [walk] at h
    split at h
    · rename_i next hnext
      exact (hasNode_of_get? hnext).trans (ih h)
    · cases h

end Json

namespace Machine

variable {store : Store} {root ctx other : Context} {σ σ' : State} {task : Task} {F : Frame}
  {frames : List Frame} {owner : Option Target} {node v : Json} {text : String} {r : Resolved}
  {c : Compiler} {path : List Target}

/-! ## Where calls and frames stand -/

/-- The node that a task in a context is about; a reference is about the node it stands in. -/
inductive Task.IsAt (ctx : Context) : Task → Json → Prop where
  | root : IsAt ctx .root ctx.document
  | object (node : Json) : IsAt ctx (.object node) node
  | fields {node : Json} {left : List (String × Json)} (found : List (String × Shape))
      (hleft : left <:+ node.keywordMembers "properties") : IsAt ctx (.fields node found left) node
  | patterns {node : Json} {left : List (String × Json)} (fields : List (String × Shape))
      (found : List (Pattern × Shape)) (hleft : left <:+ node.keywordMembers "patternProperties") :
      IsAt ctx (.patterns node fields found left) node
  | items (node : Json) : IsAt ctx (.items node) node
  | node (node : Json) : IsAt ctx (.node node) node
  | rest (node : Json) (record : Option RecordType) : IsAt ctx (.rest node record) node
  | reference {node : Json} {text : String} (href : node.get? "$ref" = some (.string text)) :
      IsAt ctx (.reference text) node

/-- The node, in its context, belongs to the target that is being worked on, or to the document at
the root if there is none. -/
inductive Belongs (store : Store) (root : Context) : Option Target → Context → Json → Prop where
  | root {node : Json} (h : root.document.HasNode node) : Belongs store root none root node
  | target {r : Resolved} {node : Json} (hr : r.IsAbout store root) (h : r.node.HasNode node) :
      Belongs store root (some r.target) r.context node

theorem Belongs.descend (h : Belongs store root owner ctx node) (hv : node.HasNode v) :
    Belongs store root owner ctx v := by
  cases h with
  | root h => exact .root (h.trans hv)
  | target hr h => exact .target hr (h.trans hv)

theorem Belongs.isAbout (h : Belongs store root owner ctx node) : ctx.IsAbout store root := by
  cases h with
  | root => exact Or.inl rfl
  | target hr => exact hr.context

theorem Belongs.hasNode (h : Belongs store root owner ctx node) : ctx.document.HasNode node := by
  cases h with
  | root h => exact h
  | target hr h =>
    obtain ⟨segments, -, -, hwalk⟩ := hr.node
    exact (hasNode_of_walk hwalk).trans h

def Task.Placed (store : Store) (root : Context) (owner : Option Target) (ctx : Context)
    (task : Task) : Prop :=
  ∃ node, task.IsAt ctx node ∧ Belongs store root owner ctx node

/-- A frame goes on with the node that it was left at. -/
inductive Frame.Placed (store : Store) (root : Context) (owner : Option Target) : Frame → Prop where
  | field {ctx : Context} {node : Json} {left : List (String × Json)}
      (found : List (String × Shape)) (name : String) (h : Belongs store root owner ctx node)
      (hleft : left <:+ node.keywordMembers "properties") :
      Placed store root owner (.field ctx node found name left)
  | pattern {ctx : Context} {node : Json} {left : List (String × Json)}
      (fields : List (String × Shape)) (found : List (Pattern × Shape)) (p : Pattern)
      (h : Belongs store root owner ctx node)
      (hleft : left <:+ node.keywordMembers "patternProperties") :
      Placed store root owner (.pattern ctx node fields found p left)
  | record {ctx : Context} {node : Json} (h : Belongs store root owner ctx node) :
      Placed store root owner (.record ctx node)
  | items (record : Option RecordType) : Placed store root owner (.items record)
  | target (t : Target) : Placed store root owner (.target t)

/-- The target that is being worked on while the frames wait. -/
def ownerOf (frames : List Frame) : Option Target := (targetsOf frames).head?

/-- Each frame stands where the frames after it say. -/
inductive FramesPlaced (store : Store) (root : Context) : List Frame → Prop where
  | nil : FramesPlaced store root []
  | cons {F : Frame} {frames : List Frame} (hF : F.Placed store root (ownerOf frames))
      (h : FramesPlaced store root frames) : FramesPlaced store root (F :: frames)

structure State.Placed (store : Store) (root : Context) (σ : State) : Prop where
  call : ∀ ctx task, σ.control = .call ctx task →
    Task.Placed store root (ownerOf σ.frames) ctx task
  frames : FramesPlaced store root σ.frames

namespace State.Placed

theorem ofCall (hframes : FramesPlaced store root frames) (hat : task.IsAt ctx node)
    (hnode : Belongs store root (ownerOf frames) ctx node) :
    State.Placed store root ⟨.call ctx task, frames, c, path⟩ := by
  refine ⟨?_, hframes⟩
  intro ctx' task' h
  cases h
  exact ⟨node, hat, hnode⟩

theorem ofAnswer {a : Compiler.Answer} (hframes : FramesPlaced store root frames) :
    State.Placed store root ⟨.answer a, frames, c, path⟩ := by
  refine ⟨?_, hframes⟩
  intro ctx task h
  cases h

theorem ofRaise {e : SchemaError} (hframes : FramesPlaced store root frames) :
    State.Placed store root ⟨.raise e, frames, c, path⟩ := by
  refine ⟨?_, hframes⟩
  intro ctx task h
  cases h

end State.Placed

/-! ## Steps -/

/-- The members left behind the first one are members that are left, and the first one is below. -/
theorem left_cons {keyword : String} {e : String × Json} {left : List (String × Json)}
    (h : e :: left <:+ node.keywordMembers keyword) :
    left <:+ node.keywordMembers keyword ∧ node.HasNode e.2 :=
  ⟨(List.suffix_cons e left).trans h, hasNode_of_mem_keywordMembers (h.subset List.mem_cons_self)⟩

theorem placed_enter (hframes : FramesPlaced store root frames)
    (h : Task.Placed store root (ownerOf frames) ctx task) :
    State.Placed store root (enter store ctx frames c path task) := by
  obtain ⟨node, hat, hnode⟩ := h
  cases hat with
  | root =>
    simp only [enter]
    split
    · exact .ofRaise hframes
    · split
      · exact .ofRaise hframes
      · exact .ofCall hframes (.object _) hnode
  | object => exact .ofCall hframes (.fields [] List.suffix_rfl) hnode
  | fields found hleft =>
    rename_i left
    cases left with
    | nil => exact .ofCall hframes (.patterns found [] List.suffix_rfl) hnode
    | cons e left =>
      obtain ⟨hrest, hbelow⟩ := left_cons hleft
      exact .ofCall (.cons (.field found e.1 hnode hrest) hframes) (.node e.2)
        (hnode.descend hbelow)
  | patterns fields found hleft =>
    rename_i left
    cases left with
    | nil => exact .ofAnswer hframes
    | cons e left =>
      obtain ⟨hrest, hbelow⟩ := left_cons hleft
      simp only [enter]
      split
      · rename_i p hp
        exact .ofCall (.cons (.pattern fields found p hnode hrest) hframes) (.node e.2)
          (hnode.descend hbelow)
      · exact .ofRaise hframes
  | items =>
    simp only [enter]
    split
    · rename_i v hv
      exact .ofCall hframes (.node v) (hnode.descend (hasNode_of_get? hv))
    · exact .ofAnswer hframes
  | node =>
    simp only [enter]
    split
    · split
      · rename_i text href
        exact .ofCall hframes (.reference href) hnode
      · exact .ofRaise hframes
      · split
        · exact .ofCall (.cons (.record hnode) hframes) (.object node) hnode
        · exact .ofCall hframes (.rest node none) hnode
    · exact .ofAnswer hframes
  | rest node record =>
    simp only [enter]
    split
    · exact .ofCall (.cons (.items record) hframes) (.items node) hnode
    · exact .ofAnswer hframes
  | reference href =>
    simp only [enter]
    split
    · exact .ofRaise hframes
    · rename_i r hr
      split
      · exact .ofAnswer hframes
      · split
        · exact .ofRaise hframes
        · -- the new frame makes the target the owner, and the node is all of its fragment
          have hr' : r.IsAbout store root := hnode.isAbout.resolve hr
          exact .ofCall (.cons (.target r.target) hframes) (.node r.node)
            (Belongs.target hr' (.refl r.node))

theorem placed_resume {a : Compiler.Answer} (hframes : FramesPlaced store root (F :: frames))
    (h : resume frames c path F a = some σ') : State.Placed store root σ' := by
  obtain ⟨hF, hrest⟩ : F.Placed store root (ownerOf frames) ∧ FramesPlaced store root frames := by
    cases hframes with
    | cons hF hrest => exact ⟨hF, hrest⟩
  cases a with
  | shape s =>
    cases hF with
    | field found name hnode hleft =>
      cases h
      exact .ofCall hrest (.fields _ hleft) hnode
    | pattern fields found p hnode hleft =>
      cases h
      exact .ofCall hrest (.patterns fields _ hleft) hnode
    | record => cases h
    | items | target =>
      cases h
      exact .ofAnswer hrest
  | record t =>
    cases hF with
    | record hnode =>
      cases h
      exact .ofCall hrest (.rest _ _) hnode
    | _ => cases h

theorem State.Placed.step (hσ : State.Placed store root σ) (h : step store σ = some σ') :
    State.Placed store root σ' := by
  obtain ⟨control, frames, c, path⟩ := σ
  cases control with
  | call ctx task =>
    cases h
    exact placed_enter hσ.frames (hσ.call ctx task rfl)
  | answer a =>
    cases frames with
    | nil => cases h
    | cons F frames => exact placed_resume hσ.frames h
  | raise e =>
    cases frames with
    | nil => cases h
    | cons F frames =>
      cases h
      cases hσ.frames with
      | cons hF hrest => exact .ofRaise hrest

/-! ## Runs -/

theorem State.Placed.of_comes (hσ : State.Placed store root σ) (h : Comes store σ σ') :
    State.Placed store root σ' := by
  obtain ⟨n, h⟩ := h
  induction n generalizing σ with
  | zero =>
    cases h
    exact hσ
  | succ n ih =>
    rw [steps] at h
    cases hstep : JsonRecords.Machine.step store σ with
    | none => simp [hstep] at h
    | some τ =>
      rw [hstep] at h
      exact ih (hσ.step hstep) h

theorem placed_ofRoot (store : Store) (ctx : Context) (c : Compiler) :
    State.Placed store ctx (.ofCall c [] (.root ctx)) :=
  .ofCall .nil .root (.root (.refl ctx.document))

/-- The last target on the path is the one that is being worked on. -/
theorem head?_path_of_comes (h : Comes store (.ofCall {} [] (.root ctx)) σ) :
    σ.path.head? = ownerOf σ.frames := by
  have hkept : WellKept σ := (wellKept_new _).of_reflTransGen (reflTransGen_of_comes h)
  rw [hkept.path_eq, ownerOf]

theorem belongs_of_comes (h : Comes store (.ofCall {} [] (.root ctx)) σ)
    (hcall : σ.control = .call other task) :
    ∃ node, task.IsAt other node ∧ Belongs store ctx σ.path.head? other node := by
  have hplaced : State.Placed store ctx σ := (placed_ofRoot store ctx {}).of_comes h
  rw [head?_path_of_comes h]
  exact hplaced.call other task hcall

/-- A context that is about is that of a file, unless it is the root. -/
theorem eq_or_isOfFile (h : other.IsAbout store ctx) :
    other = ctx ∨ ∃ path, other.IsOfFile store path := by
  rcases h with hroot | ⟨path, dir, hload⟩
  · exact Or.inl hroot
  · obtain ⟨real, -, hfile, -⟩ := Context.isOfFile_of_load hload
    exact Or.inr ⟨real, hfile⟩

/-! ## The references of a run -/

/-- Compiling the root comes to a reference and follows it. -/
def Follows (store : Store) (ctx : Context) (r : Resolved) : Prop :=
  ∃ σ other text, Comes store (.ofCall {} [] (.root ctx)) σ ∧
    σ.control = .call other (.reference text) ∧ resolve store text other = .ok r

namespace Follows

theorem isAbout (h : Follows store ctx r) : r.IsAbout store ctx := by
  obtain ⟨σ, other, text, hcomes, hcall, hr⟩ := h
  obtain ⟨node, -, hnode⟩ := belongs_of_comes hcomes hcall
  exact hnode.isAbout.resolve hr

theorem pointer_normal (h : Follows store ctx r) : Pointer.normal r.pointer = r.pointer := by
  obtain ⟨σ, other, text, -, -, hr⟩ := h
  rw [pointer_of_resolve hr, Pointer.normal_normal]

theorem walk_segments (h : Follows store ctx r) :
    r.context.document.walk (Pointer.segments r.pointer) = some r.node := by
  obtain ⟨segments, hfree, hpointer, hwalk⟩ := h.isAbout.node
  have hsame : Pointer.segments r.pointer = segments :=
    Pointer.text_injective (Pointer.slashFree_segments _) hfree (h.pointer_normal.trans hpointer)
  rw [hsame]
  exact hwalk

end Follows

/-- **Every node is compiled in the context that it belongs to, and a target names one thing.**
While the machine compiles the document at the root, as the compiler does, every call is about a
node of the document of its context.  This is the context of the root or of a file, and it is the
one in which the last target on the path was found, with the node in the fragment of that target:
what a file refers to is looked for from that file, however it was come to.  Of the references that
are followed, those with the same target lead to the same node in the same context, and those with
different pointers into the same source lead to different places in the same document. -/
theorem calls_belong (hctx : ctx.Arises store) :
    HaltsAt store (.ofCall {} [] (.root ctx))
      (.ofOutcome [] [] (({} : Compiler).run ((Compiler.Call.root ctx).compile store))) ∧
    (∀ σ other task, Comes store (.ofCall {} [] (.root ctx)) σ → σ.control = .call other task →
      (other = ctx ∨ ∃ path, other.IsOfFile store path) ∧
      ∃ node, task.IsAt other node ∧ other.document.HasNode node ∧
        Belongs store ctx σ.path.head? other node) ∧
    ∀ r r', Follows store ctx r → Follows store ctx r' →
      r.context.document.walk (Pointer.segments r.pointer) = some r.node ∧
      (r.target = r'.target → r.node = r'.node ∧ r.context = r'.context) ∧
      (r.context.source = r'.context.source → r.pointer ≠ r'.pointer →
        r.context = r'.context ∧ Pointer.segments r.pointer ≠ Pointer.segments r'.pointer) := by
  refine ⟨?_, ?_, ?_⟩
  · rw [← compileAlong_nil]
    exact ⟨comes_ofCall store _ _ [], step_ofOutcome store [] _⟩
  · intro σ other task hcomes hcall
    obtain ⟨node, hat, hnode⟩ := belongs_of_comes hcomes hcall
    exact ⟨eq_or_isOfFile hnode.isAbout, node, hat, hnode.hasNode, hnode⟩
  · intro r r' h h'
    obtain ⟨home, hhome, habout⟩ := hctx.exists_home
    have hr : r.IsAbout store home := h.isAbout.of_context habout
    have hr' : r'.IsAbout store home := h'.isAbout.of_context habout
    refine ⟨h.walk_segments, ?_, ?_⟩
    · intro htarget
      obtain rfl := Resolved.eq_of_target_eq hhome hr hr' htarget
      exact ⟨rfl, rfl⟩
    · intro hsource hpointer
      refine ⟨hr.context.eq_of_source_eq hhome hr'.context hsource, ?_⟩
      intro hsegments
      have hnormal := Pointer.normal_eq_normal_iff.2 hsegments
      rw [h.pointer_normal, h'.pointer_normal] at hnormal
      exact hpointer hnormal

/-! ## A page and the stamp beside it -/

def folderText : String :=
  "\x7b\"page\":\x7b\"type\":\"object\",\"properties\":" ++
    "\x7b\"stamp\":\x7b\"$ref\":\"stamp.json\"\x7d\x7d\x7d\x7d"

/-- There is a stamp beside the folder and another one where the letter is. -/
def office : Store where
  workDir := "/"
  entries := [(["s"], .directory), (["s", "drawer"], .directory),
    (["s", "drawer", "folder.json"], .text folderText),
    (["s", "drawer", "stamp.json"], .text "\x7b\"type\":\"array\"\x7d"),
    (["s", "stamp.json"], .text "\x7b\"type\":\"object\"\x7d")]

def stampNode : Json := .object [("$ref", .string "stamp.json")]

def pageNode : Json :=
  .object [("type", .string "object"), ("properties", .object [("stamp", stampNode)])]

def folder : Context :=
  .ofFile (.object [("page", pageNode)]) ⟨["s", "drawer", "folder.json"]⟩

def letterNode : Json :=
  .object [("type", .string "object"),
    ("properties", .object [("page", .object [("$ref", .string "drawer/folder.json#/page")])])]

def letter : Context := .ofDocument letterNode "s"

def pageTarget : Target := ⟨some ⟨["s", "drawer", "folder.json"]⟩, "/page"⟩

/-- The page is being compiled, and its reference to the stamp is the next one. -/
def atStamp : State where
  control := .call folder (.reference "stamp.json")
  frames := [.field folder pageNode [] "stamp" [], .record folder pageNode, .target pageTarget,
    .field letter letterNode [] "page" []]
  compiler := {}
  path := [pageTarget]

theorem resolve_page :
    resolve office "drawer/folder.json#/page" letter = .ok ⟨pageNode, folder, "/page"⟩ := by
  rfl

theorem resolve_stamp :
    resolve office "stamp.json" folder = .ok ⟨.object [("type", .string "array")],
      .ofFile (.object [("type", .string "array")]) ⟨["s", "drawer", "stamp.json"]⟩, ""⟩ := by
  rfl

theorem comes_atStamp : Comes office (.ofCall {} [] (.root letter)) atStamp := by
  have hdescend : steps office 4 (.ofCall {} [] (.root letter)) =
      some ⟨.call letter (.reference "drawer/folder.json#/page"),
        [.field letter letterNode [] "page" []], {}, []⟩ := by
    rfl
  have hfollow : step office ⟨.call letter (.reference "drawer/folder.json#/page"),
        [.field letter letterNode [] "page" []], {}, []⟩ =
      some ⟨.call folder (.node pageNode),
        [.target pageTarget, .field letter letterNode [] "page" []], {}, [pageTarget]⟩ := by
    have htarget : Resolved.target ⟨pageNode, folder, "/page"⟩ = pageTarget := rfl
    have hunknown : Compiler.shape? {} pageTarget = none := rfl
    simp only [step, enter, resolve_page, htarget, hunknown, List.not_mem_nil, if_false]
  have hpage : steps office 4 ⟨.call folder (.node pageNode),
      [.target pageTarget, .field letter letterNode [] "page" []], {}, [pageTarget]⟩ =
      some atStamp := by
    rfl
  exact (Comes.trans ⟨4, hdescend⟩ (.single hfollow)).trans ⟨4, hpage⟩

/-- The stamp that the page refers to is found beside the folder. -/
theorem calls_belong_stamp :
    letter.Arises office ∧ atStamp.control = .call folder (.reference "stamp.json") ∧
    (∃ path, folder.IsOfFile office path) ∧
    (∃ node, Belongs office letter (some pageTarget) folder node ∧
      node.get? "$ref" = some (.string "stamp.json")) ∧
    ∃ r, Follows office letter r ∧ r.node = .object [("type", .string "array")] ∧
      r.context.source = some ⟨["s", "drawer", "stamp.json"]⟩ ∧
      r.context.document.walk (Pointer.segments r.pointer) = some r.node := by
  have hctx : letter.Arises office := Or.inl ⟨letterNode, "s", rfl⟩
  obtain ⟨-, hcalls, hfollows⟩ := calls_belong hctx
  obtain ⟨hfile, node, hat, -, hnode⟩ := hcalls atStamp folder _ comes_atStamp rfl
  have href : node.get? "$ref" = some (.string "stamp.json") := by
    cases hat with
    | reference href => exact href
  have hfile' : ∃ path, folder.IsOfFile office path := by
    refine hfile.resolve_left ?_
    intro hsame
    exact absurd (congrArg Context.source hsame) (by decide)
  have hfollow : Follows office letter ⟨.object [("type", .string "array")],
      .ofFile (.object [("type", .string "array")]) ⟨["s", "drawer", "stamp.json"]⟩, ""⟩ :=
    ⟨atStamp, folder, "stamp.json", comes_atStamp, rfl, resolve_stamp⟩
  exact ⟨hctx, rfl, hfile', ⟨node, hnode, href⟩, _, hfollow, rfl, rfl,
    (hfollows _ _ hfollow hfollow).1⟩

end Machine

end JsonRecords
