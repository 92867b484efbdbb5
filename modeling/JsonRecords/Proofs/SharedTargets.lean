import JsonRecords.Proofs.CompilerRuns
import Mathlib.Control.Monad.Basic

/-!
# Shared targets

A compiler finds the shape of a target while some targets are being worked on, keeps it, and gives
it out again while others are.  This does not show in any answer: as long as no more than one
document in memory is about, a compiler answers every call as the plain compiler does, errors
included (`answers_eq_compilePlain`).

The compiler keeps expansions only (`Compiler.Sound`), also when a call fails.  Two facts then carry
the comparison.  A kept target is never on the path at hand, since it would be needed for itself, so
the plain compiler finds its shape too (`plainAlong_of_expands`).  And errors are not kept, so they
come up at the same reference, with the same path, in both (`sharingWhile_followAlong`).
-/

namespace JsonRecords

open Json Relation

variable {store : Store} {home root ctx : Context} {path : List Target} {text : String}
  {r : Resolved} {s : Shape} {c : Compiler}

/-! ## What a compiler keeps -/

/-- Whatever the compiler keeps for a target is the expansion of what the target names. -/
def Compiler.Sound (store : Store) (home : Context) (c : Compiler) : Prop :=
  ∀ r : Resolved, r.IsAbout store home → ∀ s, c.shape? r.target = some s →
    Expands store r.context r.node s

namespace Compiler

theorem sound_empty : Sound store home {} := by
  intro r _ s hs
  simp [shape?] at hs

/-- Keeping the expansion of what a target names is sound, since the target names nothing else. -/
theorem Sound.keep (hhome : home.source = none) (hc : c.Sound store home)
    (hr : r.IsAbout store home) (h : Expands store r.context r.node s) :
    (c.keep r.target s).Sound store home := by
  intro r' hr' s' hs'
  by_cases htarget : r'.target = r.target
  · obtain rfl := Resolved.eq_of_target_eq hhome hr' hr htarget
    rw [shape?_keep_self] at hs'
    cases hs'
    exact h
  · rw [shape?_keep_of_ne _ _ _ htarget] at hs'
    exact hc r' hr' s' hs'

end Compiler

/-! ## The comparison -/

/-- What a compiler is known to keep, as far as it matters for the references that are met: the
expansions of what they lead to.  Keeping one more of those is no harm. -/
structure KeepsExpansions (store : Store) (met : Resolved → Prop) (holds : Compiler → Prop) :
    Prop where
  below : ∀ {r r'}, met r → IsNeededFor store r' r → met r'
  expands : ∀ {c r s}, holds c → met r → c.shape? r.target = some s →
    Expands store r.context r.node s
  keep : ∀ {c r s}, holds c → met r → Expands store r.context r.node s →
    holds (c.keep r.target s)

/-- A computation of a compiler agrees with one of the plain compiler if it has the same outcome on
every compiler of which something holds, and it goes on to hold. -/
def sharingWhile (holds : Compiler → Prop) : Simulation CompileM (Except SchemaError) where
  rel x y := ∀ c : Compiler, holds c → (c.run x).1 = y ∧ holds (c.run x).2
  pure a c hc := ⟨rfl, hc⟩
  raise e c hc := ⟨rfl, hc⟩
  bind := by
    intro α β x y f g hx hf c hc
    obtain ⟨hanswer, hsound⟩ := hx c hc
    rw [Compiler.run_bind, ← hanswer]
    cases h : c.run x with
    | mk answer c' =>
      rw [h] at hsound
      cases answer with
      | error e => exact ⟨rfl, hsound⟩
      | ok a => exact hf a c' hsound

/-- Following a reference agrees with following it anew, on every path that was walked. -/
theorem sharingWhile_followAlong {met : Resolved → Prop} {holds : Compiler → Prop}
    (hkeeps : KeepsExpansions store met holds) (hhome : home.source = none)
    (habout : ctx.IsAbout store home) (hctx : ctx ∈ root :: store.documents)
    (hmet : ∀ r, resolve store text ctx = .ok r → met r)
    (hpath : ∀ r, resolve store text ctx = .ok r → Awaits store home path r) :
    (sharingWhile holds).rel (followAlong store root path ctx hctx text)
      (plainAlong store root path ctx hctx text) := by
  induction hleft : targetsLeft (store.targetsFrom root) path using Nat.strongRecOn
    generalizing path ctx text with
  | _ left ih =>
    subst hleft
    intro c hc
    cases hr : resolve store text ctx with
    | error e =>
      rw [run_followAlong_of_error hctx hr, plainAlong_of_error hctx hr]
      exact ⟨rfl, hc⟩
    | ok r =>
      have hrAbout := habout.resolve hr
      have hrMet := hmet r hr
      cases hs : c.shape? r.target with
      | some s =>
        have hexpands := hkeeps.expands hc hrMet hs
        rw [run_followAlong_of_known hctx hr hs,
          plainAlong_of_expands hhome habout hctx hr (hpath r hr) hexpands]
        exact ⟨rfl, hc⟩
      | none =>
        by_cases hp : r.target ∈ path
        · rw [run_followAlong_of_mem hctx hr hs hp, plainAlong_of_mem hctx hr hp]
          exact ⟨rfl, hc⟩
        · have hbelow : (sharingWhile holds).rel
              (shapeOf (followAlong store root (r.target :: path) r.context
                (mem_contexts_of_resolve hctx hr)) r.node)
              (shapeOf (plainAlong store root (r.target :: path) r.context
                (mem_contexts_of_resolve hctx hr)) r.node) := by
            refine (sharingWhile holds).shapeOf fun text ht => ?_
            have hneeded : ∀ r', resolve store text r.context = .ok r' → IsNeededFor store r' r :=
              fun r' hr' => ⟨text, ht, hr'⟩
            exact ih _ (targetsLeft_lt hctx hr hp) hrAbout.context _
              (fun r' hr' => hkeeps.below hrMet (hneeded r' hr'))
              (fun r' hr' => (hpath r hr).cons hrAbout (hneeded r' hr')) rfl
          obtain ⟨hanswer, hsound⟩ := hbelow c hc
          rw [← plainAlong_of_not_mem hctx hr hp] at hanswer
          rw [run_followAlong_of_not_mem hctx hr hs hp, ← hanswer]
          cases hrun : c.run (shapeOf (followAlong store root (r.target :: path) r.context
              (mem_contexts_of_resolve hctx hr)) r.node) with
          | mk answer c' =>
            rw [hrun] at hanswer hsound
            cases answer with
            | error e => exact ⟨rfl, hsound⟩
            | ok s =>
              obtain ⟨r', hr', hexpands⟩ := expands_of_plainAlong hctx hanswer.symm
              obtain rfl := Except.ok.inj (hr.symm.trans hr')
              exact ⟨rfl, hkeeps.keep hsound hrMet hexpands⟩

/-- A sound compiler keeps expansions of everything that is about. -/
theorem keepsExpansions_sound (hhome : home.source = none) :
    KeepsExpansions store (·.IsAbout store home) (·.Sound store home) where
  below hr hneeded := hneeded.isAbout hr
  expands hc hr hs := hc _ hr _ hs
  keep hc hr h := hc.keep hhome hr h

/-- The comparison on sound compilers. -/
def sharing (store : Store) (home : Context) : Simulation CompileM (Except SchemaError) :=
  sharingWhile (·.Sound store home)

theorem sharing_follow (hhome : home.source = none) (habout : ctx.IsAbout store home)
    (text : String) :
    (sharing store home).rel (follow store ctx text) (plainFollow store ctx text) :=
  sharingWhile_followAlong (keepsExpansions_sound hhome) hhome habout List.mem_cons_self
    (fun _ hr => habout.resolve hr) fun _ _ => Awaits.nil

/-- One call on a sound compiler is answered as the plain compiler answers it. -/
theorem sharing_compile (hhome : home.source = none) (call : Compiler.Call)
    (habout : call.context.IsAbout store home) :
    (sharing store home).rel (call.compile store) (call.compilePlain store) := by
  rw [call.compile_eq, call.compilePlain_eq]
  exact (sharing store home).answerWith call (sharing_follow hhome habout)

theorem answers_of_sound (hhome : home.source = none) {calls : List Compiler.Call}
    (hcalls : ∀ call ∈ calls, call.context.IsAbout store home) (hc : c.Sound store home) :
    c.answers store calls = calls.map (·.compilePlain store) := by
  induction calls generalizing c with
  | nil => rfl
  | cons call rest ih =>
    obtain ⟨hanswer, hsound⟩ :=
      sharing_compile hhome call (hcalls call List.mem_cons_self) c hc
    rw [Compiler.answers, List.map_cons, ← hanswer]
    exact congrArg _ (ih (fun call hcall => hcalls call (List.mem_cons_of_mem _ hcall)) hsound)

/-- **Sharing does not show.**  A new compiler that is asked about files and about one document in
memory, whatever the calls are, in whatever order and whether they fail or not, answers each call as
the plain compiler does. -/
theorem answers_eq_compilePlain (store : Store) (document : Json) (baseDir : String)
    (calls : List Compiler.Call)
    (hcalls : ∀ call ∈ calls, call.context = .ofDocument document baseDir ∨
      ∃ path dir, Context.load store path dir = .ok call.context) :
    Compiler.answers store {} calls = calls.map (·.compilePlain store) :=
  answers_of_sound rfl hcalls Compiler.sound_empty

/-! ## Two files in a circle -/

def refTo (text : String) : Json := .object [("$ref", .string text)]

def leftText : String := "\x7b\"x\":\x7b\"$ref\":\"right.json#/y\"\x7d\x7d"

def rightText : String := "\x7b\"y\":\x7b\"$ref\":\"left.json#/x\"\x7d\x7d"

def roomText : String :=
  "\x7b\"type\":[\"object\",\"array\"]," ++
    "\"patternProperties\":\x7b\"^w\":\x7b\"$ref\":\"left.json\"\x7d\x7d\x7d"

/-- Two of the files refer to each other, and nothing comes of it.  The room refers to one of them,
but to nothing in it. -/
def circle : Store where
  workDir := "/"
  entries := [(["s"], .directory), (["s", "left.json"], .text leftText),
    (["s", "right.json"], .text rightText), (["s", "room.json"], .text roomText)]

def leftDocument : Json := .object [("x", refTo "right.json#/y")]

theorem load_left :
    Context.load circle "left.json" "s" = .ok (.ofFile leftDocument ⟨["s", "left.json"]⟩) := by
  rfl

theorem expands_left : Expands store ctx leftDocument .plain := by
  refine .keywords rfl rfl ⟨rfl, rfl, ?_, ?_⟩ ?_
  · simp [Shape.plain]
  · simp [Shape.plain]
  · simp [parts, Shape.plain]

def leftRightLeft : List Target :=
  [⟨some ⟨["s", "left.json"]⟩, "/x"⟩, ⟨some ⟨["s", "right.json"]⟩, "/y"⟩,
    ⟨some ⟨["s", "left.json"]⟩, "/x"⟩]

/-- An object schema with a property that is in the circle. -/
def entrance : Json :=
  .object [("type", .string "object"), ("properties", .object [("p", refTo "left.json#/x")])]

/-! ## A room that is used again -/

def roomDocument : Json :=
  .object [("type", .array [.string "object", .string "array"]),
    ("patternProperties", .object [("^w", refTo "left.json")])]

def room : Context := .ofFile roomDocument ⟨["s", "room.json"]⟩

/-- Keys that begin with a `w`. -/
def window : Pattern := (Pattern.ofText? "^w").get (by decide +kernel)

def roomType : RecordType := ⟨true, false, [], [(window, .plain)]⟩

def roomShape : Shape := ⟨some roomType, some .plain⟩

theorem load_room : Context.load circle "room.json" "s" = .ok room := by
  have hplace : circle.locate (Path.join "s" "room.json") =
      .ok ⟨["s", "room.json"], .text roomText⟩ := by
    decide +kernel
  have hdocument : Json.read roomText = .ok roomDocument := by
    rfl
  have hfault : Store.pathFault? (AbsolutePath.text ⟨["s", "room.json"]⟩) = none := by
    decide +kernel
  exact Context.load_eq_ok_iff.2 ⟨_, _, _, hplace, hdocument, hfault, rfl⟩

theorem resolve_room : resolve circle "room.json" (.ofDocument entrance "s") =
    .ok ⟨roomDocument, room, ""⟩ :=
  resolve_eq_ok_iff.2
    ⟨Reference.contextFrom_eq_ok_iff.2 (Or.inr ⟨rfl, load_room⟩), rfl, rfl⟩

theorem outlinesRecord_room : OutlinesRecord roomDocument roomType := by
  have htext : window.text = "^w" := Pattern.text_of_ofText?_eq_some (Option.some_get _).symm
  refine ⟨?_, ?_, rfl, ?_⟩
  · simp [roomType, roomDocument, Json.get?, Json.members, List.lookup_cons]
  · simp [roomType, roomDocument, Json.get?, Json.members, List.lookup_cons]
  · rw [roomType, List.map_singleton, htext]
    rfl

theorem expandsToRecord_room : ExpandsToRecord circle room roomDocument roomType := by
  have hparts : recordParts roomDocument roomType = [(refTo "left.json", .plain)] := rfl
  have hleft : resolve circle "left.json" room =
      .ok ⟨leftDocument, .ofFile leftDocument ⟨["s", "left.json"]⟩, ""⟩ := by
    rfl
  refine ⟨outlinesRecord_room, ?_⟩
  rw [hparts, List.forall_mem_singleton]
  exact .reference rfl hleft expands_left

theorem expands_room : Expands circle room roomDocument roomShape := by
  have hitems : OutlinesItems roomDocument .plain := fun _ => rfl
  have hparts : parts roomDocument roomShape = recordParts roomDocument roomType := rfl
  refine .keywords rfl rfl ⟨rfl, rfl, ?_, ?_⟩ ?_
  · intro t ht
    cases ht
    exact outlinesRecord_room
  · intro i hi
    cases hi
    exact hitems
  · rw [hparts]
    exact expandsToRecord_room.2

/-- The way leads into the circle, but the room comes before it. -/
def hall : Json :=
  .object [("properties", .object [("room", refTo "room.json"), ("way", refTo "left.json#/x")])]

/-- An object schema with two rooms. -/
def suite : Json :=
  .object [("type", .string "object"),
    ("properties", .object [("east", refTo "room.json"), ("west", refTo "room.json")])]

def suiteType : RecordType := ⟨true, false, [("east", roomShape), ("west", roomShape)], []⟩

def hallCall : Compiler.Call := .object (.ofDocument entrance "s") hall

def circleCalls : List Compiler.Call :=
  [hallCall, .object (.ofDocument entrance "s") suite,
    .items room (.object [("items", refTo "#")]), .root (.ofDocument entrance "s")]

theorem expandsToRecord_suite :
    ExpandsToRecord circle (.ofDocument entrance "s") suite suiteType := by
  have hparts : recordParts suite suiteType =
      [(refTo "room.json", roomShape), (refTo "room.json", roomShape)] := rfl
  refine ⟨⟨?_, ?_, rfl, rfl⟩, ?_⟩
  · simp [suiteType, suite, Json.get?, Json.members, List.lookup_cons]
  · simp [suiteType, suite, Json.get?, Json.members, List.lookup_cons]
  · rw [hparts, List.forall_mem_cons, List.forall_mem_singleton]
    exact ⟨.reference rfl resolve_room expands_room, .reference rfl resolve_room expands_room⟩

/-- With nothing kept, the two calls that need no more than the room succeed, and the others meet
the circle. -/
theorem map_compilePlain_circleCalls :
    circleCalls.map (·.compilePlain circle) =
      [.error (.reference (.cyclic leftRightLeft)), .ok (.record suiteType),
        .ok (.shape roomShape), .error (.reference (.cyclic leftRightLeft))] := by
  have hhall : hallCall.compilePlain circle = .error (.reference (.cyclic leftRightLeft)) :=
    (map_eq_error_iff (f := fun _ => ())).1 (by decide +kernel)
  have hentrance : Compiler.Call.compilePlain circle (.root (.ofDocument entrance "s")) =
      .error (.reference (.cyclic leftRightLeft)) :=
    (map_eq_error_iff (f := fun _ => ())).1 (by decide +kernel)
  have hsuite : recordTypeOf (plainFollow circle (.ofDocument entrance "s")) suite =
      .ok suiteType :=
    (recordTypeOf_plainFollow_eq_ok_iff rfl (Or.inl rfl)).2 expandsToRecord_suite
  have hself : Expands circle room (refTo "#") roomShape :=
    .reference rfl (r := ⟨roomDocument, room, ""⟩) rfl expands_room
  have habout : room.IsAbout circle (.ofDocument entrance "s") := Or.inr ⟨_, _, load_room⟩
  have hitems : itemsOf (plainFollow circle room) (.object [("items", refTo "#")]) =
      .ok roomShape := by
    rw [itemsOf_eq]
    exact (shapeOf_plainFollow_eq_ok_iff rfl habout).2 hself
  rw [circleCalls, List.map_cons, List.map_cons, List.map_cons, List.map_cons, List.map_nil,
    hhall, hentrance]
  simp only [Compiler.Call.compilePlain, hsuite, hitems]
  rfl

/-- The first call fails, but the room is kept, and the next two calls come to it again, the third
by another reference.  The last call fails at the circle. -/
theorem answers_circle :
    (∀ call ∈ circleCalls, call.context = .ofDocument entrance "s" ∨
      ∃ path dir, Context.load circle path dir = .ok call.context) ∧
    (({} : Compiler).run (hallCall.compile circle)).2.compiled.map Prod.fst =
      [⟨some ⟨["s", "room.json"]⟩, ""⟩, ⟨some ⟨["s", "left.json"]⟩, ""⟩] ∧
    Compiler.answers circle {} circleCalls = circleCalls.map (·.compilePlain circle) ∧
    Compiler.answers circle {} circleCalls =
      [.error (.reference (.cyclic leftRightLeft)), .ok (.record suiteType),
        .ok (.shape roomShape), .error (.reference (.cyclic leftRightLeft))] := by
  have hcalls : ∀ call ∈ circleCalls, call.context = .ofDocument entrance "s" ∨
      ∃ path dir, Context.load circle path dir = .ok call.context := by
    simp only [circleCalls, List.forall_mem_cons]
    exact ⟨Or.inl rfl, Or.inl rfl, Or.inr ⟨_, _, load_room⟩, Or.inl rfl, List.forall_mem_nil _⟩
  have hsame := answers_eq_compilePlain circle entrance "s" circleCalls hcalls
  exact ⟨hcalls, by decide +kernel, hsame, hsame.trans map_compilePlain_circleCalls⟩

end JsonRecords
