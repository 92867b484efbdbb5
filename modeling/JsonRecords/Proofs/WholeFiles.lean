import JsonRecords.Proofs.FiniteExpansion
import Mathlib.Data.List.TakeWhile

/-!
# Whole files, referred to or compiled

A reference without a `#` leads to a whole file, and the file can be compiled by itself.  The two
ways put different targets on the path: the document that is compiled by itself is no target, the
one that is referred to is.  So they meet the circles of files that refer back to themselves at
different places, but they do not come to different ends (`compileFile_of_wholeFile`).  Both find an
expansion of the same document, as a node in one case and as an object schema in the other.
-/

namespace JsonRecords

open Json

variable {store : Store} {ctx other : Context} {node : Json} {s : Shape} {t : RecordType}
  {file : String}

/-! ## References to whole files -/

/-- A reference without a `#` leads to the whole document of the file. -/
theorem resolve_wholeFile (hfile : file ≠ "") (hhash : '#' ∉ file.toList)
    (hload : Context.load store file ctx.baseDir = .ok other) :
    resolve store file ctx = .ok ⟨other.document, other, ""⟩ := by
  have hchars : ∀ c ∈ file.toList, (c != '#') = true := by
    intro c hc
    rw [bne_iff_ne]
    rintro rfl
    exact hhash hc
  have htake : file.toList.takeWhile (· != '#') = file.toList := List.takeWhile_eq_self_iff.2 hchars
  have hdrop : file.toList.dropWhile (· != '#') = [] := List.dropWhile_eq_nil_iff.2 hchars
  have hparse : Reference.parse file = ⟨file, ""⟩ := by
    simp only [Reference.parse, htake, hdrop, String.ofList_toList, List.drop_nil,
      String.ofList_nil]
  have hforeign : (Reference.mk file "").isLocal = false := by
    simpa [Reference.isLocal] using hfile
  rw [resolve_eq_ok_iff, hparse]
  exact ⟨Reference.contextFrom_eq_ok_iff.2 (Or.inr ⟨hforeign, hload⟩), rfl, rfl⟩

/-- So a node with such a reference compiles to what the document expands to. -/
theorem run_compileNode_wholeFile_iff (hctx : ctx.Arises store) (hfile : file ≠ "")
    (hhash : '#' ∉ file.toList) (hload : Context.load store file ctx.baseDir = .ok other)
    (hnode : node.get? "$ref" = some (.string file)) :
    (({} : Compiler).run (Compiler.compileNode store ctx node)).1 = .ok s ↔
      Expands store other other.document s := by
  have hresolve := resolve_wholeFile hfile hhash hload
  rw [run_compileNode_eq_ok_iff hctx]
  constructor
  · intro h
    exact h.of_reference hnode hresolve
  · intro h
    exact .reference hnode hresolve h

theorem compileFile_eq_ok_iff {path rootDir : String}
    (hload : Context.load store path rootDir = .ok other) :
    compileFile store rootDir path = .ok t ↔
      IsRecordSchema other.document ∧ ExpandsToRecord store other other.document t := by
  rw [compileFile_of_load hload]
  exact compileContext_eq_ok_iff (Or.inr ⟨path, rootDir, hload⟩)

/-- A file that fails at a circle holds the schema of a record. -/
theorem isRecordSchema_of_compileFile {path rootDir : String} {chain : List Target}
    (hload : Context.load store path rootDir = .ok other)
    (h : compileFile store rootDir path = .error (.reference (.cyclic chain))) :
    IsRecordSchema other.document := by
  obtain ⟨home, hhome, habout⟩ := Context.Arises.exists_home (Or.inr ⟨path, rootDir, hload⟩)
  rw [compileFile_of_load hload, compileContext_eq hhome habout] at h
  exact isRecordSchema_of_reference h

/-- **Referring to a whole file and compiling it agree.**  Let the document of a file have no
reference at its top, and let its `properties`, if there are any, be an object.  If a reference to
the file compiles to a shape with a record type, then the file itself compiles to that record type,
and where the file fails at a circle the reference fails too.  If the document is no array schema,
then the file compiles to a record type exactly if the reference compiles to this record type and no
list, and where the reference fails at a circle the file fails too. -/
theorem compileFile_of_wholeFile (hctx : ctx.Arises store) (hfile : file ≠ "")
    (hhash : '#' ∉ file.toList) (hload : Context.load store file ctx.baseDir = .ok other)
    (hnode : node.get? "$ref" = some (.string file))
    (href : other.document.get? "$ref" = none)
    (hproperties : ∀ v, other.document.get? "properties" = some v → v.isObject = true) :
    (∀ s t, (({} : Compiler).run (Compiler.compileNode store ctx node)).1 = .ok s →
      s.record = some t → compileFile store ctx.baseDir file = .ok t) ∧
    (∀ chain, compileFile store ctx.baseDir file = .error (.reference (.cyclic chain)) →
      ¬ ∃ s, (({} : Compiler).run (Compiler.compileNode store ctx node)).1 = .ok s) ∧
    ((TypeSet.ofSchema other.document).contains .array = false →
      (∀ t, compileFile store ctx.baseDir file = .ok t ↔
        (({} : Compiler).run (Compiler.compileNode store ctx node)).1 = .ok ⟨some t, none⟩) ∧
      (∀ chain, (({} : Compiler).run (Compiler.compileNode store ctx node)).1 =
          .error (.reference (.cyclic chain)) →
        ¬ ∃ t, compileFile store ctx.baseDir file = .ok t)) := by
  have hreference : ∀ s, (({} : Compiler).run (Compiler.compileNode store ctx node)).1 = .ok s ↔
      Expands store other other.document s := fun s =>
    run_compileNode_wholeFile_iff hctx hfile hhash hload hnode
  have hwhole : ∀ t, compileFile store ctx.baseDir file = .ok t ↔
      IsRecordSchema other.document ∧ ExpandsToRecord store other other.document t := fun t =>
    compileFile_eq_ok_iff hload
  have hrecord : ∀ s t, (({} : Compiler).run (Compiler.compileNode store ctx node)).1 = .ok s →
      s.record = some t → compileFile store ctx.baseDir file = .ok t := by
    intro s t hs ht
    have hexpands := (hreference s).1 hs
    have hobject := contains_object_of_record (hexpands.of_keywords href).1 ht
    exact (hwhole t).2 ⟨⟨hobject, hproperties⟩, hexpands.expandsToRecord href ht⟩
  refine ⟨hrecord, ?_, fun harray => ?_⟩
  · rintro chain hchain ⟨s, hs⟩
    -- only the schema of a record gets as far as its references
    have hschema : IsRecordSchema other.document := isRecordSchema_of_compileFile hload hchain
    obtain ⟨outline, -⟩ := ((hreference s).1 hs).of_keywords href
    obtain ⟨t, ht⟩ := Option.isSome_iff_exists.1 (outline.hasRecord.trans hschema.object)
    rw [hrecord s t hs ht] at hchain
    cases hchain
  · have hiff : ∀ t, compileFile store ctx.baseDir file = .ok t ↔
        (({} : Compiler).run (Compiler.compileNode store ctx node)).1 = .ok ⟨some t, none⟩ := by
      intro t
      constructor
      · intro h
        obtain ⟨hschema, hexpands⟩ := (hwhole t).1 h
        exact (hreference _).2 (hexpands.expands href hschema.object harray)
      · intro h
        exact hrecord _ t h rfl
    refine ⟨hiff, ?_⟩
    rintro chain hchain ⟨t, ht⟩
    rw [(hiff t).1 ht] at hchain
    cases hchain

/-! ## A file that refers back to itself -/

def nestText : String :=
  "\x7b\"type\":\"object\",\"properties\":\x7b\"egg\":\x7b\"$ref\":\"egg.json\"\x7d\x7d," ++
    "\"twig\":\x7b\"type\":\"array\"\x7d\x7d"

def eggText : String :=
  "\x7b\"type\":\"object\",\"properties\":\x7b\"on\":\x7b\"$ref\":\"nest.json#/twig\"\x7d\x7d\x7d"

def ringText : String :=
  "\x7b\"type\":\"object\",\"properties\":\x7b\"next\":\x7b\"$ref\":\"ring.json\"\x7d\x7d\x7d"

/-- The egg refers back to a part of the nest, and the ring to itself. -/
def tree : Store where
  workDir := "/"
  entries := [(["s"], .directory), (["s", "nest.json"], .text nestText),
    (["s", "egg.json"], .text eggText), (["s", "ring.json"], .text ringText)]

def twig : Json := .object [("type", .string "array")]

def nestDocument : Json :=
  .object [("type", .string "object"),
    ("properties", .object [("egg", .object [("$ref", .string "egg.json")])]), ("twig", twig)]

def eggDocument : Json :=
  .object [("type", .string "object"),
    ("properties", .object [("on", .object [("$ref", .string "nest.json#/twig")])])]

def ringDocument : Json :=
  .object [("type", .string "object"),
    ("properties", .object [("next", .object [("$ref", .string "ring.json")])])]

def eggType : RecordType := ⟨true, false, [("on", ⟨none, some .plain⟩)], []⟩

def nestType : RecordType := ⟨true, false, [("egg", ⟨some eggType, none⟩)], []⟩

theorem load_nest :
    Context.load tree "nest.json" "s" = .ok (.ofFile nestDocument ⟨["s", "nest.json"]⟩) := by
  rfl

theorem load_ring :
    Context.load tree "ring.json" "s" = .ok (.ofFile ringDocument ⟨["s", "ring.json"]⟩) := by
  rfl

theorem expands_twig : Expands store ctx twig ⟨none, some .plain⟩ := by
  refine .keywords rfl rfl ⟨rfl, rfl, by simp, by simp [OutlinesItems]⟩ ?_
  simp [parts, itemsParts, twig, Json.get?, Json.members, List.lookup_cons]

theorem expandsToRecord_egg :
    ExpandsToRecord tree (.ofFile eggDocument ⟨["s", "egg.json"]⟩) eggDocument eggType := by
  have hr : resolve tree "nest.json#/twig" (.ofFile eggDocument ⟨["s", "egg.json"]⟩) =
      .ok ⟨twig, .ofFile nestDocument ⟨["s", "nest.json"]⟩, "/twig"⟩ := by
    rfl
  have hparts : recordParts eggDocument eggType =
      [(.object [("$ref", .string "nest.json#/twig")], ⟨none, some .plain⟩)] := by
    rfl
  refine ⟨⟨?_, ?_, rfl, rfl⟩, ?_⟩
  · simp [eggType, eggDocument, Json.get?, Json.members, List.lookup_cons]
  · simp [eggType, eggDocument, Json.get?, Json.members, List.lookup_cons]
  · rw [hparts, List.forall_mem_singleton]
    exact .reference rfl hr expands_twig

theorem expandsToRecord_nest :
    ExpandsToRecord tree (.ofFile nestDocument ⟨["s", "nest.json"]⟩) nestDocument nestType := by
  have hr : resolve tree "egg.json" (.ofFile nestDocument ⟨["s", "nest.json"]⟩) =
      .ok ⟨eggDocument, .ofFile eggDocument ⟨["s", "egg.json"]⟩, ""⟩ := by
    rfl
  have hparts : recordParts nestDocument nestType =
      [(.object [("$ref", .string "egg.json")], ⟨some eggType, none⟩)] := by
    rfl
  refine ⟨⟨?_, ?_, rfl, rfl⟩, ?_⟩
  · simp [nestType, nestDocument, Json.get?, Json.members, List.lookup_cons]
  · simp [nestType, nestDocument, Json.get?, Json.members, List.lookup_cons]
  · rw [hparts, List.forall_mem_singleton]
    exact .reference rfl hr (expandsToRecord_egg.expands rfl rfl rfl)

/-- The nest compiles in both ways, and the ring in none. -/
theorem compileFile_of_wholeFile_nest :
    compileFile tree "s" "nest.json" = .ok nestType ∧
    (({} : Compiler).run (Compiler.compileNode tree (.ofDocument .null "s")
      (.object [("$ref", .string "nest.json")]))).1 = .ok ⟨some nestType, none⟩ ∧
    (({} : Compiler).run (Compiler.compileNode tree (.ofDocument .null "s")
      (.object [("$ref", .string "ring.json")]))).1 = .error (.reference (.cyclic
        [⟨some ⟨["s", "ring.json"]⟩, ""⟩, ⟨some ⟨["s", "ring.json"]⟩, ""⟩])) ∧
    ¬ ∃ t, compileFile tree "s" "ring.json" = .ok t := by
  have hctx : (Context.ofDocument .null "s").Arises tree := Or.inl ⟨_, _, rfl⟩
  have hproperties : ∀ {next : List (String × Json)} {v : Json},
      some (Json.object next) = some v → v.isObject = true := by
    rintro next v hv
    cases hv
    rfl
  have hnest : compileFile tree "s" "nest.json" = .ok nestType :=
    (compileFile_eq_ok_iff load_nest).2 ⟨⟨rfl, fun v hv => hproperties hv⟩, expandsToRecord_nest⟩
  have hring : (({} : Compiler).run (Compiler.compileNode tree (.ofDocument .null "s")
      (.object [("$ref", .string "ring.json")]))).1 = .error (.reference (.cyclic
        [⟨some ⟨["s", "ring.json"]⟩, ""⟩, ⟨some ⟨["s", "ring.json"]⟩, ""⟩])) :=
    (map_eq_error_iff (f := fun _ => ())).1 (by decide +kernel)
  have hrefNest : (Json.object [("$ref", .string "nest.json")]).get? "$ref" =
      some (.string "nest.json") := rfl
  have hrefRing : (Json.object [("$ref", .string "ring.json")]).get? "$ref" =
      some (.string "ring.json") := rfl
  obtain ⟨-, -, hagree⟩ := compileFile_of_wholeFile hctx (by decide) (by decide) load_nest hrefNest
    rfl fun v hv => hproperties hv
  obtain ⟨-, -, hagree'⟩ := compileFile_of_wholeFile hctx (by decide) (by decide) load_ring hrefRing
    rfl fun v hv => hproperties hv
  exact ⟨hnest, ((hagree rfl).1 _).1 hnest, hring, (hagree' rfl).2 _ hring⟩

end JsonRecords
