import JsonRecords.Files.Walk
import JsonRecords.Json.Reader

/-!
# Documents and where they stand

A context is a schema document with the directory that the file names in it start from.  A document
that was loaded from a file also has that file as its source, by its canonical path, and its
directory is the one the file really is in, however it was asked for.

`Context.load` reads a document from a store, and `Store.documents` lists everything that can come
of it: `mem_documents_of_load` says that a store holds no other contexts.
-/

namespace JsonRecords

structure Context where
  document : Json
  baseDir : String
  source : Option AbsolutePath

/-- Why a file is no schema document. -/
inductive LoadError where
  | read (path : String) (cause : FileError)
  | parse (path : String) (cause : Json.ReadError)
  deriving DecidableEq, Repr

def LoadError.message : LoadError → String
  | .read path cause => "failed to read schema " ++ path ++ ": " ++ cause.message
  | .parse path cause => "failed to parse schema " ++ path ++ " as JSON: " ++ cause.message

/-- The text of the fault below the error. -/
def LoadError.cause : LoadError → String
  | .read _ cause => cause.message
  | .parse _ cause => cause.message

namespace Context

/-- A document in memory. -/
def ofDocument (document : Json) (baseDir : String) : Context :=
  { document, baseDir, source := none }

/-- The document of the file at a canonical path. -/
def ofFile (document : Json) (path : AbsolutePath) : Context :=
  { document, baseDir := path.parent.text, source := some path }

/-- What messages call the document. -/
def label (ctx : Context) : String :=
  match ctx.source with
  | some path => path.text
  | none => "<inline>"

def load (store : Store) (path baseDir : String) : Except LoadError Context :=
  let full := Path.join baseDir path
  match store.read full with
  | .error cause => .error (.read full cause)
  | .ok content =>
    match Json.read content with
    | .error cause => .error (.parse full cause)
    | .ok document =>
      match store.canonical full with
      | .error cause => .error (.read full cause)
      | .ok real => .ok (ofFile document real)

end Context

/-! ## The documents of a store -/

/-- The contexts of all files of a store that hold a JSON document. -/
def Store.documents (store : Store) : List Context :=
  store.entries.filterMap fun (names, entry) =>
    match entry with
    | .text content => (Json.read content).toOption.map fun document => .ofFile document ⟨names⟩
    | _ => none

namespace Store

theorem mem_entries_of_entryAt {store : Store} {content : String} {names : List String}
    (h : store.entryAt names = some (.text content)) :
    (names, Entry.text content) ∈ store.entries := by
  unfold entryAt at h
  split at h
  · cases h
  · exact Association.mem_of_lookup_eq_some h

end Store

/-- A document is loaded from the place that the path leads to, if its path can be told. -/
theorem Context.load_eq_ok_iff {store : Store} {path baseDir : String} {ctx : Context} :
    Context.load store path baseDir = .ok ctx ↔
      ∃ names content document,
        store.locate (Path.join baseDir path) = .ok ⟨names, .text content⟩ ∧
        Json.read content = .ok document ∧
        Store.pathFault? (AbsolutePath.text ⟨names⟩) = none ∧ ctx = .ofFile document ⟨names⟩ := by
  constructor
  · intro h
    unfold Context.load at h
    simp only at h
    split at h
    · cases h
    · rename_i content hread
      split at h
      · cases h
      · rename_i document hdocument
        split at h
        · cases h
        · rename_i real hreal
          obtain ⟨names, hplace⟩ := Store.read_eq_ok_iff.1 hread
          obtain ⟨⟨entry, hplace'⟩, hfault⟩ := Store.canonical_eq_ok_iff.1 hreal
          obtain ⟨names'⟩ := real
          have hsame := Except.ok.inj (hplace.symm.trans hplace')
          obtain rfl : names = names' := congrArg Store.Place.names hsame
          exact ⟨names, content, document, hplace, hdocument, hfault, (Except.ok.inj h).symm⟩
  · rintro ⟨names, content, document, hplace, hdocument, hfault, rfl⟩
    have hread : store.read (Path.join baseDir path) = .ok content :=
      Store.read_eq_ok_iff.2 ⟨names, hplace⟩
    have hreal : store.canonical (Path.join baseDir path) = .ok ⟨names⟩ :=
      Store.canonical_eq_ok_iff.2 ⟨⟨_, hplace⟩, hfault⟩
    unfold Context.load
    simp only [hread, hdocument, hreal]

/-- What is loaded is the document of a file, whatever path the file was asked for by. -/
theorem Context.exists_file_of_load {store : Store} {path baseDir : String} {ctx : Context}
    (h : Context.load store path baseDir = .ok ctx) :
    ∃ names content document, store.entryAt names = some (.text content) ∧
      Json.read content = .ok document ∧ ctx = .ofFile document ⟨names⟩ := by
  obtain ⟨names, content, document, hplace, hdocument, -, hctx⟩ := load_eq_ok_iff.1 h
  exact ⟨names, content, document, (Store.hasPlace_of_locate hplace).entryAt, hdocument, hctx⟩

theorem Context.mem_documents_of_load {store : Store} {path baseDir : String} {ctx : Context}
    (h : Context.load store path baseDir = .ok ctx) : ctx ∈ store.documents := by
  obtain ⟨names, content, document, hentry, hdoc, rfl⟩ := exists_file_of_load h
  refine List.mem_filterMap.2 ⟨_, Store.mem_entries_of_entryAt hentry, ?_⟩
  simp [hdoc, Except.toOption]

end JsonRecords
