import JsonRecords.Proofs.PointerText
import JsonRecords.Record.Compiler
import Mathlib.Control.Monad.Basic

/-!
# Files under several names

A file can be asked for by many names, from different directories, through links and by steps up.
Which of them was used shows in nothing that comes after the file was loaded: every name that leads
to the same place loads the same context and compiles to the same outcome (`load_of_sameFile`), and
one of these names is the canonical path of the file.

A walk ends at a place that the root leads to through directories alone (`Store.hasPlace_of_walk`).
Here this way is walked again.  It meets no link, so it ends at the place it is the way to
(`Store.HasPlace.walk`), and the text of the canonical path is read back as the names on it
(`Path.stepsFromRoot_text`).
-/

namespace JsonRecords

variable {store : Store} {names here : List String} {name : String}

/-! ## The text of a canonical path -/

namespace Path

theorem text_eq_pointerText (hne : names ≠ []) :
    AbsolutePath.text ⟨names⟩ = Pointer.text names := by
  simp [AbsolutePath.text, Pointer.text, hne]

theorem isAbsolute_text (names : List String) :
    isAbsolute (AbsolutePath.text ⟨names⟩) = true := by
  by_cases hne : names = []
  · subst hne
    rfl
  · obtain ⟨first, rest, rfl⟩ := List.exists_cons_of_ne_nil hne
    simp [isAbsolute, text_eq_pointerText hne, Pointer.toList_text]

theorem pieces_text (hne : names ≠ []) (hnames : ∀ name ∈ names, IsStep name) :
    pieces (AbsolutePath.text ⟨names⟩) = names := by
  have hfree : Pointer.SlashFree names := fun name hname => (hnames name hname).slashFree
  have hsplit : (Pointer.text names).toList.splitOn '/' = [] :: names.map String.toList :=
    Pointer.splitOn_append_text hfree (s := []) (by simp)
  have hkeep : ∀ name ∈ names, decide (name ≠ "") = true := by
    intro name hname
    exact decide_eq_true (hnames name hname).nonempty
  rw [pieces, text_eq_pointerText hne, hsplit, List.map_cons, Pieces.map_ofList_toList]
  rw [List.filter_cons_of_neg (by decide), List.filter_eq_self.2 hkeep]

/-- No slash stands behind the last name. -/
theorem endsInSlash_text (hname : IsStep name) :
    endsInSlash (AbsolutePath.text ⟨here ++ [name]⟩) = false := by
  have hne : here ++ [name] ≠ [] := by simp
  have hchars : name.toList ≠ [] := by
    intro h
    exact hname.nonempty (String.toList_eq_nil_iff.1 h)
  have hlast : (Pointer.text (here ++ [name])).toList.getLast? =
      some (name.toList.getLast hchars) := by
    simp [Pointer.toList_text, List.getLast?_append, List.getLast?_cons,
      List.getLast?_eq_some_getLast hchars]
  have hfree : name.toList.getLast hchars ≠ '/' := by
    intro h
    exact hname.slashFree (h ▸ List.getLast_mem hchars)
  rw [endsInSlash, text_eq_pointerText hne, hlast]
  simpa using hfree

theorem stepsFromRoot_text (hhere : ∀ name ∈ here, IsStep name) (hname : IsStep name) :
    store.stepsFromRoot (AbsolutePath.text ⟨here ++ [name]⟩) = here ++ [name] := by
  have hnames : ∀ step ∈ here ++ [name], IsStep step :=
    List.forall_mem_append.2 ⟨hhere, List.forall_mem_singleton.2 hname⟩
  rw [Store.stepsFromRoot, if_pos (isAbsolute_text _), steps, endsInSlash_text hname,
    pieces_text (by simp) hnames]
  simp

/-- An absolute path is the same from every directory. -/
theorem join_text (dir : String) (path : AbsolutePath) : join dir path.text = path.text := by
  rw [join, if_pos (isAbsolute_text path.names)]

end Path

/-! ## Walking a way without links -/

namespace Store

variable {place : Place} {follow : List String → List String → Except FileError Place}

theorem HasDirectory.isName (h : HasDirectory store here) : ∀ name ∈ here, IsName name := by
  induction h with
  | root => exact List.forall_mem_nil _
  | child _ hname _ ih => exact List.forall_mem_append.2 ⟨ih, List.forall_mem_singleton.2 hname⟩

/-- A name leads to what the directory has under it. -/
theorem walkSteps_name (hname : IsName name) (rest : List String) :
    store.walkSteps follow here (name :: rest) =
      match store.entryAt (here ++ [name]) with
      | none => .error .notFound
      | some .directory => store.walkSteps follow (here ++ [name]) rest
      | some (.link target) =>
        follow (if Path.isAbsolute target then [] else here) (Path.steps target ++ rest)
      | some file =>
        if rest.isEmpty then .ok ⟨here ++ [name], file⟩ else .error .notADirectory := by
  rw [walkSteps, if_neg hname.ne_here, if_neg hname.ne_up]
  exact if_neg (Nat.not_lt.2 hname.short)

/-- The directories on a way without links are passed one by one. -/
theorem HasDirectory.walkSteps (h : HasDirectory store here) (rest : List String) :
    store.walkSteps follow [] (here ++ rest) = store.walkSteps follow here rest := by
  induction h generalizing rest with
  | root => rfl
  | child _ hname hentry ih =>
    rw [List.append_assoc, ih, List.singleton_append, walkSteps_name hname, hentry]

/-- The way to a place is walked to that place, however few links may be followed. -/
theorem HasPlace.walk (h : HasPlace store place) (links : Nat) :
    store.walk links [] place.names = .ok place := by
  obtain ⟨follow, hwalk⟩ : ∃ follow, store.walk links = store.walkSteps follow := by
    cases links <;> exact ⟨_, rfl⟩
  rw [hwalk]
  cases h with
  | directory h =>
    have hpass : store.walkSteps follow [] (_ ++ []) = store.walkSteps follow _ [] := h.walkSteps []
    rw [List.append_nil] at hpass
    exact hpass
  | file h hname hentry hfile =>
    rename_i here name entry
    rw [h.walkSteps, walkSteps_name hname, hentry]
    cases entry with
    | directory => cases hfile
    | link target => cases hfile
    | text content => rfl
    | binary => rfl

/-- A file is found again by the path to its place. -/
theorem HasPlace.locate_text (h : HasPlace store place) (hfile : place.entry ≠ .directory)
    (hfault : pathFault? (AbsolutePath.text ⟨place.names⟩) = none) :
    store.locate (AbsolutePath.text ⟨place.names⟩) = .ok place := by
  have hwalk := h.walk linkLimit
  unfold locate
  rw [hfault]
  cases h with
  | directory h => exact absurd rfl hfile
  | file h hname hentry _ =>
    have hhere : ∀ step ∈ _, IsStep step := fun step hstep => (h.isName step hstep).toIsStep
    dsimp only at hwalk ⊢
    rw [Path.stepsFromRoot_text hhere hname.toIsStep]
    exact hwalk

/-! ## Paths without links -/

/-- The path leads to a file, and all that stands on the way is a directory: no link, no step up and
no step on the spot. -/
structure IsLinkFree (store : Store) (path : AbsolutePath) : Prop where
  names : ∀ name ∈ path.names, IsName name
  directories : ∀ front, front <+: path.names → front ≠ path.names →
    store.entryAt front = some .directory
  file : ∃ content, store.entryAt path.names = some (.text content)

theorem HasDirectory.of_prefix {front : List String} (h : HasDirectory store here)
    (hfront : front <+: here) : HasDirectory store front := by
  induction h with
  | root =>
    rw [List.prefix_nil.1 hfront]
    exact .root
  | child h hname hentry ih =>
    rcases List.prefix_concat_iff.1 hfront with rfl | hshort
    · exact .child h hname hentry
    · exact ih hshort

theorem HasPlace.isLinkFree {content : String} (h : HasPlace store ⟨names, .text content⟩) :
    store.IsLinkFree ⟨names⟩ := by
  have hentry := h.entryAt
  cases h with
  | file h hname _ _ =>
    refine ⟨?_, ?_, content, hentry⟩
    · exact List.forall_mem_append.2 ⟨h.isName, List.forall_mem_singleton.2 hname⟩
    · intro front hfront hne
      have hshort := (List.prefix_concat_iff.1 hfront).resolve_left hne
      exact (h.of_prefix hshort).entryAt

end Store

/-! ## Loading by another name -/

section

variable {path path' dir dir' : String} {ctx : Context} {real : AbsolutePath}

/-- What has been loaded is loaded again by every name of its source. -/
theorem Context.load_of_canonical (hload : Context.load store path dir = .ok ctx)
    (hsource : ctx.source = some real)
    (hreal : store.canonical (Path.join dir' path') = .ok real) :
    Context.load store path' dir' = .ok ctx := by
  obtain ⟨names, content, document, hplace, hdocument, hfault, rfl⟩ := load_eq_ok_iff.1 hload
  obtain rfl : ⟨names⟩ = real := Option.some.inj hsource
  obtain ⟨⟨entry, hplace'⟩, -⟩ := Store.canonical_eq_ok_iff.1 hreal
  -- both walks end at the same names, where the store has only one entry
  have hentry : store.entryAt names = some (.text content) :=
    (Store.hasPlace_of_locate hplace).entryAt
  have hentry' : store.entryAt names = some entry := (Store.hasPlace_of_locate hplace').entryAt
  obtain rfl : .text content = entry := Option.some.inj (hentry.symm.trans hentry')
  exact load_eq_ok_iff.2 ⟨names, content, document, hplace', hdocument, hfault, rfl⟩

/-- The place that has been loaded from is found by the canonical path as well. -/
theorem Context.locate_source (hload : Context.load store path dir = .ok ctx)
    (hsource : ctx.source = some real) :
    ∃ content, store.locate real.text = .ok ⟨real.names, .text content⟩ ∧
      Json.read content = .ok ctx.document ∧ Store.pathFault? real.text = none := by
  obtain ⟨names, content, document, hplace, hdocument, hfault, rfl⟩ := load_eq_ok_iff.1 hload
  obtain rfl : ⟨names⟩ = real := Option.some.inj hsource
  have hway : store.HasPlace ⟨names, .text content⟩ := Store.hasPlace_of_locate hplace
  exact ⟨content, hway.locate_text (by simp) hfault, hdocument, hfault⟩

/-- The context is that of the file at a path: its document is what the file holds, and its
directory is the one that the file is in. -/
structure Context.IsOfFile (store : Store) (ctx : Context) (path : AbsolutePath) : Prop where
  source : ctx.source = some path
  document : ∃ content, store.read path.text = .ok content ∧ Json.read content = .ok ctx.document
  baseDir : ctx.baseDir = path.parent.text

theorem Context.isOfFile_of_load (hload : Context.load store path dir = .ok ctx) :
    ∃ real, store.canonical (Path.join dir path) = .ok real ∧ ctx.IsOfFile store real ∧
      store.IsLinkFree real := by
  obtain ⟨names, content, document, hplace, hdocument, hfault, hctx⟩ := load_eq_ok_iff.1 hload
  have hsource : ctx.source = some ⟨names⟩ := by
    rw [hctx]
    rfl
  have hdirectory : ctx.baseDir = (AbsolutePath.mk names).parent.text := by
    rw [hctx]
    rfl
  obtain ⟨content', hplace', hdocument', -⟩ := locate_source hload hsource
  have hread : store.read (AbsolutePath.text ⟨names⟩) = .ok content' :=
    Store.read_eq_ok_iff.2 ⟨names, hplace'⟩
  refine ⟨⟨names⟩, Store.canonical_eq_ok_iff.2 ⟨⟨_, hplace⟩, hfault⟩, ?_, ?_⟩
  · exact ⟨hsource, ⟨content', hread, hdocument'⟩, hdirectory⟩
  · exact (Store.hasPlace_of_locate hplace).isLinkFree

/-- **A schema compiles the same under every name of its file.**  When a file has been loaded, then
every path that has the same canonical path, from whatever directory, loads the same context: the
same document with the same directory and the same source.  The source is a path without links, the
directory is its parent, and the source is itself a name to load the same context by, whatever the
directory.  So compiling the file comes to the same outcome by all of these names, be it a record
type or an error. -/
theorem load_of_sameFile (hload : Context.load store path dir = .ok ctx)
    (hsame : store.canonical (Path.join dir' path') = store.canonical (Path.join dir path)) :
    Context.load store path' dir' = .ok ctx ∧
    compileFile store dir' path' = compileFile store dir path ∧
    ∃ real, store.canonical (Path.join dir path) = .ok real ∧ store.IsLinkFree real ∧
      ctx.IsOfFile store real ∧
      ∀ dir, Context.load store real.text dir = .ok ctx ∧
        compileFile store dir real.text = compileFile store dir' path' := by
  obtain ⟨real, hreal, hfile, hfree⟩ := Context.isOfFile_of_load hload
  have hload' : Context.load store path' dir' = .ok ctx :=
    Context.load_of_canonical hload hfile.source (hsame.trans hreal)
  refine ⟨hload', ?_, real, hreal, hfree, hfile, fun dir'' => ?_⟩
  · rw [compileFile_of_load hload', compileFile_of_load hload]
  · obtain ⟨content, hplace, -, hfault⟩ := Context.locate_source hload hfile.source
    have hcanonical : store.canonical (Path.join dir'' real.text) = .ok real := by
      rw [Path.join_text]
      exact Store.canonical_eq_ok_iff.2 ⟨⟨_, hplace⟩, hfault⟩
    have hload'' : Context.load store real.text dir'' = .ok ctx :=
      Context.load_of_canonical hload hfile.source hcanonical
    exact ⟨hload'', by rw [compileFile_of_load hload'', compileFile_of_load hload']⟩

end

/-! ## A file behind several links -/

def tableText : String :=
  "\x7b\"type\":\"object\",\"properties\":\x7b\"leg\":\x7b\"$ref\":\"leg.json\"\x7d\x7d\x7d"

/-- A link leads through another one and up again to the table, whose leg is the one beside it. -/
def workshop : Store where
  workDir := "/s"
  entries := [(["s"], .directory), (["s", "wood"], .directory), (["s", "wood", "oak"], .directory),
    (["s", "wood", "table.json"], .text tableText),
    (["s", "wood", "leg.json"], .text "\x7b\"type\":\"array\"\x7d"),
    (["s", "leg.json"], .text "\x7b\"type\":\"object\"\x7d"),
    (["s", "grove"], .link "/s/wood/oak"), (["s", "desk.json"], .link "grove/.././table.json")]

def tableDocument : Json :=
  .object [("type", .string "object"),
    ("properties", .object [("leg", .object [("$ref", .string "leg.json")])])]

/-- Three names load the table, and the leg is an array by each of them. -/
theorem load_of_sameFile_table :
    Context.load workshop "desk.json" "" =
      .ok (.ofFile tableDocument ⟨["s", "wood", "table.json"]⟩) ∧
    Context.load workshop "../table.json" "./grove" =
      .ok (.ofFile tableDocument ⟨["s", "wood", "table.json"]⟩) ∧
    Context.load workshop "/s/wood/table.json" "nowhere" =
      .ok (.ofFile tableDocument ⟨["s", "wood", "table.json"]⟩) ∧
    compileFile workshop "./grove" "../table.json" = compileFile workshop "" "desk.json" ∧
    compileFile workshop "nowhere" "/s/wood/table.json" =
      compileFile workshop "./grove" "../table.json" ∧
    ((compileFile workshop "" "desk.json").toOption.bind (·.fieldShape? "leg")).any
      (·.items.isSome) = true ∧
    workshop.IsLinkFree ⟨["s", "wood", "table.json"]⟩ := by
  have hplace : workshop.locate (Path.join "" "desk.json") =
      .ok ⟨["s", "wood", "table.json"], .text tableText⟩ := by
    decide +kernel
  have hdocument : Json.read tableText = .ok tableDocument := by
    rfl
  have hfault : Store.pathFault? (AbsolutePath.text ⟨["s", "wood", "table.json"]⟩) = none := by
    decide +kernel
  have hload : Context.load workshop "desk.json" "" =
      .ok (.ofFile tableDocument ⟨["s", "wood", "table.json"]⟩) :=
    Context.load_eq_ok_iff.2 ⟨_, _, _, hplace, hdocument, hfault, rfl⟩
  have hsame : workshop.canonical (Path.join "./grove" "../table.json") =
      workshop.canonical (Path.join "" "desk.json") := by
    decide +kernel
  obtain ⟨hload', hcompile, real, -, hfree, hfile, hreal⟩ := load_of_sameFile hload hsame
  obtain rfl : ⟨["s", "wood", "table.json"]⟩ = real := Option.some.inj hfile.source
  obtain ⟨hload'', hcompile'⟩ := hreal "nowhere"
  have hleg : ((compileFile workshop "" "desk.json").toOption.bind (·.fieldShape? "leg")).any
      (·.items.isSome) = true := by
    decide +kernel
  exact ⟨hload, hload', hload'', hcompile, hcompile', hleg, hfree⟩

end JsonRecords
