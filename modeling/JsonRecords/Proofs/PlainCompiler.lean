import JsonRecords.Proofs.Expansion
import JsonRecords.Record.Compiler

/-!
# Compiling without a memory

The plain compiler follows references as the compiler does and refuses the same circles, but keeps
nothing: each reference is followed anew.  `plainAlong` succeeds only with expansions
(`expands_of_plainAlong`), and it finds an expansion whatever path it is on, as long as that path
was really walked (`plainAlong_of_expands`).

A path that was walked is one whose targets all wait for the reference at hand (`Awaits`).  Such a
target is never met again below something that has an expansion, for it would be needed for itself.
-/

namespace JsonRecords

open Json Relation

variable {store : Store} {home root ctx : Context} {path : List Target} {text : String}
  {r : Resolved} {node : Json} {s : Shape} {t : RecordType} {e : SchemaError}

/-! ## The plain compiler -/

theorem mem_contexts_self (store : Store) (ctx : Context) : ctx ∈ ctx :: store.documents :=
  List.mem_cons_self

/-- Where a reference leads is in the contexts that the compiler counts on. -/
theorem mem_contexts_of_resolve (hctx : ctx ∈ root :: store.documents)
    (hr : resolve store text ctx = .ok r) : r.context ∈ root :: store.documents :=
  (resolve_context hr).elim (fun h => h ▸ hctx) (List.mem_cons_of_mem _)

theorem targetsLeft_lt (hctx : ctx ∈ root :: store.documents)
    (hr : resolve store text ctx = .ok r) (hp : r.target ∉ path) :
    targetsLeft (store.targetsFrom root) (r.target :: path) <
      targetsLeft (store.targetsFrom root) path :=
  targetsLeft_cons_lt
    (List.mem_flatMap.2 ⟨_, mem_contexts_of_resolve hctx hr, target_mem_targets hr⟩) hp

/-- The shape that a reference in a context leads to, while the targets on `path` are being worked
on. -/
def plainAlong (store : Store) (root : Context) (path : List Target) (ctx : Context)
    (hctx : ctx ∈ root :: store.documents) (text : String) : Except SchemaError Shape :=
  match hr : resolve store text ctx with
  | .error e => .error e
  | .ok r =>
    if hp : r.target ∈ path then .error (.reference (.cyclic (cycleThrough r.target path)))
    else
      have := targetsLeft_lt hctx hr hp
      shapeOf (plainAlong store root (r.target :: path) r.context (mem_contexts_of_resolve hctx hr))
        r.node
termination_by targetsLeft (store.targetsFrom root) path

/-- The shape that a reference in a context leads to. -/
def plainFollow (store : Store) (ctx : Context) (text : String) : Except SchemaError Shape :=
  plainAlong store ctx [] ctx (mem_contexts_self store ctx) text

section

variable (hctx : ctx ∈ root :: store.documents)
include hctx

theorem plainAlong_of_error (hr : resolve store text ctx = .error e) :
    plainAlong store root path ctx hctx text = .error e := by
  rw [plainAlong]
  split
  · rename_i e' he'
    rw [hr] at he'
    cases he'
    rfl
  · rename_i r' hr'
    rw [hr] at hr'
    cases hr'

theorem plainAlong_of_ok (hr : resolve store text ctx = .ok r) :
    plainAlong store root path ctx hctx text =
      if r.target ∈ path then .error (.reference (.cyclic (cycleThrough r.target path)))
      else shapeOf (plainAlong store root (r.target :: path) r.context
        (mem_contexts_of_resolve hctx hr)) r.node := by
  rw [plainAlong]
  split
  · rename_i e' he'
    rw [hr] at he'
    cases he'
  · rename_i r' hr'
    obtain rfl := Except.ok.inj (hr.symm.trans hr')
    rfl

theorem plainAlong_of_mem (hr : resolve store text ctx = .ok r) (hp : r.target ∈ path) :
    plainAlong store root path ctx hctx text =
      .error (.reference (.cyclic (cycleThrough r.target path))) := by
  rw [plainAlong_of_ok hctx hr, if_pos hp]

theorem plainAlong_of_not_mem (hr : resolve store text ctx = .ok r) (hp : r.target ∉ path) :
    plainAlong store root path ctx hctx text =
      shapeOf (plainAlong store root (r.target :: path) r.context
        (mem_contexts_of_resolve hctx hr)) r.node := by
  rw [plainAlong_of_ok hctx hr, if_neg hp]

end

/-! ## What it finds are expansions -/

theorem expands_of_plainAlong (hctx : ctx ∈ root :: store.documents)
    (h : plainAlong store root path ctx hctx text = .ok s) :
    ∃ r, resolve store text ctx = .ok r ∧ Expands store r.context r.node s := by
  induction hleft : targetsLeft (store.targetsFrom root) path using Nat.strongRecOn
    generalizing path ctx text s with
  | _ left ih =>
    subst hleft
    cases hr : resolve store text ctx with
    | error e =>
      rw [plainAlong_of_error hctx hr] at h
      cases h
    | ok r =>
      by_cases hp : r.target ∈ path
      · rw [plainAlong_of_mem hctx hr hp] at h
        cases h
      · rw [plainAlong_of_not_mem hctx hr hp] at h
        refine ⟨r, rfl, expands_of_shapeOf (fun text s _ hs => ?_) h⟩
        exact ih _ (targetsLeft_lt hctx hr hp) _ hs rfl

/-! ## Expansions are found -/

/-- Every target on the path is waiting for the reference. -/
def Awaits (store : Store) (home : Context) (path : List Target) (r : Resolved) : Prop :=
  ∀ t ∈ path, ∃ q : Resolved, q.IsAbout store home ∧ q.target = t ∧
    TransGen (IsNeededFor store) r q

theorem Awaits.nil : Awaits store home [] r := by
  intro t ht
  cases ht

/-- What the path waits for is not on it, if it comes to an end. -/
theorem Awaits.not_mem (hhome : home.source = none) (hpath : Awaits store home path r)
    (hr : r.IsAbout store home) (hacc : Acc (IsNeededFor store) r) : r.target ∉ path := by
  intro hp
  obtain ⟨q, hq, htarget, hneeded⟩ := hpath _ hp
  obtain rfl := Resolved.eq_of_target_eq hhome hq hr htarget
  exact not_transGen_self hacc hneeded

/-- The path waits for the references in what it waits for. -/
theorem Awaits.cons {r' : Resolved} (hpath : Awaits store home path r)
    (hr : r.IsAbout store home) (hneeded : IsNeededFor store r' r) :
    Awaits store home (r.target :: path) r' := by
  intro t ht
  rcases List.mem_cons.1 ht with rfl | ht
  · exact ⟨r, hr, rfl, .single hneeded⟩
  · obtain ⟨q, hq, htarget, hwaits⟩ := hpath t ht
    exact ⟨q, hq, htarget, .trans (.single hneeded) hwaits⟩

theorem plainAlong_of_expands (hhome : home.source = none) (habout : ctx.IsAbout store home)
    (hctx : ctx ∈ root :: store.documents) (hr : resolve store text ctx = .ok r)
    (hpath : Awaits store home path r) (h : Expands store r.context r.node s) :
    plainAlong store root path ctx hctx text = .ok s := by
  induction hleft : targetsLeft (store.targetsFrom root) path using Nat.strongRecOn
    generalizing path ctx text r s with
  | _ left ih =>
    subst hleft
    have hrAbout := habout.resolve hr
    have hp : r.target ∉ path := hpath.not_mem hhome hrAbout h.acc
    rw [plainAlong_of_not_mem hctx hr hp]
    refine shapeOf_of_expands (fun text r' s' ht hr' hs' => ?_) h
    exact ih _ (targetsLeft_lt hctx hr hp) hrAbout.context _ hr'
      (hpath.cons hrAbout ⟨text, ht, hr'⟩) hs' rfl

/-! ## Nodes -/

/-- The plain compiler gives a node its expansion, if it has one. -/
theorem shapeOf_plainFollow_eq_ok_iff (hhome : home.source = none)
    (habout : ctx.IsAbout store home) :
    shapeOf (plainFollow store ctx) node = .ok s ↔ Expands store ctx node s := by
  constructor
  · exact fun h => expands_of_shapeOf (fun text s _ hs => expands_of_plainAlong _ hs) h
  · refine fun h => shapeOf_of_expands (fun text r s _ hr hs => ?_) h
    exact plainAlong_of_expands hhome habout _ hr Awaits.nil hs

theorem recordTypeOf_plainFollow_eq_ok_iff (hhome : home.source = none)
    (habout : ctx.IsAbout store home) :
    recordTypeOf (plainFollow store ctx) node = .ok t ↔ ExpandsToRecord store ctx node t := by
  rw [recordTypeOf_eq_ok_iff, ExpandsToRecord]
  simp only [shapeOf_plainFollow_eq_ok_iff hhome habout]

end JsonRecords
