import JsonRecords.Proofs.FiniteExpansion
import Mathlib.Data.List.Chain
import Mathlib.Data.List.TakeWhile

/-!
# Reported circles

The error for a circle lists targets, from the one that came up again back to it.  What it lists is
a circle indeed (`reported_circle`): no target but the first comes twice, and in the node that each
of them names there is a reference to the next one.  Nothing on the list has an expansion.

This does not depend on what the compiler knew before.  Known targets are never put on the path, and
what is on the path was walked, each target being put there for a reference in the node of the one
before it (`reporting_followAlong`).
-/

namespace JsonRecords

open Json

variable {store : Store} {home root ctx : Context} {path chain : List Target} {text : String}
  {r r' : Resolved} {t t' : Target}

/-! ## From target to target -/

/-- The target is that of a node, either in a file or in the document of one more context. -/
def Target.Names (store : Store) (home : Context) (t : Target) (r : Resolved) : Prop :=
  r.IsAbout store home ∧ r.target = t

/-- The descent through the node of the first target meets a reference to the second one. -/
def Target.LeadsTo (store : Store) (home : Context) (t t' : Target) : Prop :=
  ∃ r r', t.Names store home r ∧ IsNeededFor store r' r ∧ r'.target = t'

theorem Resolved.IsAbout.of_context (h : r.IsAbout store ctx) (hctx : ctx.IsAbout store home) :
    r.IsAbout store home := by
  refine ⟨?_, h.node⟩
  rcases h.context with hcontext | hloaded
  · rw [hcontext]
    exact hctx
  · exact Or.inr hloaded

theorem IsNeededFor.leadsTo (h : IsNeededFor store r' r) (hr : r.IsAbout store home) :
    r.target.LeadsTo store home r'.target :=
  ⟨r, r', ⟨hr, rfl⟩, h, rfl⟩

/-- A target is the target of one node only. -/
theorem Target.Names.eq (hctx : ctx.Arises store) (h : t.Names store ctx r)
    (h' : t.Names store ctx r') : r = r' := by
  obtain ⟨home, hhome, habout⟩ := hctx.exists_home
  exact Resolved.eq_of_target_eq hhome (h.1.of_context habout) (h'.1.of_context habout)
    (h.2.trans h'.2.symm)

/-! ## Circles -/

/-- The targets of a circle in order, from one of them back to it. -/
structure IsCircle (store : Store) (home : Context) (chain : List Target) : Prop where
  closed : ∃ first between, chain = first :: between ++ [first] ∧ (first :: between).Nodup
  steps : chain.IsChain (Target.LeadsTo store home)

theorem takeWhile_ne_append_prefix (ht : t ∈ path) : path.takeWhile (· ≠ t) ++ [t] <+: path := by
  induction path with
  | nil => cases ht
  | cons u rest ih =>
    by_cases hu : u = t
    · simp [hu]
    · have ht : t ∈ rest := (List.mem_cons.1 ht).resolve_left fun e => hu e.symm
      rw [List.takeWhile_cons_of_pos (by simpa using hu), List.cons_append]
      exact List.cons_prefix_cons.2 ⟨rfl, ih ht⟩

/-- A walk that comes back to one of its targets has gone round in a circle. -/
theorem isCircle_cycleThrough (ht : t ∈ path) (hnodup : path.Nodup)
    (hpath : (t :: path).IsChain fun t' t => t.LeadsTo store home t') :
    IsCircle store home (cycleThrough t path) := by
  refine ⟨⟨t, (path.takeWhile (· ≠ t)).reverse, rfl, ?_⟩, ?_⟩
  · rw [List.nodup_cons, (List.reverse_perm _).nodup_iff, List.mem_reverse]
    refine ⟨fun hmem => ?_, hnodup.sublist (List.takeWhile_sublist _)⟩
    simpa using List.mem_takeWhile_imp hmem
  · -- the path has the last target first
    have hround : cycleThrough t path = (t :: (path.takeWhile (· ≠ t) ++ [t])).reverse := by
      simp [cycleThrough]
    rw [hround, List.isChain_reverse]
    exact hpath.prefix (List.cons_prefix_cons.2 ⟨rfl, takeWhile_ne_append_prefix ht⟩)

/-- In a circle there is always a next target. -/
theorem IsCircle.exists_next (h : IsCircle store home chain) (ht : t ∈ chain) :
    ∃ t' ∈ chain, t.LeadsTo store home t' := by
  obtain ⟨⟨first, between, rfl, -⟩, hsteps⟩ := h
  have ht : t ∈ first :: between := by
    simpa [or_comm, or_assoc] using ht
  obtain ⟨front, back, hsplit⟩ := List.append_of_mem ht
  rw [hsplit, List.append_assoc, List.cons_append] at hsteps ⊢
  have hrest := (List.isChain_append.1 hsteps).2.1
  cases back with
  | nil => exact ⟨first, by simp, List.rel_of_isChain_cons_cons hrest⟩
  | cons next back => exact ⟨next, by simp, List.rel_of_isChain_cons_cons hrest⟩

/-- Nothing in a circle has an expansion: following its references goes on for ever. -/
theorem IsCircle.not_expands (hctx : ctx.Arises store) (h : IsCircle store ctx chain)
    (ht : t ∈ chain) (hr : t.Names store ctx r) : ¬ ∃ s, Expands store r.context r.node s := by
  rintro ⟨s, hs⟩
  have hacc := hs.acc
  clear hs
  induction hacc generalizing t with
  | intro r _ ih =>
    obtain ⟨t', ht', q, r', hq, hneeded, htarget⟩ := h.exists_next ht
    obtain rfl := hq.eq hctx hr
    exact ih r' hneeded ht' ⟨hneeded.isAbout hr.1, htarget⟩

/-! ## What is reported -/

/-- A computation of a compiler reports circles only. -/
def reporting (store : Store) (home : Context) : Simulation CompileM CompileM where
  rel x _ := ∀ (c : Compiler) chain,
    (c.run x).1 = .error (.reference (.cyclic chain)) → IsCircle store home chain
  pure a c chain h := by cases h
  raise e c chain h := by cases h
  bind := by
    intro α β x _ f _ hx hf c chain h
    rw [Compiler.run_bind] at h
    cases hrun : c.run x with
    | mk answer c' =>
      rw [hrun] at h
      cases answer with
      | ok a => exact hf a c' chain h
      | error e =>
        dsimp only at h
        cases h
        exact hx c chain (congrArg Prod.fst hrun)

theorem resolve_ne_cyclic : resolve store text ctx ≠ .error (.reference (.cyclic chain)) := by
  intro h
  unfold resolve at h
  dsimp only at h
  split at h
  · rename_i e hcontext
    cases h
    unfold Reference.contextFrom at hcontext
    split at hcontext
    · cases hcontext
    · split at hcontext <;> cases hcontext
  · split at h <;> cases h

/-- Following a reference reports circles only, on every path that was walked. -/
theorem reporting_followAlong (habout : ctx.IsAbout store home)
    (hctx : ctx ∈ root :: store.documents) (hnodup : path.Nodup)
    (hpath : ∀ r, resolve store text ctx = .ok r →
      (r.target :: path).IsChain fun t' t => t.LeadsTo store home t') :
    (reporting store home).rel (followAlong store root path ctx hctx text)
      (followAlong store root path ctx hctx text) := by
  induction hleft : targetsLeft (store.targetsFrom root) path using Nat.strongRecOn
    generalizing path ctx text with
  | _ left ih =>
    subst hleft
    intro c chain h
    cases hr : resolve store text ctx with
    | error e =>
      rw [run_followAlong_of_error hctx hr] at h
      cases h
      exact absurd hr resolve_ne_cyclic
    | ok r =>
      cases hs : c.shape? r.target with
      | some s =>
        rw [run_followAlong_of_known hctx hr hs] at h
        cases h
      | none =>
        by_cases hp : r.target ∈ path
        · rw [run_followAlong_of_mem hctx hr hs hp] at h
          cases h
          exact isCircle_cycleThrough hp hnodup (hpath r hr)
        · have hrAbout := habout.resolve hr
          have hbelow : (reporting store home).rel
              (shapeOf (followAlong store root (r.target :: path) r.context
                (mem_contexts_of_resolve hctx hr)) r.node)
              (shapeOf (followAlong store root (r.target :: path) r.context
                (mem_contexts_of_resolve hctx hr)) r.node) := by
            refine (reporting store home).shapeOf fun text ht => ?_
            refine ih _ (targetsLeft_lt hctx hr hp) hrAbout.context _
              (List.nodup_cons.2 ⟨hp, hnodup⟩) (fun r' hr' => ?_) rfl
            have hneeded : IsNeededFor store r' r := ⟨text, ht, hr'⟩
            exact List.isChain_cons_cons.2 ⟨hneeded.leadsTo hrAbout, hpath r hr⟩
          rw [run_followAlong_of_not_mem hctx hr hs hp] at h
          cases hrun : c.run (shapeOf (followAlong store root (r.target :: path) r.context
              (mem_contexts_of_resolve hctx hr)) r.node) with
          | mk answer c' =>
            rw [hrun] at h
            cases answer with
            | ok s => cases h
            | error e => exact hbelow c chain ((congrArg Prod.fst hrun).trans h)

theorem reporting_follow (text : String) :
    (reporting store ctx).rel (follow store ctx text) (follow store ctx text) :=
  reporting_followAlong (Or.inl rfl) List.mem_cons_self List.nodup_nil
    fun _ _ => List.isChain_singleton _

/-- Whatever a compiler knows, the circles it reports are circles. -/
theorem reporting_compile (call : Compiler.Call) :
    (reporting store call.context).rel (call.compile store) (call.compile store) := by
  rw [call.compile_eq]
  exact (reporting store call.context).answerWith call reporting_follow

/-- **A reported circle is a circle.**  When a compiler, whatever it knows already, fails at a
circle, then its error lists targets from one of them back to it, and no other target twice.  Each
of them is the target of just one node among the files and the document at hand, and the descent
through that node meets a reference to the next one on the list, so the node has no expansion. -/
theorem reported_circle (store : Store) (call : Compiler.Call) (hctx : call.context.Arises store)
    (c : Compiler) (chain : List Target)
    (h : (c.run (call.compile store)).1 = .error (.reference (.cyclic chain))) :
    (∃ first between, chain = first :: between ++ [first] ∧ (first :: between).Nodup) ∧
    chain.IsChain (Target.LeadsTo store call.context) ∧
    (∀ t ∈ chain, ∃ r, (∀ q, t.Names store call.context q ↔ q = r) ∧
      ¬ ∃ s, Expands store r.context r.node s) ∧
    (ReferenceError.cyclic chain).detail =
      "cyclic $ref chain: " ++ " -> ".intercalate (chain.map Target.text) := by
  have hcircle := reporting_compile call c chain h
  refine ⟨hcircle.closed, hcircle.steps, fun t ht => ?_, rfl⟩
  obtain ⟨-, -, r, -, hr, -, -⟩ := hcircle.exists_next ht
  refine ⟨r, fun q => ⟨fun hq => hq.eq hctx hr, fun e => e ▸ hr⟩, ?_⟩
  exact hcircle.not_expands hctx ht hr

/-! ## A circle that is entered from outside -/

def lobby : Json := .object [("a", .object [("$ref", .string "left.json#/x")])]

/-- The reference leads to a place in the lobby first, and from there into the circle. -/
def lobbyCall : Compiler.Call :=
  .items (.ofDocument lobby "s") (.object [("items", .object [("$ref", .string "#/a")])])

theorem reported_circle_lobby :
    lobbyCall.context.Arises circle ∧
    ((Compiler.mk [(⟨none, "/b"⟩, .plain)]).run (lobbyCall.compile circle)).1 =
      .error (.reference (.cyclic leftRightLeft)) ∧
    leftRightLeft.IsChain (Target.LeadsTo circle lobbyCall.context) ∧
    ∀ t ∈ leftRightLeft, ∃ r, (∀ q, t.Names circle lobbyCall.context q ↔ q = r) ∧
      ¬ ∃ s, Expands circle r.context r.node s := by
  have hctx : lobbyCall.context.Arises circle := Or.inl ⟨lobby, "s", rfl⟩
  have hrun : ((Compiler.mk [(⟨none, "/b"⟩, .plain)]).run (lobbyCall.compile circle)).1 =
      .error (.reference (.cyclic leftRightLeft)) :=
    (map_eq_error_iff (f := fun _ => ())).1 (by decide +kernel)
  obtain ⟨-, hsteps, hnames, -⟩ := reported_circle circle lobbyCall hctx _ _ hrun
  exact ⟨hctx, hrun, hsteps, hnames⟩

end JsonRecords
