import JsonRecords.Pattern.Grammar

/-!
# Patterns

A pattern is a text together with the expression it denotes.  The text decides the expression, so
two patterns are equal as soon as they are written alike.
-/

namespace JsonRecords

structure Pattern where
  text : String
  expression : Expression
  denotes : Pattern.parse? text = some expression

namespace Pattern

def ofText? (text : String) : Option Pattern :=
  match h : parse? text with
  | some expression => some ⟨text, expression, h⟩
  | none => none

/-- Whether the pattern is found anywhere in a key. -/
def accepts (p : Pattern) (key : String) : Bool :=
  p.expression.occursIn key

theorem eq_of_text_eq {p q : Pattern} (h : p.text = q.text) : p = q := by
  obtain ⟨text, e, hp⟩ := p
  obtain ⟨text', e', hq⟩ := q
  subst h
  have : e = e' := Option.some.inj (hp.symm.trans hq)
  subst this
  rfl

theorem text_of_ofText?_eq_some {text : String} {p : Pattern} (h : ofText? text = some p) :
    p.text = text := by
  unfold ofText? at h
  split at h
  · cases h
    rfl
  · cases h

instance : DecidableEq Pattern := fun p q =>
  if h : p.text = q.text then isTrue (eq_of_text_eq h) else isFalse fun e => h (e ▸ rfl)

end Pattern

end JsonRecords
