import JsonRecords.Pattern.CharSet

/-!
# Regular expressions and what they match

An expression is built from character sets and conditions on the place between two characters.  A
text of `n` characters has `n + 1` such gaps, and a set of gaps is a list of `n + 1` truth values.
`Expression.ends` sends the gaps where a match may begin to the gaps where it may end, so the
meaning of a compound expression is composed from the meanings of its parts: a sequence is the
composition, a choice the union, and a repetition the closure, which `n + 1` rounds reach because
every round but the last adds a gap.

`Expression.occursIn` asks for a match anywhere in the text.
-/

namespace JsonRecords

/-- A condition on a gap by the characters before and after it. -/
abbrev GapCondition := Option Char → Option Char → Bool

namespace GapCondition

def textStart : GapCondition := fun before _ => before.isNone

def textEnd : GapCondition := fun _ after => after.isNone

def lineStart : GapCondition := fun before _ => before.isNone || before == some '\n'

def lineEnd : GapCondition := fun _ after => after.isNone || after == some '\n'

/-- The start of a line where lines may also end with a carriage return, alone or before a feed. -/
def mixedLineStart : GapCondition := fun before after =>
  before.isNone || before == some '\n' || (before == some '\r' && after != some '\n')

def mixedLineEnd : GapCondition := fun before after =>
  after.isNone || after == some '\r' || (after == some '\n' && before != some '\r')

def isWord (unicode : Bool) (side : Option Char) : Bool :=
  side.any (CharSet.word unicode)

def wordBoundary (unicode : Bool) : GapCondition := fun before after =>
  isWord unicode before != isWord unicode after

def insideOrOutsideWord (unicode : Bool) : GapCondition := fun before after =>
  isWord unicode before == isWord unicode after

def wordStart (unicode : Bool) : GapCondition := fun before after =>
  !isWord unicode before && isWord unicode after

def wordEnd (unicode : Bool) : GapCondition := fun before after =>
  isWord unicode before && !isWord unicode after

def noWordBefore (unicode : Bool) : GapCondition := fun before _ => !isWord unicode before

def noWordAfter (unicode : Bool) : GapCondition := fun _ after => !isWord unicode after

end GapCondition

inductive Expression where
  | empty
  | one (set : CharSet)
  | gap (holds : GapCondition)
  | seq (first second : Expression)
  | either (first second : Expression)
  /-- At least `least` and at most `most` times in a row, if a most is given. -/
  | repeated (body : Expression) (least : Nat) (most : Option Nat)

/-! ## Sets of gaps -/

abbrev Gaps := List Bool

namespace Gaps

def union (g h : Gaps) : Gaps := List.zipWith (· || ·) g h

/-- The gaps after one character of the set. -/
def step (set : CharSet) (text : List Char) (g : Gaps) : Gaps :=
  false :: List.zipWith (fun here c => here && set c) g text

/-- The characters on both sides of every gap. -/
def sides (text : List Char) : List (Option Char × Option Char) :=
  List.zip (none :: text.map some) (text.map some ++ [none])

def restrict (holds : GapCondition) (text : List Char) (g : Gaps) : Gaps :=
  List.zipWith (fun here (before, after) => here && holds before after) g (sides text)

/-- `n` rounds, each adding what a further repetition reaches; it stops when one adds nothing. -/
def grow (f : Gaps → Gaps) : Nat → Gaps → Gaps
  | 0, g => g
  | n + 1, g =>
    let next := union g (f g)
    if next = g then g else grow f n next

/-- `n` repetitions; no gap at all stays none. -/
def times (f : Gaps → Gaps) : Nat → Gaps → Gaps
  | 0, g => g
  | n + 1, g => if g.any id then times f n (f g) else g

end Gaps

namespace Expression

def ends (text : List Char) : Expression → Gaps → Gaps
  | empty, g => g
  | one set, g => g.step set text
  | gap holds, g => g.restrict holds text
  | seq first second, g => ends text second (ends text first g)
  | either first second, g => (ends text first g).union (ends text second g)
  | repeated body least most, g =>
    let rounds := match most with
      | some most => most - least
      | none => text.length + 1
    Gaps.grow (ends text body) rounds (Gaps.times (ends text body) least g)

/-- Whether some part of the text, possibly an empty one, is a match. -/
def occursIn (e : Expression) (text : String) : Bool :=
  let cs := text.toList
  (e.ends cs (List.replicate (cs.length + 1) true)).any id

end Expression

end JsonRecords
