import JsonRecords.Text.Hexadecimal

/-!
# Sets of characters as runs of code points

The tables of the character database are kept as lists of runs.  A run goes from a first to a last
code point in steps of one or two; the step of two serves the alphabets whose capital and small
letters alternate.  `CodeRanges.ofText` reads the written form of such a table, which is a list of
hexadecimal runs set apart by blanks: `41-5A` for a run, `100-12E/2` for one with a stride, and `AA`
for a single point.
-/

namespace JsonRecords.Unicode

structure CodeRun where
  first : Nat
  last : Nat
  stride : Nat
  deriving DecidableEq, Repr

def CodeRun.contains (run : CodeRun) (point : Nat) : Bool :=
  run.first ≤ point && point ≤ run.last && (point - run.first) % run.stride == 0

structure CodeRanges where
  runs : List CodeRun
  deriving DecidableEq, Repr

/-! ## Reading a table -/

def CodeRun.ofText (text : String) : CodeRun :=
  let (span, stride) := match text.splitOn "/" with
    | [span, stride] => (span, hexNumber stride.toList)
    | _ => (text, 1)
  match span.splitOn "-" with
  | [first, last] => ⟨hexNumber first.toList, hexNumber last.toList, stride⟩
  | _ => ⟨hexNumber span.toList, hexNumber span.toList, stride⟩

namespace CodeRanges

def empty : CodeRanges := ⟨[]⟩

def ofText (text : String) : CodeRanges :=
  ⟨((text.splitToList Char.isWhitespace).filter (· ≠ "")).map CodeRun.ofText⟩

def contains (ranges : CodeRanges) (c : Char) : Bool :=
  ranges.runs.any (·.contains c.toNat)

@[simp] theorem contains_empty (c : Char) : empty.contains c = false := rfl

end CodeRanges

end JsonRecords.Unicode
