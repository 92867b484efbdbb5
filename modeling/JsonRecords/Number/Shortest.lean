import JsonRecords.Number.Binary64

/-!
# The shortest decimal of a binary64 number

Every real between the midpoints to the two neighbours of a number rounds to it, the midpoints
themselves exactly when its significand is even.  `shortest` is the decimal with the fewest digits
in that interval; of several with the same number of digits it is the nearest to the number, and of
two equally near ones the one with an even last digit.

Decimals of a fixed exponent form a grid, and if the interval holds a point of a grid it holds one
of the two neighbours of the number on it.  So it is enough to try those two on finer and finer
grids.
-/

namespace JsonRecords

/-- The decimal `digits * 10 ^ exponent`. -/
structure Decimal where
  digits : Nat
  exponent : Int
  deriving DecidableEq, Repr

namespace Binary64

/-- The interval of reals that round to a number, in quarters of the unit. -/
structure Interval where
  lower : Nat
  value : Nat
  upper : Nat
  closed : Bool

def interval (x : Binary64) : Interval :=
  let quarter := 1 <<< x.scale
  let below := if x.significand = 0x10000000000000 ∧ 0 < x.scale then 1 else 2
  { lower := (4 * x.significand - below) * quarter
    value := 4 * x.significand * quarter
    upper := (4 * x.significand + 2) * quarter
    closed := x.significand % 2 == 0 }

def Interval.contains (range : Interval) (num den : Nat) : Bool :=
  if range.closed then range.lower * den ≤ num && num ≤ range.upper * den
  else range.lower * den < num && num < range.upper * den

/-- The neighbours of a number on the grid `10 ^ exponent` that round to it, nearest first. -/
def onGrid? (x : Binary64) (exponent : Int) : Option Decimal :=
  let range := x.interval
  let step := Nat.pow 10 exponent.toNat <<< 1076
  let den := Nat.pow 10 (-exponent).toNat
  let lower := range.value * den / step
  let fits (digits : Nat) : Bool := range.contains (digits * step) den
  let gapBelow := range.value * den - lower * step
  let gapAbove := (lower + 1) * step - range.value * den
  let upperIsNearer := gapAbove < gapBelow ∨ (gapAbove = gapBelow ∧ lower % 2 = 1)
  if fits (lower + 1) ∧ (upperIsNearer ∨ ¬fits lower) then some ⟨lower + 1, exponent⟩
  else if fits lower then some ⟨lower, exponent⟩
  else none

/-- The exponent of the leading decimal digit of a positive number. -/
def leadingExponent (x : Binary64) : Int :=
  (toString ((x.units * Nat.pow 10 400) >>> 1074)).length - 401

end Binary64

/-- The same decimal without trailing zeros. -/
def Decimal.normalize (d : Decimal) : Decimal :=
  let zeros := ((toString d.digits).toList.reverse.takeWhile (· == '0')).length
  ⟨d.digits / Nat.pow 10 zeros, d.exponent + zeros⟩

/-- Seventeen digits always suffice. -/
def Binary64.shortest (x : Binary64) : Decimal :=
  if x.isZero then ⟨0, 0⟩
  else
    let leading := x.leadingExponent
    let found := (List.range 17).findSome? fun (i : Nat) => x.onGrid? (leading - i)
    (found.getD ⟨x.units * Nat.pow 5 1074, -1074⟩).normalize

end JsonRecords
