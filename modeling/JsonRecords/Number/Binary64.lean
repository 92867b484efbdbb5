/-!
# Finite binary64 numbers

A finite number of the binary64 format is a sign and the position of its magnitude in the increasing
list of all finite magnitudes.  That position is what the format stores below the sign bit, so every
value of the type is a number of the format and has exactly one form.

Magnitudes are measured in units of `2 ^ -1074`, the least positive one: position `code` stands for
`significand code * 2 ^ scale code` units.  `ofRatio` rounds an exact quotient to the nearest
number, a tie going to the even significand, and `mul` and `div` round the exact result of the
operation.

Powers of two are written as shifts and in hexadecimal: the significand of a number at its full
length has the bit `0x10000000000000`, which is `2 ^ 52`, and the position `0x7FF0000000000000` is
that of infinity.
-/

namespace JsonRecords

structure Binary64 where
  negative : Bool
  code : Nat
  finite : code < 0x7FF0000000000000
  deriving DecidableEq, Repr

namespace Binary64

def zero (negative : Bool) : Binary64 := ⟨negative, 0, by decide⟩

def isZero (x : Binary64) : Bool := x.code == 0

/-! ## Magnitudes -/

def significand (x : Binary64) : Nat :=
  if x.code < 0x10000000000000 then x.code else 0x10000000000000 + x.code % 0x10000000000000

def scale (x : Binary64) : Nat :=
  (x.code >>> 52) - 1

/-- The magnitude in units of `2 ^ -1074`. -/
def units (x : Binary64) : Nat :=
  x.significand <<< x.scale

/-- Equality of the numbers themselves, for which the two zeros are one. -/
def sameValue (x y : Binary64) : Bool :=
  (x.isZero && y.isZero) || (x.negative == y.negative && x.code == y.code)

/-- The sixty-four bits that store the number. -/
def toBits (x : Binary64) : Nat :=
  (if x.negative then 0x8000000000000000 else 0) + x.code

/-! ## Rounding -/

/-- The integer nearest to a quotient, the even one of two that are equally near. -/
def roundDiv (num den : Nat) : Nat :=
  let quotient := num / den
  let double := 2 * (num % den)
  if double > den ∨ (double = den ∧ quotient % 2 = 1) then quotient + 1 else quotient

/-- The position of the magnitude nearest to `num / den`, which may lie beyond the finite ones.  A
significand that rounds up to `2 ^ 53` moves on to the next scale by itself. -/
def nearestCode (num den : Nat) : Nat :=
  let scaled := num <<< 1074
  let scale := (scaled / den).log2 - 52
  (scale <<< 52) + roundDiv scaled (den <<< scale)

def ofRatio (negative : Bool) (num den : Nat) : Option Binary64 :=
  if finite : nearestCode num den < 0x7FF0000000000000 then
    some ⟨negative, nearestCode num den, finite⟩
  else
    none

/-! ## Operations -/

def ofNat (n : Nat) : Option Binary64 :=
  ofRatio false n 1

def neg (x : Binary64) : Binary64 :=
  { x with negative := !x.negative }

def mul (x y : Binary64) : Option Binary64 :=
  ofRatio (x.negative != y.negative) (x.units * y.units) (1 <<< 2148)

def div (x y : Binary64) : Option Binary64 :=
  ofRatio (x.negative != y.negative) x.units y.units

/-- The number nearest to `digits * 10 ^ exponent`, if it is finite.  Exponents far outside the
range of the format are decided by their size alone. -/
def ofDecimal (negative : Bool) (digits : Nat) (exponent : Int) : Option Binary64 :=
  let size : Int := exponent + (toString digits).length
  if digits = 0 ∨ size < -400 then some (zero negative)
  else if size > 400 then none
  else if 0 ≤ exponent then ofRatio negative (digits * Nat.pow 10 exponent.toNat) 1
  else ofRatio negative digits (Nat.pow 10 (-exponent).toNat)

end Binary64

end JsonRecords
