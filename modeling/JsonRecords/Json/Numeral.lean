import JsonRecords.Json.Value

/-!
# The numbers of a JSON text

`readNumber` reads a number from the front of a text.  A plain run of digits that fits 64 bits is an
integer; the integer `-0` and every number with a fraction, an exponent or too many digits is a
binary64 number.

The latter is found in two steps.  As many leading digits as fit 64 bits form a significand, each
digit beyond them moving the decimal point only; then the significand, rounded to binary64, is
multiplied or divided by a rounded power of ten.  So a number with many digits may differ in its
last bit from the nearest one.
-/

namespace JsonRecords.Json

inductive ReadError where
  /-- The text ends inside a value. -/
  | unexpectedEnd
  | malformed
  deriving DecidableEq, Repr

def ReadError.message : ReadError → String
  | .unexpectedEnd => "<json eof>"
  | .malformed => "<json syntax>"

/-- What is wrong with a text that goes on with `rest` where something else has to stand. -/
def ReadError.missing (rest : List Char) : ReadError :=
  if rest.isEmpty then .unexpectedEnd else .malformed

/-! ## Digits -/

def digitValue (c : Char) : Nat := c.toNat - 48

/-- Appends digits to a significand up to the first that would make it exceed 64 bits; the second
part counts the digits appended. -/
def absorb (significand : Nat) : List Char → Nat × Nat
  | [] => (significand, 0)
  | d :: ds =>
    let next := 10 * significand + digitValue d
    if next < 0x10000000000000000 then
      let (total, count) := absorb next ds
      (total, count + 1)
    else (significand, 0)

def digitsValue (ds : List Char) : Nat :=
  ds.foldl (fun n d => 10 * n + digitValue d) 0

/-! ## Scaling by powers of ten -/

def powerOfTen (k : Nat) : Option Binary64 :=
  Binary64.ofDecimal false 1 k

def divideOnce (x : Binary64) (k : Nat) : Option Binary64 :=
  (powerOfTen k).bind x.div

/-- Division by `10 ^ k`, in steps of at most `10 ^ 308`. -/
def divideByPower (x : Binary64) (k : Nat) : Option Binary64 :=
  if k ≤ 308 then divideOnce x k
  else if x.isZero then some x
  else (divideOnce x 308).bind (divideByPower · (k - 308))
termination_by k
decreasing_by omega

def scaleByPower (x : Binary64) (exponent : Int) : Option Binary64 :=
  if exponent < 0 then divideByPower x exponent.natAbs
  else if exponent ≤ 308 then do x.mul (← powerOfTen exponent.natAbs)
  else if x.isZero then some x
  else none

def floatOfParts (negative : Bool) (significand : Nat) (exponent : Int) :
    Except ReadError Number :=
  match (Binary64.ofNat significand).bind (scaleByPower · exponent) with
  | some x => .ok (.float { x with negative := negative })
  | none => .error .malformed

/-! ## Fraction and exponent -/

/-- The fraction after a point: the significand and the exponent with its digits taken in. -/
def readFraction (significand : Nat) (exponent : Int) (cs : List Char) :
    Except ReadError ((Nat × Int) × List Char) :=
  let ds := cs.takeWhile Char.isDigit
  let rest := cs.dropWhile Char.isDigit
  if ds.isEmpty then .error (.missing rest)
  else
    let (total, count) := absorb significand ds
    .ok ((total, exponent - count), rest)

/-- Exponents are held to the range of 32-bit integers. -/
def clampExponent (e : Int) : Int :=
  max (-0x80000000) (min 0x7FFFFFFF e)

/-- The exponent after `e`. -/
def readExponent (negative : Bool) (significand : Nat) (exponent : Int) (cs : List Char) :
    Except ReadError (Number × List Char) :=
  let (down, cs) := match cs with
    | '+' :: rest => (false, rest)
    | '-' :: rest => (true, rest)
    | _ => (false, cs)
  let ds := cs.takeWhile Char.isDigit
  let rest := cs.dropWhile Char.isDigit
  let written := digitsValue ds
  if ds.isEmpty then .error (.missing rest)
  else if written < 0x80000000 then do
    let total := clampExponent (if down then exponent - written else exponent + written)
    return (← floatOfParts negative significand total, rest)
  else if significand ≠ 0 ∧ ¬down then .error .malformed
  else .ok (.float (.zero negative), rest)

/-- A significand with nothing after it, or with an exponent. -/
def readScaled (negative : Bool) (significand : Nat) (exponent : Int) (cs : List Char) :
    Except ReadError (Number × List Char) :=
  match cs with
  | 'e' :: rest => readExponent negative significand exponent rest
  | 'E' :: rest => readExponent negative significand exponent rest
  | _ => do return (← floatOfParts negative significand exponent, cs)

/-! ## The whole number -/

def ofMagnitude (negative : Bool) (n : Nat) : Except ReadError Number :=
  if ¬negative then .ok (.integer n)
  else if n ≠ 0 ∧ n ≤ 0x8000000000000000 then .ok (.integer (-n))
  else floatOfParts true n 0

/-- Reads a number without its sign. -/
def readMagnitude (negative : Bool) (cs : List Char) : Except ReadError (Number × List Char) :=
  let ds := cs.takeWhile Char.isDigit
  let rest := cs.dropWhile Char.isDigit
  match ds with
  | [] => .error (.missing rest)
  | '0' :: _ :: _ => .error .malformed
  | _ =>
    let (significand, count) := absorb 0 ds
    let dropped : Nat := ds.length - count
    match rest with
    | '.' :: rest => do
      let ((significand, exponent), rest) ← readFraction significand dropped rest
      readScaled negative significand exponent rest
    | 'e' :: _ => readScaled negative significand dropped rest
    | 'E' :: _ => readScaled negative significand dropped rest
    | _ =>
      if dropped = 0 then do return (← ofMagnitude negative significand, rest)
      else readScaled negative significand dropped rest

def readNumber : List Char → Except ReadError (Number × List Char)
  | '-' :: rest => readMagnitude true rest
  | cs => readMagnitude false cs

end JsonRecords.Json
