import JsonRecords.Number.Binary64
import JsonRecords.Text.Hexadecimal

/-!
# Numbers in YAML

An integer has an optional sign and decimal, hexadecimal, octal or binary digits; decimal digits
that begin with a needless zero are not an integer.  A float is a decimal number with an optional
fraction and exponent, an infinity or not a number.
-/

namespace JsonRecords.Yaml

/-! ## Digits -/

def digit? (base : Nat) (c : Char) : Option Nat :=
  (hexDigit? c).bind fun d => if d < base then some d else none

/-- The number written by one or more digits and nothing else. -/
def natural? (base : Nat) (cs : List Char) : Option Nat :=
  if cs.isEmpty then none
  else (cs.mapM (digit? base)).map fun ds => ds.foldl (fun n d => base * n + d) 0

def dropSign : List Char → List Char
  | '+' :: cs => cs
  | '-' :: cs => cs
  | cs => cs

/-- Digits with a needless zero before them. -/
def isZeroPadded (cs : List Char) : Bool :=
  match dropSign cs with
  | '0' :: c :: cs => (c :: cs).all Char.isDigit
  | _ => false

/-! ## Integers -/

def magnitude? : List Char → Option Nat
  | '0' :: 'x' :: cs => natural? 16 cs
  | '0' :: 'o' :: cs => natural? 8 cs
  | '0' :: 'b' :: cs => natural? 2 cs
  | cs => if isZeroPadded cs then none else natural? 10 cs

def integer? : List Char → Option Int
  | '-' :: cs => (magnitude? cs).map fun n => -(n : Int)
  | '+' :: cs => (magnitude? cs).map Int.ofNat
  | cs => (magnitude? cs).map Int.ofNat

/-! ## Floats -/

inductive Float where
  | finite (value : Binary64)
  /-- An infinity, or not a number. -/
  | special
  deriving DecidableEq, Repr

/-- What follows the digits of a decimal number: nothing, or an exponent. -/
def exponent? : List Char → Option Int
  | [] => some 0
  | c :: cs =>
    if c == 'e' || c == 'E' then
      let n := (natural? 10 (dropSign cs)).map Int.ofNat
      if cs.head? = some '-' then n.map (- ·) else n
    else none

/-- An unsigned decimal number as digits and the power of ten they are multiplied by. -/
def decimal? (cs : List Char) : Option (Nat × Int) := do
  let whole := cs.takeWhile Char.isDigit
  let rest := cs.dropWhile Char.isDigit
  let (places, rest) := match rest with
    | '.' :: rest => (rest.takeWhile Char.isDigit, rest.dropWhile Char.isDigit)
    | _ => ([], rest)
  let digits ← natural? 10 (whole ++ places)
  return (digits, (← exponent? rest) - places.length)

/-- Infinity may have a sign, and `nan` has none.  A decimal number counts only if the binary64
number nearest to it is finite. -/
def float? (cs : List Char) : Option Float :=
  let infinity := [".inf", ".Inf", ".INF"].contains (String.ofList (dropSign cs))
  if infinity || [".nan", ".NaN", ".NAN"].contains (String.ofList cs) then some .special
  else do
    let (digits, exponent) ← decimal? (dropSign cs)
    return .finite (← Binary64.ofDecimal (cs.head? = some '-') digits exponent)

end JsonRecords.Yaml
