/-!
# Hexadecimal numbers
-/

namespace JsonRecords

def hexDigit? (c : Char) : Option Nat :=
  if '0' ≤ c ∧ c ≤ '9' then some (c.toNat - 48)
  else if 'A' ≤ c ∧ c ≤ 'F' then some (c.toNat - 55)
  else if 'a' ≤ c ∧ c ≤ 'f' then some (c.toNat - 87)
  else none

/-- The number written by hexadecimal digits; other characters are passed over. -/
def hexNumber (digits : List Char) : Nat :=
  digits.foldl (fun n c => ((hexDigit? c).map (16 * n + ·)).getD n) 0

/-- Lower-case hexadecimal digits without leading zeros. -/
def hexText (n : Nat) : String :=
  String.ofList (Nat.toDigits 16 n)

/-- At least `width` lower-case hexadecimal digits. -/
def hexTextPadded (width : Nat) (n : Nat) : String :=
  let digits := Nat.toDigits 16 n
  String.ofList (List.replicate (width - digits.length) '0' ++ digits)

end JsonRecords
