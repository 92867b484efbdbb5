import JsonRecords.Text.Hexadecimal
import JsonRecords.Number.Shortest
import JsonRecords.Json.Value

/-!
# Printing JSON

`Json.compact` writes a value on one line without blanks, `Json.pretty` with one item or member a
line and two blanks a level.  Members keep their order.  A binary64 number has the fewest digits
that read back as it: with a point when its leading digit stands between the fifth place after the
point and the sixteenth before it, else with an exponent that always has a sign.
-/

namespace JsonRecords.Json

/-! ## Numbers -/

def zeros (n : Nat) : String :=
  String.ofList (List.replicate n '0')

/-- The digits of a decimal set out with a point or an exponent. -/
def decimalText (d : Decimal) : String :=
  let digits := toString d.digits
  let count := digits.length
  -- The number of digits before the point.
  let point : Int := d.exponent + count
  if 0 ≤ d.exponent ∧ point ≤ 16 then
    digits ++ zeros d.exponent.toNat ++ ".0"
  else if 0 < point ∧ point ≤ 16 then
    let front := digits.toList.take point.toNat
    String.ofList front ++ "." ++ String.ofList (digits.toList.drop point.toNat)
  else if -5 < point ∧ point ≤ 0 then
    "0." ++ zeros (-point).toNat ++ digits
  else
    let fraction := String.ofList (digits.toList.drop 1)
    let exponent := point - 1
    String.ofList (digits.toList.take 1) ++ (if fraction = "" then "" else "." ++ fraction) ++
      (if exponent < 0 then "e-" else "e+") ++ toString exponent.natAbs

def floatText (x : Binary64) : String :=
  (if x.negative then "-" else "") ++ (if x.isZero then "0.0" else decimalText x.shortest)

def numberText : Number → String
  | .integer n => if n < 0 then "-" ++ toString n.natAbs else toString n.natAbs
  | .float x => floatText x

/-! ## Strings -/

def escapeChar (c : Char) : List Char :=
  match c with
  | '"' => ['\\', '"']
  | '\\' => ['\\', '\\']
  | '\x08' => ['\\', 'b']
  | '\x0c' => ['\\', 'f']
  | '\n' => ['\\', 'n']
  | '\r' => ['\\', 'r']
  | '\t' => ['\\', 't']
  | c =>
    if c.toNat < 0x20 then
      '\\' :: 'u' :: (hexTextPadded 4 c.toNat).toList
    else [c]

def stringText (s : String) : String :=
  "\"" ++ String.ofList (s.toList.flatMap escapeChar) ++ "\""

/-! ## Values -/

mutual

def compact : Json → String
  | null => "null"
  | bool true => "true"
  | bool false => "false"
  | number n => numberText n
  | string s => stringText s
  | array xs => "[" ++ ",".intercalate (compactItems xs) ++ "]"
  | object ms => "\x7b" ++ ",".intercalate (compactMembers ms) ++ "\x7d"

def compactItems : List Json → List String
  | [] => []
  | x :: xs => compact x :: compactItems xs

def compactMembers : List (String × Json) → List String
  | [] => []
  | (key, v) :: rest => (stringText key ++ ":" ++ compact v) :: compactMembers rest

end

def newline (level : Nat) : String :=
  "\n" ++ String.ofList (List.replicate (2 * level) ' ')

/-- Entries one a line between brackets, or the bare brackets. -/
def block (level : Nat) (opening closing : String) (entries : List String) : String :=
  if entries.isEmpty then opening ++ closing
  else
    opening ++ newline (level + 1) ++ ("," ++ newline (level + 1)).intercalate entries ++
      newline level ++ closing

mutual

def prettyAt (level : Nat) : Json → String
  | array xs => block level "[" "]" (prettyItems (level + 1) xs)
  | object ms => block level "\x7b" "\x7d" (prettyMembers (level + 1) ms)
  | v => compact v

def prettyItems (level : Nat) : List Json → List String
  | [] => []
  | x :: xs => prettyAt level x :: prettyItems level xs

def prettyMembers (level : Nat) : List (String × Json) → List String
  | [] => []
  | (key, v) :: rest => (stringText key ++ ": " ++ prettyAt level v) :: prettyMembers level rest

end

def pretty (v : Json) : String :=
  prettyAt 0 v

end JsonRecords.Json
