import JsonRecords.Association
import JsonRecords.Number.Binary64

/-!
# JSON values

Objects keep their members in document order.  An integer that fits 64 bits, signed or unsigned, is
kept as an integer, and every other number is a binary64 number.

`Json.WellFormed` says that no object of a value, at any depth, has a key twice; the readers of this
library build no other values, since they collect members by `Association.insert`
(`wellFormed_of_loadDocument`).  `Json.same` is equality up to the order of the members of objects.
-/

namespace JsonRecords

inductive Number where
  | integer (value : Int)
  | float (value : Binary64)
  deriving DecidableEq, Repr

inductive Json where
  | null
  | bool (value : Bool)
  | number (value : Number)
  | string (value : String)
  | array (items : List Json)
  | object (members : List (String × Json))
  deriving Repr, Inhabited

/-- The kinds of JSON values. -/
inductive Kind where
  | null | boolean | number | string | array | object
  deriving DecidableEq, Repr

def Kind.name : Kind → String
  | .null => "null"
  | .boolean => "boolean"
  | .number => "number"
  | .string => "string"
  | .array => "array"
  | .object => "object"

namespace Json

def kind : Json → Kind
  | null => .null
  | bool _ => .boolean
  | number _ => .number
  | string _ => .string
  | array _ => .array
  | object _ => .object

/-! ## Members of objects -/

/-- The members of an object; no other value has any. -/
def members : Json → List (String × Json)
  | object ms => ms
  | _ => []

def isObject : Json → Bool
  | object _ => true
  | _ => false

/-- The value of a key of an object. -/
def get? (v : Json) (key : String) : Option Json :=
  v.members.lookup key

/-- The members listed with their keys once each: first position, last value. -/
def ofMembers (ms : List (String × Json)) : Json :=
  object (ms.foldl (fun acc m => Association.insert acc m.1 m.2) [])

theorem ofMembers_of_nodup {ms : List (String × Json)} (h : (Association.keys ms).Nodup) :
    ofMembers ms = object ms :=
  congrArg object (Association.foldl_insert_nil h)

/-- Members are collected from the list, under distinct keys. -/
theorem exists_ofMembers (ms : List (String × Json)) :
    ∃ ns, ofMembers ms = object ns ∧ (Association.keys ns).Nodup ∧ ∀ n ∈ ns, n ∈ ms := by
  -- An insertion keeps both, whatever has been collected before.
  have hfold : ∀ acc : List (String × Json), (Association.keys acc).Nodup →
      (Association.keys (ms.foldl (fun acc m => Association.insert acc m.1 m.2) acc)).Nodup ∧
        ∀ n ∈ ms.foldl (fun acc m => Association.insert acc m.1 m.2) acc, n ∈ acc ∨ n ∈ ms := by
    induction ms with
    | nil => exact fun acc hkeys => ⟨hkeys, fun n hn => Or.inl hn⟩
    | cons m rest ih =>
      intro acc hkeys
      obtain ⟨hnodup, hmem⟩ := ih _ (Association.nodup_keys_insert hkeys)
      refine ⟨hnodup, fun n hn => ?_⟩
      rcases hmem n hn with hn | hn
      · rcases Association.mem_insert hn with hn | rfl
        · exact Or.inl hn
        · exact Or.inr List.mem_cons_self
      · exact Or.inr (List.mem_cons_of_mem _ hn)
  obtain ⟨hnodup, hmem⟩ := hfold [] List.nodup_nil
  exact ⟨_, rfl, hnodup, fun n hn => (hmem n hn).resolve_left (by simp)⟩

theorem sizeOf_lt_of_mem_members {v : Json} {m : String × Json} (h : m ∈ v.members) :
    sizeOf m.2 < sizeOf v := by
  cases v with
  | object ms =>
    have := List.sizeOf_lt_of_mem (show m ∈ ms from h)
    cases m
    simp only [Prod.mk.sizeOf_spec, object.sizeOf_spec] at *
    omega
  | _ => simp [members] at h

theorem sizeOf_lt_of_get?_eq_some {v w : Json} {key : String} (h : v.get? key = some w) :
    sizeOf w < sizeOf v :=
  sizeOf_lt_of_mem_members (Association.mem_of_lookup_eq_some h)

/-! ## Values without repeated keys -/

inductive WellFormed : Json → Prop where
  | null : WellFormed null
  | bool (b : Bool) : WellFormed (bool b)
  | number (n : Number) : WellFormed (number n)
  | string (s : String) : WellFormed (string s)
  | array {items : List Json} (each : ∀ v ∈ items, WellFormed v) : WellFormed (array items)
  | object {ms : List (String × Json)} (distinct : (ms.map Prod.fst).Nodup)
      (each : ∀ m ∈ ms, WellFormed m.2) : WellFormed (object ms)

/-! ## Equality up to the order of members -/

end Json

/-- Integers and binary64 numbers are never the same. -/
def Number.same : Number → Number → Bool
  | .integer m, .integer n => m == n
  | .float x, .float y => x.sameValue y
  | _, _ => false

namespace Json

mutual

def same : Json → Json → Bool
  | null, null => true
  | bool a, bool b => a == b
  | number m, number n => m.same n
  | string s, string t => s == t
  | array xs, array ys => sameItems xs ys
  | object ms, object ns => ms.length == ns.length && sameMembers ms ns
  | _, _ => false

def sameItems : List Json → List Json → Bool
  | [], [] => true
  | x :: xs, y :: ys => same x y && sameItems xs ys
  | _, _ => false

/-- Every member on the left has the same value on the right. -/
def sameMembers : List (String × Json) → List (String × Json) → Bool
  | [], _ => true
  | (key, v) :: rest, ns =>
    (match ns.lookup key with
      | some w => same v w
      | none => false) && sameMembers rest ns

end

end Json

end JsonRecords
