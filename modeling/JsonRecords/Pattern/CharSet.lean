import JsonRecords.Unicode.CaseFolding
import JsonRecords.Unicode.GeneralCategory
import JsonRecords.Unicode.Property
import JsonRecords.Unicode.Script

/-!
# The character sets of patterns

A character set is the predicate of its members.  This module has the sets that patterns name: the
classes `\d`, `\s` and `\w`, the bracketed classes such as `[:alpha:]`, and the sets asked for by a
Unicode property.  `CharSet.folded` adds to a set what differs from its members by case alone.

A pattern may leave Unicode, and then all of these sets hold ASCII characters only.
-/

namespace JsonRecords

abbrev CharSet := Char → Bool

namespace CharSet

def all : CharSet := fun _ => true

def none : CharSet := fun _ => false

def range (first last : Char) : CharSet := fun c => first ≤ c && c ≤ last

def union (s t : CharSet) : CharSet := fun c => s c || t c

def inter (s t : CharSet) : CharSet := fun c => s c && t c

def diff (s t : CharSet) : CharSet := fun c => s c && !t c

def symmDiff (s t : CharSet) : CharSet := fun c => s c != t c

def compl (s : CharSet) : CharSet := fun c => !s c

def isAscii : CharSet := fun c => c.toNat < 128

/-- All characters that differ from a member by case alone. -/
def folded (unicode : Bool) (s : CharSet) : CharSet :=
  fun c => (Unicode.caseVariants c).any fun d => s d && (unicode || isAscii d)

/-! ## Named classes -/

def inCategories (categories : List Unicode.GeneralCategory) : CharSet :=
  fun c => categories.any (·.contains c)

def digit (unicode : Bool) : CharSet :=
  if unicode then Unicode.GeneralCategory.decimalNumber.contains else range '0' '9'

def blank (unicode : Bool) : CharSet :=
  if unicode then Unicode.Property.whiteSpace.contains
  else fun c => c == ' ' || ('\x09' ≤ c && c ≤ '\x0d')

/-- The characters of words: letters, marks, decimal digits, connectors and joiners. -/
def word (unicode : Bool) : CharSet :=
  if unicode then
    fun c => Unicode.Property.alphabetic.contains c ||
      inCategories (.decimalNumber :: .connectorPunctuation :: Unicode.GeneralCategory.marks) c ||
      Unicode.Property.joinControl.contains c
  else fun c => c.isAlphanum || c == '_'

/-- The classes that are written between `[:` and `:]`; they hold ASCII characters only. -/
def asciiClass? : String → Option CharSet
  | "alnum" => some Char.isAlphanum
  | "alpha" => some Char.isAlpha
  | "ascii" => some isAscii
  | "blank" => some fun c => c == ' ' || c == '\t'
  | "cntrl" => some fun c => c < ' ' || c == '\x7f'
  | "digit" => some Char.isDigit
  | "graph" => some (range '!' '~')
  | "lower" => some Char.isLower
  | "print" => some (range ' ' '~')
  | "punct" => some fun c => range '!' '~' c && !c.isAlphanum
  | "space" => some (blank false)
  | "upper" => some Char.isUpper
  | "word" => some (word false)
  | "xdigit" => some fun c => c.isDigit || range 'a' 'f' c || range 'A' 'F' c
  | _ => Option.none

/-! ## Unicode properties -/

/-- Names are compared without case, blanks, hyphens and underscores, and without a leading `is`. -/
def looseName (name : String) : String :=
  let kept := (name.toList.filter fun c => c.toNat < 128 && !(c == ' ' || c == '_' || c == '-'))
  let low := kept.map Char.toLower
  match low with
  | ['i', 's', 'c'] => "isc"
  | 'i' :: 's' :: rest => String.ofList rest
  | _ => String.ofList low

def category? (name : String) : Option CharSet :=
  match name with
  | "any" => some all
  | "assigned" => some (compl Unicode.GeneralCategory.unassigned.contains)
  | "ascii" => some isAscii
  | _ => (Unicode.GeneralCategory.named.lookup name).map inCategories

def script? (name : String) : Option CharSet :=
  (Unicode.Script.named name).map fun script => script.members.contains

/-- The set of a name alone.  `sc`, `lc` and `cf` are categories although properties of other kinds
have the same short names. -/
def named? (name : String) : Option CharSet :=
  let name := looseName name
  ((Unicode.Property.named name).map (·.contains)).or ((category? name).or (script? name))

/-- The set of a property with a value. -/
def valued? (property value : String) : Option CharSet :=
  let value := looseName value
  match looseName property with
  | "gc" => category? value
  | "generalcategory" => category? value
  | "sc" => script? value
  | "script" => script? value
  | "scx" => (Unicode.Script.named value).map (·.extendedContains)
  | "scriptextensions" => (Unicode.Script.named value).map (·.extendedContains)
  | _ => Option.none

end CharSet

end JsonRecords
