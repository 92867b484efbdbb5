import JsonRecords.Unicode.GeneralCategory
import JsonRecords.Unicode.Property

/-!
# Quoted names in messages

Messages show names and patterns in double quotes, in a form that can be read on one line and that
tells apart any two texts.  Quotes and backslashes have a backslash before them; line breaks, tabs
and the null character have short escapes; and every other character that would not show by itself,
such as a control character, a blank other than the plain one or a mark that would join the
character before it, is written by its code point.
-/

namespace JsonRecords.Quoted

def invisibleCategories : List Unicode.GeneralCategory :=
  [.control, .format, .privateUse, .unassigned, .lineSeparator, .paragraphSeparator,
   .spaceSeparator]

/-- Whether a character shows by itself. -/
def isVisible (c : Char) : Bool :=
  c == ' ' || !(Unicode.Property.graphemeExtend.contains c ||
    invisibleCategories.any (·.contains c))

def encodeChar (c : Char) : String :=
  match c with
  | '"' => "\\\""
  | '\\' => "\\\\"
  | '\n' => "\\n"
  | '\r' => "\\r"
  | '\t' => "\\t"
  | '\x00' => "\\0"
  | c => if isVisible c then String.singleton c else "\\u\x7b" ++ hexText c.toNat ++ "\x7d"

def encode (s : String) : String :=
  "\"" ++ String.join (s.toList.map encodeChar) ++ "\""

end JsonRecords.Quoted
