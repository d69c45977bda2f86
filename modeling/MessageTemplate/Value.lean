import MessageTemplate.Fields
import MessageTemplate.Text.Blank
import MessageTemplate.Binary.Decimal
import MessageTemplate.Binary.Shortest

/-!
# Values

The values that a template is filled with.  Scalars are shown and select
branches; attribute fields decorate anchors.  Every value has a text, and some
have a number.
-/

namespace MessageTemplate

/-- A value of a parameter. -/
inductive Value where
  | bool (b : Bool)
  | integer (n : Int64)
  | float (x : Binary64)
  | text (s : String)
  | attributes (fields : List (String × Value))
  deriving Inhabited

namespace Value

mutual

/-- The text that a value is shown as. -/
def display : Value → String
  | bool b => if b then "true" else "false"
  | integer n => n.toInt.repr
  | float x => x.text
  | text s => s
  | attributes fields => "\x7b" ++ displayFields fields ++ "\x7d"

/-- The entries of attribute fields, separated by commas. -/
def displayFields : List (String × Value) → String
  | [] => ""
  | [entry] => displayEntry entry
  | entry :: rest => displayEntry entry ++ ", " ++ displayFields rest

/-- A key and the text of its value. -/
def displayEntry : String × Value → String
  | (key, value) => key ++ ": " ++ display value

end

/-- The number that a text spells once the white space around it is dropped. -/
def numberOfText? (s : String) : Option Binary64 :=
  Binary.read? binary64 (Text.trim s.toList)

/-- The number of a numeric value.  A text is numeric when it spells a number. -/
def toNumber? : Value → Option Binary64
  | integer n => some (.ofInt binary64 n.toInt)
  | float x => some x
  | text s => numberOfText? s
  | bool _ | attributes _ => none

/-- The text of a text value. -/
def asText? : Value → Option String
  | text s => some s
  | _ => none

/-- The entries of attribute fields. -/
def asFields? : Value → Option (Fields Value)
  | attributes fields => some fields
  | _ => none

/-- Attribute fields of pairs, ordered by key. -/
def ofPairs (pairs : List (String × Value)) : Value :=
  attributes (Fields.ofPairs pairs)

/-- The value of a single precision number, which is widened. -/
def ofSingle (x : Binary binary32) : Value :=
  float (x.convert binary64)

/-- The value of an unsigned integer.  One that needs all 64 bits is read as a
negative number. -/
def ofUnsigned (n : UInt64) : Value :=
  integer n.toInt64

end Value

end MessageTemplate
