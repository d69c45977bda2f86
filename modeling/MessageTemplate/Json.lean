import MessageTemplate.Binary.Basic

/-!
# JSON values and their text

JSON values with the members of an object in the order in which they are
written.  Two layouts are printed: a compact one without blanks and an indented
one, where an empty list or object stays on its line.
-/

namespace MessageTemplate

/-- A JSON value.  A number that is written as a whole number is kept exactly. -/
inductive Json where
  | null
  | bool (b : Bool)
  | integer (n : Int)
  | float (x : Binary64)
  | string (s : String)
  | array (items : List Json)
  | object (members : List (String × Json))
  deriving Inhabited

namespace Json

/-! ## Strings -/

/-- The character that stands for a control character after a backslash, where
there is a short one. -/
def shortEscape? (c : Char) : Option Char :=
  if c = '"' then some '"'
  else if c = '\\' then some '\\'
  else if c = '\x08' then some 'b'
  else if c = '\x0c' then some 'f'
  else if c = '\n' then some 'n'
  else if c = '\r' then some 'r'
  else if c = '\t' then some 't'
  else none

/-- A character inside a string.  Only quotes, backslashes and control characters
are escaped. -/
def escape (c : Char) : List Char :=
  match shortEscape? c with
  | some e => ['\\', e]
  | none =>
    if c.toNat < 0x20 then
      ['\\', 'u', '0', '0', Nat.digitChar (c.toNat / 16), Nat.digitChar (c.toNat % 16)]
    else [c]

/-- A string in its quotes. -/
def quote (s : String) : String :=
  String.ofList ('"' :: s.toList.flatMap escape ++ ['"'])

/-! ## Layouts -/

/-- The text of a value that holds no other values. -/
def scalarText : Json → String
  | null => "null"
  | bool b => if b then "true" else "false"
  | integer n => n.repr
  | string s => quote s
  | float _ | array _ | object _ => ""

/-- A line break and an indentation of two spaces a level. -/
def lineBreak (level : Nat) : String :=
  String.ofList ('\n' :: List.replicate (2 * level) ' ')

mutual

/-- The compact text of a value. -/
def compact : Json → String
  | array items => "[" ++ compactItems items ++ "]"
  | object members => "\x7b" ++ compactMembers members ++ "\x7d"
  | scalar => scalarText scalar

/-- Compact values separated by commas. -/
def compactItems : List Json → String
  | [] => ""
  | [item] => compact item
  | item :: rest => compact item ++ "," ++ compactItems rest

/-- Compact members separated by commas. -/
def compactMembers : List (String × Json) → String
  | [] => ""
  | [entry] => compactMember entry
  | entry :: rest => compactMember entry ++ "," ++ compactMembers rest

/-- A compact member. -/
def compactMember : String × Json → String
  | (key, value) => quote key ++ ":" ++ compact value

end

mutual

/-- The indented text of a value that starts on a line of the given level. -/
def pretty (level : Nat) : Json → String
  | array [] => "[]"
  | array items => "[" ++ prettyItems (level + 1) items ++ lineBreak level ++ "]"
  | object [] => "\x7b\x7d"
  | object members => "\x7b" ++ prettyMembers (level + 1) members ++ lineBreak level ++ "\x7d"
  | scalar => scalarText scalar

/-- Indented values, each on lines of its own. -/
def prettyItems (level : Nat) : List Json → String
  | [] => ""
  | [item] => lineBreak level ++ pretty level item
  | item :: rest => lineBreak level ++ pretty level item ++ "," ++ prettyItems level rest

/-- Indented members, each on lines of its own. -/
def prettyMembers (level : Nat) : List (String × Json) → String
  | [] => ""
  | [entry] => prettyMember level entry
  | entry :: rest => prettyMember level entry ++ "," ++ prettyMembers level rest

/-- A member on a new line. -/
def prettyMember (level : Nat) : String × Json → String
  | (key, value) => lineBreak level ++ quote key ++ ": " ++ pretty level value

end

end Json

end MessageTemplate
