import MessageTemplate.Text.Hidden

/-!
# Listings

A listing shows nested data with one item on each line.  What lies inside is
indented by four spaces a level, every item ends with a comma, and a list
without items stays on its line.
-/

namespace MessageTemplate

/-- Nested data to be shown. -/
inductive Listing where
  /-- A word or a number. -/
  | word (text : String)
  /-- A text, shown in quotes. -/
  | quoted (text : String)
  | items (items : List Listing)
  /-- A name and one value in parentheses. -/
  | wrapped (name : String) (value : Listing)
  /-- A name and labelled values in braces. -/
  | record (name : String) (fields : List (String × Listing))
  deriving Inhabited

namespace Listing

/-! ## Quoted text -/

/-- A character between quotes. -/
def escape (c : Char) : List Char :=
  match c with
  | '\x00' => ['\\', '0']
  | '\t' => ['\\', 't']
  | '\r' => ['\\', 'r']
  | '\n' => ['\\', 'n']
  | '\\' => ['\\', '\\']
  | '"' => ['\\', '"']
  | c =>
    if Text.isHidden c then ['\\', 'u', '\x7b'] ++ Nat.toDigits 16 c.toNat ++ ['\x7d'] else [c]

/-- A text in quotes. -/
def quote (text : String) : String :=
  String.ofList ('"' :: text.toList.flatMap escape ++ ['"'])

/-! ## Layout -/

/-- A line break and the indentation of a level. -/
def lineBreak (level : Nat) : String :=
  String.ofList ('\n' :: List.replicate (4 * level) ' ')

mutual

/-- The text of data that starts on a line of the given level. -/
def render (level : Nat) : Listing → String
  | word text => text
  | quoted text => quote text
  | items [] => "[]"
  | items list => "[" ++ renderItems (level + 1) list ++ lineBreak level ++ "]"
  | wrapped name value =>
    name ++ "(" ++ lineBreak (level + 1) ++ render (level + 1) value ++ "," ++
      lineBreak level ++ ")"
  | record name fields =>
    name ++ " \x7b" ++ renderFields (level + 1) fields ++ lineBreak level ++ "\x7d"

/-- Items, each on lines of its own. -/
def renderItems (level : Nat) : List Listing → String
  | [] => ""
  | item :: rest => lineBreak level ++ render level item ++ "," ++ renderItems level rest

/-- Labelled values, each on lines of its own. -/
def renderFields (level : Nat) : List (String × Listing) → String
  | [] => ""
  | entry :: rest => renderField level entry ++ renderFields level rest

/-- A labelled value on a new line. -/
def renderField (level : Nat) : String × Listing → String
  | (label, value) => lineBreak level ++ label ++ ": " ++ render level value ++ ","

end

end Listing

end MessageTemplate
