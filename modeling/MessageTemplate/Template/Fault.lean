import MessageTemplate.Template
import MessageTemplate.Text.Suggestion

/-!
# Why a text is not a template

A fault has a cause and a place.  The place is that of the character where the
fault was detected, except for a token that does not end and for one that is
nested too deeply: these are reported at the brace that opens the token.
-/

namespace MessageTemplate

/-- The cause of a fault in a template. -/
inductive Cause where
  /-- The text ends inside a token. -/
  | unterminatedToken
  /-- A token does not begin with an index. -/
  | missingIndex
  /-- The keyword of a token is not known. -/
  | unknownTokenType (name : String) (suggestions : List String)
  /-- A style list or a number format is not well formed. -/
  | malformedStyle (detail : String)
  /-- A character that cannot follow an index. -/
  | unexpectedCharacter (found : Char)
  /-- A closing brace outside of any token. -/
  | unbalancedDelimiter
  /-- A style of a token lies inside more style lists than the limit allows. -/
  | nestingTooDeep (limit : Nat)
  deriving DecidableEq, Repr

/-- A cause and the place of the fault. -/
structure ParseError where
  cause : Cause
  position : Position
  deriving DecidableEq, Repr

/-! ## Keywords -/

/-- The keywords of tokens. -/
def keywords : List String :=
  ["number", "choice", "map", "anchor", "link"]

/-- The cause that reports the keyword `name`. -/
def Cause.unknownKeyword (name : String) : Cause :=
  .unknownTokenType name (Text.suggestions name keywords)

/-! ## Texts -/

namespace Cause

/-- The detail of a choice or map without styles. -/
def noStyles (keyword : String) : Cause :=
  .malformedStyle ("'" ++ keyword ++ "' requires at least one style")

/-- The detail of a style whose key is blank. -/
def emptyKey : Cause :=
  .malformedStyle "empty style key"

/-- The detail of a style list that goes on with something else than a style. -/
def notAStyle : Cause :=
  .malformedStyle "expected a style entry 'key#items'"

/-- The detail of a style key that is not followed by its mark. -/
def missingMark (key : String) : Cause :=
  .malformedStyle ("expected '#' after style key '" ++ key ++ "'")

/-- The detail of a number format without a name. -/
def noFormatName : Cause :=
  .malformedStyle "expected a number format name"

/-- The detail of a character after the name of a number format. -/
def afterFormat (found : Char) : Cause :=
  .malformedStyle ("unexpected '" ++ found.toString ++ "' after number format")

/-- The question that ends the message of an unknown keyword. -/
def suggestionText (suggestions : List String) : String :=
  if suggestions.isEmpty then "" else ", did you mean: " ++ ", ".intercalate suggestions ++ "?"

end Cause

/-- A place as it stands in a message. -/
def Position.display (p : Position) : String :=
  p.line.repr ++ ":" ++ p.column.repr

/-- The message of a fault. -/
def ParseError.message (e : ParseError) : String :=
  let place := e.position.display
  match e.cause with
  | .unterminatedToken => "unterminated token starting at " ++ place
  | .missingIndex => "missing token index at " ++ place
  | .unknownTokenType name suggestions =>
    "unknown token type '" ++ name ++ "' at " ++ place ++ Cause.suggestionText suggestions
  | .malformedStyle detail => "malformed style at " ++ place ++ ": " ++ detail
  | .unexpectedCharacter found =>
    "unexpected character '" ++ found.toString ++ "' at " ++ place
  | .unbalancedDelimiter => "unbalanced '\x7d' at " ++ place
  | .nestingTooDeep limit =>
    "tokens nested more than " ++ limit.repr ++ " levels deep at " ++ place

end MessageTemplate
