import MessageTemplate.Template.Reader

/-!
# Diagnostics

A diagnostic points at a place of a text by its offset in bytes.  The line and
column of an error are mapped back to an offset; a line that the text does not
have and a column that the line does not have are moved to the nearest end.
-/

namespace MessageTemplate

/-- A marked piece of a text. -/
structure Label where
  /-- The offset of the piece in bytes. -/
  offset : Nat
  /-- The length of the piece in bytes. -/
  length : Nat
  text : String
  deriving DecidableEq, Repr

/-- A text under a name. -/
structure NamedText where
  name : String
  content : String
  deriving DecidableEq, Repr

/-- A message about a text, with the place that it is about. -/
structure Diagnostic where
  source : NamedText
  message : String
  code : String
  help : Option String
  labels : List Label
  deriving DecidableEq, Repr

namespace Diagnostic

/-- The length in bytes of some lines with their line feeds. -/
def linesLength (lines : List (List Char)) : Nat :=
  (lines.map fun line => Text.byteLength line + 1).foldr (· + ·) 0

/-- The offset in bytes of a place.  Line and column zero count as one. -/
def offset (content : List Char) (place : Position) : Nat :=
  let pieces := Text.pieces content
  let lineStart := linesLength (pieces.take (place.line - 1))
  let line := (pieces[place.line - 1]?).getD []
  min (lineStart + Text.byteLength (line.take (place.column - 1))) (Text.byteLength content)

/-- The advice for a cause. -/
def help? : Cause → Option String
  | .unknownTokenType _ suggestions =>
    if suggestions.isEmpty then some ("token types are: " ++ ", ".intercalate keywords)
    else some ("did you mean: " ++ ", ".intercalate suggestions ++ "?")
  | .unbalancedDelimiter | .unterminatedToken =>
    some "'\x7b' and '\x7d' always delimit tokens and cannot be escaped"
  | _ => none

/-- The diagnostic of an error in a text that has a name. -/
def ofErrorIn (source : NamedText) (error : ParseError) : Diagnostic where
  source
  message := error.message
  code := "xmsg::syntax"
  help := help? error.cause
  labels := [⟨offset source.content.toList error.position, 1, "error here"⟩]

/-- The name of a template that is given as an argument. -/
def templateName : String := "<template>"

/-- The diagnostic of an error in a template that is given as an argument. -/
def ofParseError (content : String) : ParseError → Diagnostic :=
  ofErrorIn ⟨templateName, content⟩

end Diagnostic

end MessageTemplate
