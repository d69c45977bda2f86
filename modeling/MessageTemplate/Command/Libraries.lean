import MessageTemplate.Command.Arguments
import MessageTemplate.Json.Reader
import MessageTemplate.Plural.Language

/-!
# What the commands take from libraries

A command does not itself read its arguments by a grammar or parse JSON, and the
plural rules of the languages are not its own.  It takes the three as a record
of functions, so that what holds of a command holds whatever the libraries do.
The program runs with the standard record.
-/

namespace MessageTemplate.Command

/-- What the commands take from libraries. -/
structure Libraries where
  /-- Reads the arguments of a command by its grammar. -/
  arguments : Grammar → List String → Except Stop Scan
  /-- Reads the first JSON value of a text; the text after it is left. -/
  json : List Char → Option (Json × List Char)
  /-- Prepares the plural rules of a language. -/
  rules : Plural.Language → Option (List Plural.Rule)

/-- The libraries of the program. -/
def Libraries.standard : Libraries where
  arguments := Grammar.read
  json := Json.first?
  rules := Plural.Language.rules?

end MessageTemplate.Command
