import MessageTemplate.Diagnostic
import MessageTemplate.Json

/-!
# Checking files

A file holds one template on each line; blank lines are skipped.  Each line is
read on its own, and a fault is reported with its file and its line in the file.
-/

namespace MessageTemplate.Command

/-- A template that could not be read. -/
structure CheckFailure where
  file : String
  /-- The line in the file, counted from one. -/
  line : Nat
  content : String
  error : ParseError

/-- The diagnostic of a failure.  The line is named by its file and its number. -/
def CheckFailure.diagnostic (failure : CheckFailure) : Diagnostic :=
  .ofErrorIn ⟨failure.file ++ ":" ++ failure.line.repr, failure.content⟩ failure.error

/-- The JSON form of a failure. -/
def CheckFailure.toJson (failure : CheckFailure) : Json :=
  .object
    [("file", .string failure.file),
     ("line", .integer failure.line),
     ("column", .integer failure.error.position.column),
     ("message", .string failure.error.message)]

/-- What checking came to. -/
structure CheckReport where
  /-- The number of templates. -/
  checked : Nat := 0
  /-- The failures in order. -/
  failures : List CheckFailure := []

/-- Joins the reports of two parts. -/
def CheckReport.append (a b : CheckReport) : CheckReport :=
  ⟨a.checked + b.checked, a.failures ++ b.failures⟩

/-- A line without anything but white space. -/
def isBlankLine (line : List Char) : Bool :=
  line.all Text.isBlank

/-- Checks one line of a file. -/
def checkLine (file : String) (number : Nat) (line : List Char) : CheckReport :=
  if isBlankLine line then {}
  else
    let content := String.ofList line
    match Template.parse content with
    | .ok _ => ⟨1, []⟩
    | .error error => ⟨1, [⟨file, number, content, error⟩]⟩

/-- Checks lines that are counted from `number` on. -/
def checkLines (file : String) (number : Nat) : List (List Char) → CheckReport
  | [] => {}
  | line :: rest => (checkLine file number line).append (checkLines file (number + 1) rest)

/-- Checks the content of a file. -/
def checkContent (file content : String) : CheckReport :=
  checkLines file 1 (Text.lines content.toList)

/-- Checks files in order up to the first that cannot be read. -/
def checkUpTo (read : String → Option String) : List String → CheckReport
  | [] => {}
  | file :: rest =>
    match read file with
    | none => {}
    | some content => (checkContent file content).append (checkUpTo read rest)

/-- Checks all files.  There is no report when one of them cannot be read. -/
def checkFiles (read : String → Option String) (files : List String) : Option CheckReport :=
  if files.all fun file => (read file).isSome then some (checkUpTo read files) else none

end MessageTemplate.Command
