import MessageTemplate.Command.Check
import MessageTemplate.Command.Invocation
import MessageTemplate.Params.Json
import MessageTemplate.Renderer
import MessageTemplate.Template.Form
import MessageTemplate.Template.Listing
import MessageTemplate.Text.Digits
import MessageTemplate.Text.Table

/-!
# Running commands

A command has an outcome: an exit code, what it prints, and what it reports.
Running is a function of the arguments, the environment and the files, so that
the outer layer only reads and prints.
-/

namespace MessageTemplate.Command

/-- What a command comes to. -/
structure Outcome where
  /-- The exit code. -/
  code : Nat
  /-- The text on standard output. -/
  output : String := ""
  /-- The lines that report a failed substitution. -/
  errors : List String := []
  /-- The faulty templates that are reported. -/
  diagnostics : List Diagnostic := []
  deriving Repr

/-! ## Exit codes -/

/-- All went well. -/
def exitOk : Nat := 0

/-- The arguments do not fit the grammar. -/
def exitMisuse : Nat := 2

/-- The data is at fault: parameters that are missing, or files with faulty
templates. -/
def exitData : Nat := 65

/-- The command could not do its work. -/
def exitFailure : Nat := 70

/-- The outcome that prints a text on a line of its own. -/
def printed (text : String) : Outcome :=
  { code := exitOk, output := text ++ "\n" }

/-- The outcome for a text that is not a template. -/
def notATemplate (content : String) (error : ParseError) : Outcome :=
  { code := exitFailure, diagnostics := [.ofParseError content error] }

/-! ## Templates -/

/-- Shows the nodes of a template. -/
def runParse (source : String) (json : Bool) : Outcome :=
  match Template.parse source with
  | .error error => notATemplate source error
  | .ok template =>
    printed (if json then template.toJson.pretty 0 else template.listing.render 0)

/-- The table of a token registry. -/
def tokenTable (tokens : List Token) : Table where
  header := ["Token", "Context", "Rule keys", "Map keys"].map Table.cell
  rows := tokens.map fun token =>
    [token.fullName, ", ".intercalate (token.contexts.map RuleContext.word),
      ", ".intercalate token.ruleKeys, ", ".intercalate token.mapKeys].map Table.cell

/-- Shows the token registry of a template. -/
def runTokens (source : String) (json : Bool) : Outcome :=
  match Template.parse source with
  | .error error => notATemplate source error
  | .ok template =>
    let tokens := template.tokens
    printed <|
      if json then (Json.array (tokens.map Token.toJson)).pretty 0
      else if tokens.isEmpty then "No tokens."
      else (tokenTable tokens).render

/-! ## Rendering -/

/-- The value of a parameter on the command line: an integer if it spells one,
else a number if it spells one, else the text itself. -/
def argumentValue (text : String) : Value :=
  match Text.signed64? text.toList with
  | some n => .integer n
  | none =>
    match Binary.read? binary64 text.toList with
    | some x => .float x
    | none => .text text

/-- The parameters of `eval`.  Pairs give named parameters; the last pair with a
name counts. -/
def EvalSettings.params (settings : EvalSettings) (libraries : Libraries) :
    Except Params.Fault Params :=
  match settings.jsonParams with
  | some text => Params.ofTextWith libraries.json text
  | none =>
    .ok (.named (Fields.ofPairs (settings.pairs.map fun pair => (pair.1, argumentValue pair.2))))

/-- The renderer of `eval`. -/
def EvalSettings.renderer (settings : EvalSettings) (libraries : Libraries) : Renderer where
  language := settings.language
  policy := if settings.lenient then .degrade else .raise
  resolver :=
    if settings.categories then Plural.byCategoryWith libraries.rules else Plural.singularPlural

/-- The line that reports a failed substitution. -/
def errorLine (json : Bool) (error : SubstitutionError) : String :=
  if json then (Json.object [("error", .string error.message)]).compact
  else "Substitution error: " ++ error.message

/-- Renders a template. -/
def runEval (libraries : Libraries) (settings : EvalSettings) : Outcome :=
  match settings.params libraries with
  | .error _ => { code := exitFailure }
  | .ok params =>
    match ((settings.renderer libraries).format settings.template params).1 with
    | .ok text =>
      printed (if settings.json then (Json.object [("result", .string text)]).pretty 0 else text)
    | .error (.parse error) => notATemplate settings.template error
    | .error (.substitution error) =>
      { code := exitData, errors := [errorLine settings.json error] }

/-! ## Files -/

/-- A word in a foreground colour, given by its code. -/
def colored (isOn : Bool) (code word : String) : String :=
  if isOn then "\x1b[" ++ code ++ "m" ++ word ++ "\x1b[39m" else word

/-- The summary of a report. -/
def CheckReport.summary (report : CheckReport) (isOn : Bool) : String :=
  if report.failures.isEmpty then
    colored isOn "32" "ok" ++ " " ++ report.checked.repr ++ " template(s) checked"
  else
    colored isOn "31" "error" ++ " " ++ report.failures.length.repr ++ " of " ++
      report.checked.repr ++ " template(s) failed to parse"

/-- Checks files.  A failure is reported when it is found, so a file that cannot be read
does not take back the reports on the files in front of it. -/
def runCheck (read : String → Option String) (files : List String) (json isOn : Bool) : Outcome :=
  let diagnostics :=
    if json then [] else (checkUpTo read files).failures.map CheckFailure.diagnostic
  match checkFiles read files with
  | none => { code := exitFailure, diagnostics }
  | some report =>
    { code := if report.failures.isEmpty then exitOk else exitData
      output :=
        (if json then (Json.array (report.failures.map CheckFailure.toJson)).pretty 0
          else report.summary isOn) ++ "\n"
      diagnostics }

/-! ## The command line -/

/-- The name and version of the program. -/
def versionLine : String := "xmsg 0.1.0"

/-- Runs a command that was read from its arguments.  `read` gives the content of
a file. -/
def Invocation.run (invocation : Invocation) (libraries : Libraries) (env : Environment)
    (read : String → Option String) : Outcome :=
  match invocation.action with
  | .parse template json => runParse template json
  | .eval settings => runEval libraries settings
  | .tokens template json => runTokens template json
  | .check files json => runCheck read files json (invocation.color.isOn env)

/-- Runs a command line with some libraries.  Arguments that do not fit the grammar
print nothing, and neither does the usage, which the outer layer may draw. -/
def runWith (libraries : Libraries) (env : Environment) (read : String → Option String)
    (args : List String) : Outcome :=
  match Invocation.read libraries env args with
  | .ok invocation => invocation.run libraries env read
  | .error .version => printed versionLine
  | .error .help => { code := exitOk }
  | .error .misuse => { code := exitMisuse }

/-- Arguments that are read as a command run the command. -/
theorem runWith_of_read {libraries : Libraries} {env : Environment} {args : List String}
    {invocation : Invocation} (h : Invocation.read libraries env args = .ok invocation)
    (read : String → Option String) :
    runWith libraries env read args = invocation.run libraries env read := by
  rw [runWith, h]

/-- Runs a command line. -/
def run : Environment → (String → Option String) → List String → Outcome :=
  runWith .standard

end MessageTemplate.Command
