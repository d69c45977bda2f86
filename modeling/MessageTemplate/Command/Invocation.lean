import MessageTemplate.Command.Color
import MessageTemplate.Command.Libraries

/-!
# Invocations of the command line

The command line has four commands.  `parse` shows the nodes of a template,
`eval` renders one, `tokens` shows its token registry, and `check` looks for
faults in files with one template on each line.
-/

namespace MessageTemplate.Command

/-- The settings of `eval`. -/
structure EvalSettings where
  language : String
  template : String
  /-- Names and values of parameters, in order. -/
  pairs : List (String × String)
  /-- All parameters as JSON text. -/
  jsonParams : Option String
  /-- Whether choices follow plural categories. -/
  categories : Bool
  /-- Whether missing values are degraded. -/
  lenient : Bool
  json : Bool

/-- A command with its arguments. -/
inductive Action where
  | parse (template : String) (json : Bool)
  | eval (settings : EvalSettings)
  | tokens (template : String) (json : Bool)
  | check (files : List String) (json : Bool)

/-- A command and the options of all commands. -/
structure Invocation where
  color : ColorChoice
  verbose : Bool
  action : Action

/-- Splits a parameter at its first equals sign. -/
def splitPair? (text : String) : Option (String × String) :=
  match text.toList.dropWhile (· != '=') with
  | [] => none
  | _ :: value => some (String.ofList (text.toList.takeWhile (· != '=')), String.ofList value)

/-! ## Grammars -/

/-- An option without a value. -/
def flag (name : String) : OptionSpec := { name, kind := .flag }

/-- An option with any value. -/
def single (name : String) : OptionSpec := { name, kind := .single fun _ => true }

/-- The options of all commands. -/
def globalOptions : List OptionSpec :=
  [{ name := "color", kind := .single fun word => (ColorChoice.ofWord? word).isSome },
   { name := "verbose", short := some 'v', kind := .flag },
   { name := "help", short := some 'h', kind := .stop .help }]

/-- The names of the commands. -/
def commandNames : List String :=
  ["parse", "eval", "tokens", "check", "help"]

/-- The grammar before the command. -/
def mainGrammar : Grammar where
  options := globalOptions ++ [{ name := "version", short := some 'V', kind := .stop .version }]
  operands := .command commandNames

/-- The grammar of commands about one template. -/
def templateGrammar : Grammar where
  options := globalOptions ++ [flag "json"]
  operands := .one

/-- The grammar of `check`. -/
def checkGrammar : Grammar where
  options := globalOptions ++ [flag "json"]
  operands := .several

/-- The grammar of `eval`. -/
def evalGrammar : Grammar where
  options := globalOptions ++
    [single "lang", single "template",
     { name := "param", short := some 'p', kind := .repeated fun text => (splitPair? text).isSome },
     single "args-json", flag "cldr", flag "lenient", flag "json"]
  operands := .none

/-! ## Commands -/

/-- The settings of `eval` from its options.  The template is required, and
parameters are given either as pairs or as JSON. -/
def evalSettings (env : Environment) (found : Found) : Except Stop EvalSettings :=
  let jsonParams := found.value? "args-json"
  match found.value? "template" with
  | none => .error .misuse
  | some template =>
    if jsonParams.isSome && found.has "param" then .error .misuse
    else .ok
      { language := (found.value? "lang").getD (env.language?.getD "en")
        template
        pairs := (found.all "param").filterMap splitPair?
        jsonParams
        categories := found.has "cldr"
        lenient := found.has "lenient"
        json := found.has "json" }

/-- What `help` comes to: it may name one of the other commands. -/
def helpStop : List String → Stop
  | [] => .help
  | [name] => if commandNames.contains name then .help else .misuse
  | _ => .misuse

/-- Reads the arguments of a command. -/
def readAction (libraries : Libraries) (env : Environment) (name : String) (args : List String) :
    Except Stop (Action × Found) :=
  match name with
  | "parse" => do
    let (found, _) ← libraries.arguments templateGrammar args
    return (.parse (found.operands.headD "") (found.has "json"), found)
  | "tokens" => do
    let (found, _) ← libraries.arguments templateGrammar args
    return (.tokens (found.operands.headD "") (found.has "json"), found)
  | "check" => do
    let (found, _) ← libraries.arguments checkGrammar args
    return (.check found.operands (found.has "json"), found)
  | "eval" => do
    let (found, _) ← libraries.arguments evalGrammar args
    return (.eval (← evalSettings env found), found)
  | _ => .error (helpStop args)

/-- Reads a command line.  An option of all commands counts after the command
rather than before it. -/
def Invocation.read (libraries : Libraries) (env : Environment) (args : List String) :
    Except Stop Invocation := do
  let (before, command) ← libraries.arguments mainGrammar args
  let (name, rest) := command.getD ("help", [])
  let (action, after) ← readAction libraries env name rest
  let word := (after.value? "color").getD ((before.value? "color").getD "auto")
  return {
    color := (ColorChoice.ofWord? word).getD .auto
    verbose := after.has "verbose" || before.has "verbose"
    action }

end MessageTemplate.Command
