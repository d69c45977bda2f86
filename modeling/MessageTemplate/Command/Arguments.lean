/-!
# Command-line arguments

A grammar lists the options of a command and says how many operands it takes.
Arguments are read in order:

* `--name value` and `--name=value` give an option its value, and `--name` alone
  sets an option without one;
* `-c` stands for an option with a short name.  Several short names may share
  one dash; the rest after a name that takes a value is its value, less an equals
  sign in front;
* a separate value may be empty or a lone dash, but does not begin with a dash
  otherwise;
* `--` makes operands of all arguments that follow.
-/

namespace MessageTemplate.Command

/-- Why reading ends before the last argument. -/
inductive Stop where
  /-- The arguments do not fit the grammar. -/
  | misuse
  /-- The version is asked for. -/
  | version
  /-- The usage is asked for. -/
  | help
  deriving DecidableEq, Repr

/-- What an option does. -/
inductive OptionKind where
  /-- It is set, at most once. -/
  | flag
  /-- It takes a value, at most once. -/
  | single (accepts : String → Bool)
  /-- It takes a value each time. -/
  | repeated (accepts : String → Bool)
  /-- It ends the reading. -/
  | stop (reason : Stop)

/-- An option with its names. -/
structure OptionSpec where
  name : String
  short : Option Char := none
  kind : OptionKind

/-- Whether an option takes a value. -/
def OptionSpec.takesValue (option : OptionSpec) : Bool :=
  match option.kind with
  | .single _ | .repeated _ => true
  | .flag | .stop _ => false

/-- How many operands a command takes. -/
inductive Operands where
  | none
  | one
  /-- One or more, none of them empty. -/
  | several
  /-- The name of a command, which takes the arguments after it. -/
  | command (names : List String)

/-- The options and operands of a command. -/
structure Grammar where
  options : List OptionSpec
  operands : Operands

/-- The options and operands found so far. -/
structure Found where
  /-- Options and their values in order; the value of a flag is empty. -/
  values : List (String × String) := []
  operands : List String := []
  deriving DecidableEq, Repr

namespace Found

/-- Whether an option was found. -/
def has (found : Found) (name : String) : Bool :=
  found.values.any (·.1 == name)

/-- The values of an option in order. -/
def all (found : Found) (name : String) : List String :=
  (found.values.filter (·.1 == name)).map (·.2)

/-- The first value of an option. -/
def value? (found : Found) (name : String) : Option String :=
  (found.all name).head?

/-- Adds an option with its value. -/
def set (found : Found) (option : OptionSpec) (value : String) : Except Stop Found :=
  let added := { found with values := found.values ++ [(option.name, value)] }
  match option.kind with
  | .flag => if found.has option.name then .error .misuse else .ok added
  | .single accepts =>
    if found.has option.name || !accepts value then .error .misuse else .ok added
  | .repeated accepts => if accepts value then .ok added else .error .misuse
  | .stop reason => .error reason

/-- Adds an operand. -/
def addOperand (found : Found) (operands : Operands) (operand : String) : Except Stop Found :=
  let added := { found with operands := found.operands ++ [operand] }
  match operands with
  | .none | .command _ => .error .misuse
  | .one => if found.operands.isEmpty then .ok added else .error .misuse
  | .several => if operand.isEmpty then .error .misuse else .ok added

end Found

/-! ## Reading -/

/-- The option with a long name. -/
def Grammar.long? (grammar : Grammar) (name : String) : Option OptionSpec :=
  grammar.options.find? (·.name == name)

/-- The option with a short name. -/
def Grammar.short? (grammar : Grammar) (c : Char) : Option OptionSpec :=
  grammar.options.find? (·.short == some c)

/-- What the next argument has to be. -/
inductive Expecting where
  /-- Anything. -/
  | any
  /-- The value of an option. -/
  | valueOf (option : OptionSpec)
  /-- An operand. -/
  | operand

/-- Reads an argument that begins with two dashes, which are left out. -/
def readLong (grammar : Grammar) (found : Found) (s : List Char) :
    Except Stop (Found × Expecting) :=
  let name := String.ofList (s.takeWhile (· != '='))
  match grammar.long? name, s.dropWhile (· != '=') with
  | none, _ => .error .misuse
  | some option, [] =>
    if option.takesValue then .ok (found, .valueOf option)
    else (found.set option "").map (·, .any)
  | some option, _ :: value =>
    if option.takesValue then (found.set option (String.ofList value)).map (·, .any)
    else .error .misuse

/-- Reads an argument that begins with one dash, which is left out. -/
def readShort (grammar : Grammar) (found : Found) : List Char → Except Stop (Found × Expecting)
  | [] => .ok (found, .any)
  | c :: rest =>
    match grammar.short? c with
    | none => .error .misuse
    | some option =>
      if option.takesValue then
        match rest with
        | [] => .ok (found, .valueOf option)
        | '=' :: value => (found.set option (String.ofList value)).map (·, .any)
        | value => (found.set option (String.ofList value)).map (·, .any)
      else do readShort grammar (← found.set option "") rest

/-- What reading comes to: what was found, and the command with its arguments. -/
abbrev Scan := Found × Option (String × List String)

/-- Reads arguments. -/
def scan (grammar : Grammar) (found : Found) (expecting : Expecting) :
    List String → Except Stop Scan
  | [] =>
    match expecting with
    | .valueOf _ => .error .misuse
    | .any | .operand => .ok (found, none)
  | arg :: rest =>
    match expecting with
    | .operand => do
      scan grammar (← found.addOperand grammar.operands arg) .operand rest
    | .valueOf option =>
      match arg.toList with
      | '-' :: _ :: _ => .error .misuse
      | _ => do scan grammar (← found.set option arg) .any rest
    | .any =>
      match arg.toList with
      | ['-', '-'] => scan grammar found .operand rest
      | '-' :: '-' :: name => do
        let (found, expecting) ← readLong grammar found name
        scan grammar found expecting rest
      | '-' :: c :: cs => do
        let (found, expecting) ← readShort grammar found (c :: cs)
        scan grammar found expecting rest
      | _ =>
        match grammar.operands with
        | .command names =>
          if names.contains arg then .ok (found, some (arg, rest)) else .error .misuse
        | operands => do
          scan grammar (← found.addOperand operands arg) .any rest

/-- Reads all arguments of a command. -/
def Grammar.read (grammar : Grammar) (args : List String) : Except Stop Scan := do
  let (found, command) ← scan grammar {} .any args
  match grammar.operands with
  | .one | .several => if found.operands.isEmpty then .error .misuse else .ok (found, command)
  | .command _ => if command.isNone then .error .misuse else .ok (found, command)
  | .none => .ok (found, command)

end MessageTemplate.Command
