import MessageTemplate.Command.Directory
import MessageTemplate.Command.Run

/-!
# The command line program

The outer layer: it reads the arguments, the environment and the files that the
arguments name, runs the command and prints its outcome.
-/

namespace MessageTemplate.Command

/-- The variables that a command reads. -/
def Environment.names : List String :=
  languageName :: colorNames

/-- A variable with its value, if it is there. -/
def variableOf (name : String) : IO (Option (String × String)) := do
  return (← IO.getEnv name).map (name, ·)

/-- The files that a command reads. -/
def filesOf (args : List String) (env : Environment) : List String :=
  match Invocation.read .standard env args with
  | .ok { action := .check files _, .. } => files
  | _ => []

/-- The content of a file, if it can be read. -/
def contentOf (path : String) : IO (Option (String × String)) := do
  try
    let content ← IO.FS.readFile path
    return some (path, content)
  catch _ => return none

end MessageTemplate.Command

open MessageTemplate.Command in
/-- Runs the command line. -/
def main (args : List String) : IO UInt32 := do
  let env : Environment := { values := ← Environment.names.filterMapM variableOf }
  let directory : Directory ← (filesOf args env).filterMapM contentOf
  let outcome := run env directory.read? args
  IO.print outcome.output
  for diagnostic in outcome.diagnostics do
    IO.eprintln (diagnostic.source.name ++ ": " ++ diagnostic.message)
    for help in diagnostic.help do
      IO.eprintln ("help: " ++ help)
  for line in outcome.errors do
    IO.eprintln line
  return UInt32.ofNat outcome.code
