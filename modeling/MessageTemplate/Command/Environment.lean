/-!
# The environment of a command

A command reads some variables by their names.  A variable may be there with an
empty value, which is not the same as a variable that is missing.
-/

namespace MessageTemplate.Command

/-- Variables with their values. -/
structure Environment where
  values : List (String × String) := []
  deriving Repr

namespace Environment

/-- The value of a variable. -/
def get? (env : Environment) (name : String) : Option String :=
  env.values.lookup name

/-- Whether a variable is there, with any value. -/
def has (env : Environment) (name : String) : Bool :=
  (env.get? name).isSome

/-- Whether a variable is there with another value than zero. -/
def isOn (env : Environment) (name : String) : Bool :=
  (env.get? name).any (· != "0")

/-- The variable with the language that `eval` falls back to. -/
def languageName : String := "XMSG_LANG"

/-- The language that `eval` falls back to. -/
def language? (env : Environment) : Option String :=
  env.get? languageName

end Environment

end MessageTemplate.Command
