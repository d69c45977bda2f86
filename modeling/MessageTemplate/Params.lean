import MessageTemplate.Template
import MessageTemplate.Value

/-!
# Parameters

A template reads its values from a positional list or from named entries.  A
name cannot be read from a list; a position can be read from named entries,
where it is the entry under its decimal text.
-/

namespace MessageTemplate

/-- The source of the values of one rendering. -/
inductive Params where
  | positional (values : List Value)
  | named (entries : Fields Value)
  deriving Inhabited

/-- What looking up an index comes to. -/
inductive Lookup where
  | found (value : Value)
  | missing
  /-- A name was read from a positional list. -/
  | wrongSourceKind

/-- A value that may be there. -/
def Lookup.ofOption : Option Value → Lookup
  | some value => found value
  | none => missing

namespace Params

/-- No parameters at all. -/
def none : Params := positional []

/-- Looks up the value of an index. -/
def lookup : Params → Index → Lookup
  | positional values, .position n => .ofOption values[n]?
  | named entries, .named name => .ofOption (entries.get? name)
  | named entries, .position n => .ofOption (entries.get? n.repr)
  | positional _, .named _ => .wrongSourceKind

/-- The number of values. -/
def size : Params → Nat
  | positional values => values.length
  | named entries => entries.length

/-- No values. -/
def isEmpty (params : Params) : Bool :=
  params.size == 0

end Params

end MessageTemplate
