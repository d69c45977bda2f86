import MessageTemplate.Template

/-!
# The token registry

The registry of a template has one entry for each index that the template reads,
in the order of first occurrence.  An entry describes the first node that reads
the index: the keys it dispatches on, and the rules that its text in another
language has to keep in mind.
-/

namespace MessageTemplate

/-- A set of rules that a token dispatches on. -/
inductive RuleContext where
  | number
  | gender
  deriving DecidableEq, Repr

/-- The name of a set of rules. -/
def RuleContext.word : RuleContext → String
  | number => "number"
  | gender => "gender"

/-- The entry of an index. -/
structure Token where
  /-- The plain token of the index, with its braces. -/
  fullName : String
  index : Index
  contexts : List RuleContext
  /-- The style keys of a choice. -/
  ruleKeys : List String
  /-- The style keys of a map. -/
  mapKeys : List String
  deriving DecidableEq, Repr

namespace Registry

/-- The style keys of gender rules. -/
def genderWords : List String :=
  ["male", "female", "neutral", "unknown"]

/-- The style keys of plural rules. -/
def numberWords : List String :=
  ["singular", "plural", "zero", "one", "two", "few", "many"]

/-- The contexts of a choice with these keys.  It is a plural choice unless it
has keys for gender alone. -/
def choiceContexts (keys : List String) : List RuleContext :=
  let gender := keys.any genderWords.contains
  let number := keys.any numberWords.contains || !gender
  (if number then [.number] else []) ++ (if gender then [.gender] else [])

/-- The entry of the node that reads an index first. -/
def entry (index : Index) (node : Node) : Token :=
  let plain : Token := ⟨index.fullName, index, [], [], []⟩
  match node with
  | .styled .choice _ _ =>
    { plain with contexts := choiceContexts node.keys, ruleKeys := node.keys }
  | .styled .map _ _ => { plain with mapKeys := node.keys }
  | .number _ _ => { plain with contexts := [.number] }
  | _ => plain

/-- Adds the entry of a node unless its index has one. -/
def add (known : List Token) (node : Node) : List Token :=
  match node.index? with
  | none => known
  | some index =>
    if known.any (·.index = index) then known else known ++ [entry index node]

mutual

/-- Adds the entries of a node, then those of its styles. -/
def collect (known : List Token) : Node → List Token
  | .styled kind index styles => collectStyles (add known (.styled kind index styles)) styles
  | node => add known node

/-- Adds the entries of the items of all styles. -/
def collectStyles (known : List Token) : List (Style Node) → List Token
  | [] => known
  | style :: rest => collectStyles (collectItems known style) rest

/-- Adds the entries of the items of a style. -/
def collectItems (known : List Token) : Style Node → List Token
  | ⟨_, items⟩ => collectAll known items

/-- Adds the entries of a list of nodes. -/
def collectAll (known : List Token) : List Node → List Token
  | [] => known
  | node :: rest => collectAll (collect known node) rest

end

end Registry

/-- The registry of a template. -/
def Template.tokens (template : Template) : List Token :=
  Registry.collectAll [] template

end MessageTemplate
