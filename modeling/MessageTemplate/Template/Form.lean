import MessageTemplate.Json
import MessageTemplate.Registry

/-!
# The JSON form of templates and tokens

A node is an object with its type first; indices stand in their display form.
Anchor and link share a type and differ in their kind.  A number without a
format has no such member.
-/

namespace MessageTemplate

/-- The type of a token in its JSON form. -/
def Kind.typeName : Kind → String
  | .choice => "choice"
  | .map => "map"
  | .anchor | .link => "anchor"

/-- The member that tells anchor and link apart. -/
def Kind.kindMember : Kind → List (String × Json)
  | .choice | .map => []
  | .anchor => [("kind", .string "anchor")]
  | .link => [("kind", .string "link")]

namespace Node

mutual

/-- The JSON form of a node. -/
def toJson : Node → Json
  | text value => .object [("type", .string "text"), ("value", .string value)]
  | param index => .object [("type", .string "param"), ("index", .string index.display)]
  | number index format =>
    .object ([("type", .string "number"), ("index", .string index.display)] ++
      match format with
      | some name => [("format", .string name)]
      | none => [])
  | styled kind index styles =>
    .object ([("type", .string kind.typeName), ("index", .string index.display)] ++
      kind.kindMember ++ [("styles", .array (stylesToJson styles))])

/-- The JSON forms of styles. -/
def stylesToJson : List (Style Node) → List Json
  | [] => []
  | style :: rest => styleToJson style :: stylesToJson rest

/-- The JSON form of a style. -/
def styleToJson : Style Node → Json
  | ⟨key, items⟩ => .object [("key", .string key), ("items", .array (allToJson items))]

/-- The JSON forms of nodes. -/
def allToJson : List Node → List Json
  | [] => []
  | node :: rest => toJson node :: allToJson rest

end

end Node

/-- The JSON form of a template is the list of its nodes. -/
def Template.toJson (template : Template) : Json :=
  .array (Node.allToJson template)

/-- The JSON form of an entry of the token registry. -/
def Token.toJson (token : Token) : Json :=
  .object
    [("full_name", .string token.fullName),
     ("index", .string token.index.display),
     ("context_keys", .array (token.contexts.map fun context => .string context.word)),
     ("rule_keys", .array (token.ruleKeys.map .string)),
     ("params", .array (token.mapKeys.map .string))]

end MessageTemplate
