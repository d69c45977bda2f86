import MessageTemplate.Decoration
import MessageTemplate.Params
import MessageTemplate.Plural.Resolver

/-!
# Rendering templates

A template is rendered from left to right.  Every token, also one inside a
style, reads the same parameters.  A missing value is an error or is degraded,
as the policy says; a choice without a value falls back to one of its styles
under either policy.
-/

namespace MessageTemplate

/-! ## Context and errors -/

/-- What rendering does when a token has no value. -/
inductive Policy where
  /-- Fail with an error. -/
  | raise
  /-- Show the plain token, or nothing. -/
  | degrade
  deriving DecidableEq, Repr, Inhabited

/-- Why a template cannot be rendered.  Tokens are given by their full names. -/
inductive SubstitutionError where
  /-- There is no value for a token. -/
  | missingValue (token : String)
  /-- A name was read from positional parameters. -/
  | wrongSourceKind (token : String)
  /-- A choice has no style at all. -/
  | noBranch (token ruleKey : String)
  deriving DecidableEq, Repr

/-- The message of an error. -/
def SubstitutionError.message : SubstitutionError → String
  | missingValue token => "no value supplied for token '" ++ token ++ "'"
  | wrongSourceKind token => "token '" ++ token ++ "' is named but the parameters are positional"
  | noBranch token ruleKey =>
    "choice token '" ++ token ++ "' has no branch for rule key '" ++ ruleKey ++ "'"

/-- What rendering reads beside the template. -/
structure Context where
  language : String
  params : Params
  resolver : Plural.Resolver := Plural.singularPlural
  policy : Policy := .raise

namespace Context

/-- The outcome for a token whose value is not there. -/
def absent (ctx : Context) (error : SubstitutionError) : Except SubstitutionError (Option Value) :=
  match ctx.policy with
  | .raise => .error error
  | .degrade => .ok none

/-- The value that a token needs.  There is none when it is absent and the
policy degrades. -/
def required (ctx : Context) (index : Index) : Except SubstitutionError (Option Value) :=
  match ctx.params.lookup index with
  | .found value => .ok (some value)
  | .missing => ctx.absent (.missingValue index.fullName)
  | .wrongSourceKind => ctx.absent (.wrongSourceKind index.fullName)

/-- The rule key of a number. -/
def numberKey (ctx : Context) (x : Binary64) : String :=
  ctx.resolver ctx.language x

/-- The rule key of a value: a numeric value has the key of its number, any other
value is its own key. -/
def ruleKey (ctx : Context) (value : Value) : String :=
  match value.toNumber? with
  | some x => ctx.numberKey x
  | none => value.display

/-- The rule key of a choice.  A missing value has none; a name read from
positional parameters has none either, or is an error. -/
def choiceKey (ctx : Context) (index : Index) : Except SubstitutionError (Option String) :=
  match ctx.params.lookup index with
  | .found value => .ok (some (ctx.ruleKey value))
  | .missing => .ok none
  | .wrongSourceKind =>
    match ctx.policy with
    | .raise => .error (.wrongSourceKind index.fullName)
    | .degrade => .ok none

end Context

/-! ## Number formats -/

/-- One hundred. -/
def hundred : Binary64 := .ofInt binary64 100

/-- A value in a number format.  `integer` drops the fraction and `percent`
counts hundredths.  A value without a number and a format that is not known
leave the text of the value. -/
def formatNumber (value : Value) (format : Option String) : String :=
  match value.toNumber?, format with
  | some x, some "integer" => x.truncate.toInt.repr
  | some x, some "percent" => (x.mul hundred).nearest.toInt.repr ++ "%"
  | _, _ => value.display

/-! ## Nodes -/

/-- The key of the style that a choice falls back to. -/
def fallbackKey : String := "other"

/-- The key of the style that an anchor wraps. -/
def contentKey : String := "text"

mutual

/-- Renders a node. -/
def Node.render (ctx : Context) : Node → Except SubstitutionError String
  | .text value => .ok value
  | .param index => do
    match ← ctx.required index with
    | some value => return value.display
    | none => return index.fullName
  | .number index format => do
    match ← ctx.required index with
    | some value => return formatNumber value format
    | none => return index.fullName
  | .styled .choice index styles => do
    let key ← ctx.choiceKey index
    let byKey := key.bind fun key => Node.renderStyle ctx (· == key) styles
    let chosen := (byKey <|> Node.renderStyle ctx (· == fallbackKey) styles) <|>
      Node.renderStyle ctx (fun _ => true) styles
    chosen.getD (.error (.noBranch index.fullName (key.getD "")))
  | .styled .map index styles => do
    match ← ctx.required index with
    | some value => (Node.renderStyle ctx (· == value.display) styles).getD (.ok "")
    | none => return ""
  | .styled .anchor index styles | .styled .link index styles => do
    let content ← (Node.renderStyle ctx (· == contentKey) styles).getD (.ok "")
    match ← ctx.required index with
    | some value => return (Decoration.ofValue value).wrap content
    | none => return content

/-- Renders the items of the first style whose key is wanted. -/
def Node.renderStyle (ctx : Context) (wanted : String → Bool) :
    List (Style Node) → Option (Except SubstitutionError String)
  | [] => none
  | style :: rest =>
    if wanted style.key then some (Node.renderItems ctx style)
    else Node.renderStyle ctx wanted rest

/-- Renders the items of a style. -/
def Node.renderItems (ctx : Context) : Style Node → Except SubstitutionError String
  | ⟨_, items⟩ => Node.renderAll ctx items

/-- Renders nodes from left to right; the first error ends the rendering. -/
def Node.renderAll (ctx : Context) : List Node → Except SubstitutionError String
  | [] => .ok ""
  | node :: rest => do
    let first ← Node.render ctx node
    let others ← Node.renderAll ctx rest
    return first ++ others

end

namespace Template

/-- Renders a template. -/
def render (template : Template) (ctx : Context) : Except SubstitutionError String :=
  Node.renderAll ctx template

end Template

end MessageTemplate
