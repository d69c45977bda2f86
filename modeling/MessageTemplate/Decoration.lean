import MessageTemplate.Value

/-!
# Anchor markup

An anchor wraps its content in an `<a>` element.  A scalar is the reference
itself; attribute fields give four attributes.  Nothing is escaped.
-/

namespace MessageTemplate

/-- How an anchor wraps its content. -/
inductive Decoration where
  /-- Only the reference is written. -/
  | href (href : String)
  /-- All four attributes are written, also the empty ones. -/
  | attributes (href className style title : String)
  deriving DecidableEq, Repr

namespace Decoration

/-- The text of the value under a name, empty when there is none. -/
def attributeText (fields : Fields Value) (name : String) : String :=
  match fields.get? name with
  | some value => value.display
  | none => ""

/-- The decoration of a value. -/
def ofValue (value : Value) : Decoration :=
  match value.asFields? with
  | some fields =>
    .attributes (attributeText fields "href") (attributeText fields "class")
      (attributeText fields "style") (attributeText fields "title")
  | none => .href value.display

/-- An attribute with its quoted value and the space before it. -/
def assignment (name value : String) : String :=
  " " ++ name ++ "='" ++ value ++ "'"

/-- Wraps content that is already rendered. -/
def wrap (decoration : Decoration) (content : String) : String :=
  let assignments := match decoration with
    | href target => assignment "href" target
    | attributes target className style title =>
      assignment "href" target ++ assignment "class" className ++ assignment "style" style ++
        assignment "title" title
  "<a" ++ assignments ++ ">" ++ content ++ "</a>"

end Decoration

end MessageTemplate
