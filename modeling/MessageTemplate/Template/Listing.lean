import MessageTemplate.Template
import MessageTemplate.Text.Listing

/-!
# Listings of templates

A template is listed node by node, each with the values that it was built from.
-/

namespace MessageTemplate

/-- The listing of an index. -/
def Index.listing : Index → Listing
  | position n => .wrapped "Position" (.word n.repr)
  | named name => .wrapped "Named" (.quoted name)

/-- The name of a kind in a listing. -/
def Kind.listingName : Kind → String
  | choice => "Choice"
  | map => "Map"
  | anchor | link => "Anchor"

/-- The field that tells anchor and link apart. -/
def Kind.listingFields : Kind → List (String × Listing)
  | choice | map => []
  | anchor => [("kind", .word "Anchor")]
  | link => [("kind", .word "Link")]

namespace Node

mutual

/-- The listing of a node. -/
def listing : Node → Listing
  | text value => .record "Text" [("value", .quoted value)]
  | param index => .record "Param" [("index", index.listing)]
  | number index format =>
    .record "Number"
      [("index", index.listing),
       ("format", match format with
        | some name => .wrapped "Some" (.quoted name)
        | none => .word "None")]
  | styled kind index styles =>
    .record kind.listingName
      ([("index", index.listing)] ++ kind.listingFields ++
        [("styles", .items (styleListings styles))])

/-- The listings of styles. -/
def styleListings : List (Style Node) → List Listing
  | [] => []
  | style :: rest => styleListing style :: styleListings rest

/-- The listing of a style. -/
def styleListing : Style Node → Listing
  | ⟨key, items⟩ => .record "Style" [("key", .quoted key), ("items", .items (listings items))]

/-- The listings of nodes. -/
def listings : List Node → List Listing
  | [] => []
  | node :: rest => listing node :: listings rest

end

end Node

/-- The listing of a template. -/
def Template.listing (template : Template) : Listing :=
  .items (Node.listings template)

end MessageTemplate
