import MessageTemplate.Text.Position

/-!
# Message templates

A template is a list of nodes.  A node is literal text or a token, and a token
reads the parameter that its index names.  Three kinds of token stand alone or
carry a list of styles: a style is a key and a list of nodes of its own, so
templates nest.
-/

namespace MessageTemplate

/-! ## Indices -/

/-- What a token reads: an entry of a positional list or a named entry. -/
inductive Index where
  | position (n : Nat)
  | named (name : String)
  deriving DecidableEq, Repr, Inhabited

namespace Index

/-- The index as it stands in a token. -/
def display : Index → String
  | position n => n.repr
  | named name => ":" ++ name

/-- The plain token of the index, with its braces. -/
def fullName (index : Index) : String :=
  "\x7b" ++ index.display ++ "\x7d"

/-- Positions come before names; positions are ordered by number and names by
their characters. -/
def before : Index → Index → Bool
  | position m, position n => m < n
  | position _, named _ => true
  | named _, position _ => false
  | named a, named b => a < b

/-- Puts an index into an ordered list that holds each index once. -/
def insert (index : Index) : List Index → List Index
  | [] => [index]
  | other :: rest =>
    if index = other then other :: rest
    else if index.before other then index :: other :: rest
    else other :: insert index rest

/-- The distinct indices of a list in order. -/
def sorted (indices : List Index) : List Index :=
  indices.foldr insert []

end Index

/-! ## Nodes -/

/-- The kinds of token that carry styles.  Anchor and link are two words for one
kind of token. -/
inductive Kind where
  | choice
  | map
  | anchor
  | link
  deriving DecidableEq, Repr, Inhabited

/-- The keyword of a kind. -/
def Kind.keyword : Kind → String
  | choice => "choice"
  | map => "map"
  | anchor => "anchor"
  | link => "link"

/-- A keyed branch: the key and the items, which are nodes. -/
structure Style (ν : Type) where
  key : String
  items : List ν
  deriving Repr

/-- A node of a template. -/
inductive Node where
  | text (value : String)
  | param (index : Index)
  | number (index : Index) (format : Option String)
  | styled (kind : Kind) (index : Index) (styles : List (Style Node))
  deriving Inhabited

/-- A template. -/
abbrev Template := List Node

namespace Node

/-- The index that a token reads. -/
def index? : Node → Option Index
  | text _ => none
  | param index | number index _ | styled _ index _ => some index

/-- The styles of a token, none for a node without styles. -/
def styles : Node → List (Style Node)
  | styled _ _ styles => styles
  | _ => []

/-- The keys of the styles in order. -/
def keys (node : Node) : List String :=
  node.styles.map Style.key

/-- A node that is literal text. -/
def isText : Node → Bool
  | text _ => true
  | _ => false

/-! ## Document order -/

mutual

/-- The node and the nodes of its styles in document order, each with the number
of style lists around it. -/
def outline (depth : Nat) : Node → List (Nat × Node)
  | styled kind index styles =>
    (depth, styled kind index styles) :: outlineStyles (depth + 1) styles
  | node => [(depth, node)]

/-- The outlines of the items of all styles. -/
def outlineStyles (depth : Nat) : List (Style Node) → List (Nat × Node)
  | [] => []
  | style :: rest => outlineStyle depth style ++ outlineStyles depth rest

/-- The outlines of the items of one style. -/
def outlineStyle (depth : Nat) : Style Node → List (Nat × Node)
  | ⟨_, items⟩ => outlineAll depth items

/-- The outlines of a list of nodes. -/
def outlineAll (depth : Nat) : List Node → List (Nat × Node)
  | [] => []
  | node :: rest => outline depth node ++ outlineAll depth rest

end

end Node

namespace Template

/-- All nodes of a template in document order, each with the number of style
lists around it. -/
def outline (template : Template) : List (Nat × Node) :=
  Node.outlineAll 0 template

/-- A template without tokens. -/
def isPlainText (template : Template) : Bool :=
  template.all Node.isText

end Template

end MessageTemplate
