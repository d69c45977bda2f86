import MessageTemplate.Fields
import MessageTemplate.Proofs.Registry.FirstOccurrence
import MessageTemplate.Proofs.Template.Tree
import MessageTemplate.Template.Form

/-!
# The JSON form loses nothing

The members of a JSON object have no order, and the last of several members with one key counts.
So two values are the same when their canonical forms are: there the members stand in the order
of their keys, each key once.  Nothing is known of a canonical object but the values that are
found under its keys.

The members of a node are enough to find it again.  Its type and its kind tell which form it has,
and the other members hold its parts.  What holds of one node is carried to trees by the
induction over the lists of nodes.
-/

namespace MessageTemplate

/-! ## Canonical values -/

namespace Json

mutual

/-- The value with the members of its objects in the order of their keys, each key once. -/
def canonical : Json → Json
  | array items => array (canonicalItems items)
  | object members => object (Fields.ofPairs (canonicalMembers members))
  | scalar => scalar

/-- The canonical forms of the values of a list. -/
def canonicalItems : List Json → List Json
  | [] => []
  | item :: rest => canonical item :: canonicalItems rest

/-- The members of an object with canonical values, in the order in which they are written. -/
def canonicalMembers : List (String × Json) → List (String × Json)
  | [] => []
  | entry :: rest => canonicalMember entry :: canonicalMembers rest

/-- A member with a canonical value. -/
def canonicalMember : String × Json → String × Json
  | (key, value) => (key, canonical value)

end

/-- The value of a member. -/
def member? (key : String) : Json → Option Json
  | object members => Fields.get? members key
  | _ => none

variable {members : List (String × Json)} {items : List Json} {key : String} {value : Json}

@[simp] theorem canonical_string (s : String) : (string s).canonical = string s := rfl

theorem canonicalItems_eq : canonicalItems items = items.map canonical := by
  induction items with
  | nil => rfl
  | cons item rest ih => rw [canonicalItems, ih, List.map_cons]

@[simp] theorem canonical_array : (array items).canonical = array (items.map canonical) := by
  rw [canonical, canonicalItems_eq]

theorem canonicalMembers_eq :
    canonicalMembers members = members.map fun entry => (entry.1, entry.2.canonical) := by
  induction members with
  | nil => rfl
  | cons entry rest ih =>
    obtain ⟨key, value⟩ := entry
    rw [canonicalMembers, ih, List.map_cons, canonicalMember]

/-- Under a key of a canonical object stands the canonical form of its last member with the
key. -/
theorem member?_canonical :
    (object members).canonical.member? key = (members.reverse.lookup key).map canonical := by
  rw [canonical, member?, Fields.get?_ofPairs, canonicalMembers_eq, ← List.map_reverse,
    Fields.lookup_map canonical]

end Json

/-! ## The members of a node -/

namespace Node

open Json

variable {node other : Node} {nodes others : List Node} {styles : List (Style Node)}

/-- The type of a node in its JSON form. -/
def typeName : Node → String
  | text _ => "text"
  | param _ => "param"
  | number _ _ => "number"
  | styled kind _ _ => kind.typeName

theorem member?_type : node.toJson.canonical.member? "type" = some (.string node.typeName) := by
  cases node with
  | text | param => simp [toJson, member?_canonical, typeName, List.lookup_cons]
  | number index format =>
    cases format <;> simp [toJson, member?_canonical, typeName, List.lookup_cons]
  | styled kind index styles =>
    cases kind <;>
      simp [toJson, member?_canonical, typeName, Kind.kindMember, List.lookup_cons]

theorem member?_index :
    node.toJson.canonical.member? "index" =
      node.index?.map fun index => .string index.display := by
  cases node with
  | text | param => simp [toJson, member?_canonical, index?, List.lookup_cons]
  | number index format =>
    cases format <;> simp [toJson, member?_canonical, index?, List.lookup_cons]
  | styled kind index styles =>
    cases kind <;> simp [toJson, member?_canonical, index?, Kind.kindMember, List.lookup_cons]

theorem member?_value (value : String) :
    (text value).toJson.canonical.member? "value" = some (.string value) := by
  simp [toJson, member?_canonical]

theorem member?_format (index : Index) (format : Option String) :
    (number index format).toJson.canonical.member? "format" = format.map .string := by
  cases format <;> simp [toJson, member?_canonical, List.lookup_cons]

/-- The member that tells anchor and link apart is the keyword. -/
theorem member?_kind (kind : Kind) (index : Index) (styles : List (Style Node)) :
    (styled kind index styles).toJson.canonical.member? "kind" =
      if kind.typeName = "anchor" then some (.string kind.keyword) else none := by
  cases kind <;>
    simp [toJson, member?_canonical, Kind.kindMember, Kind.typeName, Kind.keyword, List.lookup_cons]

theorem member?_styles (kind : Kind) (index : Index) (styles : List (Style Node)) :
    (styled kind index styles).toJson.canonical.member? "styles" =
      some (.array ((stylesToJson styles).map canonical)) := by
  cases kind <;> simp [toJson, member?_canonical, Kind.kindMember]

theorem member?_key (style : Style Node) :
    (styleToJson style).canonical.member? "key" = some (.string style.key) := by
  obtain ⟨key, items⟩ := style
  simp [styleToJson, member?_canonical, List.lookup_cons]

theorem member?_items (style : Style Node) :
    (styleToJson style).canonical.member? "items" =
      some (.array ((allToJson style.items).map canonical)) := by
  obtain ⟨key, items⟩ := style
  simp [styleToJson, member?_canonical]

/-! ## The tree is found again -/

/-- The nodes are the only ones with their JSON forms. -/
def Determined (nodes : List Node) : Prop :=
  ∀ others, (allToJson nodes).map canonical = (allToJson others).map canonical → nodes = others

theorem index?_eq (h : node.toJson.canonical = other.toJson.canonical) :
    node.index? = other.index? := by
  have hindex := congrArg (member? "index") h
  rw [member?_index, member?_index] at hindex
  refine Option.map_injective (fun a b hab => ?_) hindex
  exact Index.display_injective (Json.string.inj hab)

theorem typeName_eq (h : node.toJson.canonical = other.toJson.canonical) :
    node.typeName = other.typeName := by
  have htype := congrArg (member? "type") h
  rw [member?_type, member?_type] at htype
  exact Json.string.inj (Option.some.inj htype)

/-- The type and the keyword of an anchor tell the kinds apart. -/
theorem kind_eq {kind kind' : Kind} (htype : kind.typeName = kind'.typeName)
    (hkind : kind.typeName = "anchor" → kind.keyword = kind'.keyword) : kind = kind' := by
  cases kind <;> cases kind' <;> revert htype hkind <;> decide

/-- No token with styles has the type of one without. -/
theorem kind_typeName_ne (kind : Kind) :
    kind.typeName ≠ "param" ∧ kind.typeName ≠ "number" := by
  cases kind <;> decide

theorem styles_eq (hitems : ∀ style ∈ styles, Determined style.items) {others : List (Style Node)}
    (h : (stylesToJson styles).map canonical = (stylesToJson others).map canonical) :
    styles = others := by
  induction styles generalizing others with
  | nil =>
    cases others with
    | nil => rfl
    | cons other others => contradiction
  | cons style styles ih =>
    obtain ⟨hfirst, hrest⟩ := List.forall_mem_cons.mp hitems
    cases others with
    | nil => contradiction
    | cons other others =>
      obtain ⟨hstyle, hstyles⟩ := List.cons.inj h
      have hkey := congrArg (member? "key") hstyle
      rw [member?_key, member?_key] at hkey
      have hlist := congrArg (member? "items") hstyle
      rw [member?_items, member?_items] at hlist
      have hsame : style = other := by
        have hkeys : style.key = other.key := Json.string.inj (Option.some.inj hkey)
        have hnodes := hfirst other.items (Json.array.inj (Option.some.inj hlist))
        obtain ⟨key, items⟩ := style
        obtain ⟨key', items'⟩ := other
        rw [show key = key' from hkeys, show items = items' from hnodes]
      rw [hsame, ih hrest hstyles]

/-- A node is found again from its JSON form when the items of its styles are. -/
theorem eq_of_toJson (hitems : ∀ style ∈ node.styles, Determined style.items)
    (h : node.toJson.canonical = other.toJson.canonical) : node = other := by
  have htype := typeName_eq h
  have hindex := index?_eq h
  cases node with
  | text value =>
    cases other with
    | text value' =>
      have hvalue := congrArg (member? "value") h
      rw [member?_value, member?_value] at hvalue
      rw [Json.string.inj (Option.some.inj hvalue)]
    | param | number | styled => contradiction
  | param index =>
    cases other with
    | param index' => rw [Option.some.inj hindex]
    | text => contradiction
    | number => exact absurd (show "param" = "number" from htype) (by decide)
    | styled kind => exact absurd htype.symm (kind_typeName_ne kind).1
  | number index format =>
    cases other with
    | number index' format' =>
      have hformat := congrArg (member? "format") h
      rw [member?_format, member?_format] at hformat
      have hsame : format = format' := Option.map_injective (fun _ _ => Json.string.inj) hformat
      rw [Option.some.inj hindex, hsame]
    | text => contradiction
    | param => exact absurd (show "number" = "param" from htype) (by decide)
    | styled kind => exact absurd htype.symm (kind_typeName_ne kind).2
  | styled kind index styles =>
    cases other with
    | styled kind' index' styles' =>
      have hkind := congrArg (member? "kind") h
      rw [member?_kind, member?_kind] at hkind
      have hstyles := congrArg (member? "styles") h
      rw [member?_styles, member?_styles] at hstyles
      have hsame : kind = kind' := by
        have hsametype : kind.typeName = kind'.typeName := htype
        refine kind_eq hsametype fun hanchor => ?_
        rw [if_pos hanchor, if_pos (hsametype.symm.trans hanchor)] at hkind
        exact Json.string.inj (Option.some.inj hkind)
      have hlist : styles = styles' := styles_eq hitems (Json.array.inj (Option.some.inj hstyles))
      rw [hsame, Option.some.inj hindex, hlist]
    | text => contradiction
    | param => exact absurd htype (kind_typeName_ne kind).1
    | number => exact absurd htype (kind_typeName_ne kind).2

theorem determined (nodes : List Node) : Determined nodes := by
  induction nodes using Node.induction with
  | nil =>
    intro others h
    cases others with
    | nil => rfl
    | cons other others => contradiction
  | cons node rest hitems ih =>
    intro others h
    cases others with
    | nil => contradiction
    | cons other others =>
      obtain ⟨hnode, hrest⟩ := List.cons.inj h
      rw [eq_of_toJson hitems hnode, ih others hrest]

end Node

/-- Two templates have the same JSON value exactly when they are the same tree, whatever stands
in their texts, names, formats and keys. -/
theorem Template.toJson_canonical_inj (template other : Template) :
    template.toJson.canonical = other.toJson.canonical ↔ template = other := by
  constructor
  · intro h
    rw [Template.toJson, Template.toJson, Json.canonical_array, Json.canonical_array] at h
    exact Node.determined template other (Json.array.inj h)
  · rintro rfl
    rfl

end MessageTemplate
