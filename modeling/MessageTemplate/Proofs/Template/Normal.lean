import MessageTemplate.Proofs.Template.Acceptance
import MessageTemplate.Proofs.Template.Tree

/-!
# Normal form

A list of nodes is in normal form when no text in it is empty and no two texts
stand next to each other.  `normal` brings a tree into normal form at every depth:
it drops the empty texts and fuses the adjacent ones.

Literal text may be put in front of any text that derives a list of nodes: the
list that is derived then begins with the fused text.
-/

namespace MessageTemplate

open Text Reader Grammar

namespace Node

/-! ## Fusing texts -/

/-- Puts a text in front of a list, as part of the text that the list begins with
if there is one. -/
def fuse (value : String) : List Node → List Node
  | text other :: rest => text (value ++ other) :: rest
  | nodes => text value :: nodes

/-- Puts a node in front of a list in normal form. -/
def prepend : Node → List Node → List Node
  | text value, nodes => if value = "" then nodes else fuse value nodes
  | node, nodes => node :: nodes

mutual

/-- The node with the items of its styles in normal form. -/
def normal : Node → Node
  | styled kind index styles => styled kind index (normalStyles styles)
  | node => node

/-- The styles with their items in normal form. -/
def normalStyles : List (Style Node) → List (Style Node)
  | [] => []
  | style :: rest => normalStyle style :: normalStyles rest

/-- The style with its items in normal form. -/
def normalStyle : Style Node → Style Node
  | ⟨key, items⟩ => ⟨key, normalAll items⟩

/-- The normal form of a list of nodes. -/
def normalAll : List Node → List Node
  | [] => []
  | node :: rest => prepend (normal node) (normalAll rest)

end

variable {node : Node} {nodes : List Node} {value : String}

@[simp] theorem fuse_nil : fuse value [] = [.text value] := rfl

@[simp] theorem fuse_text {other : String} :
    fuse value (.text other :: nodes) = .text (value ++ other) :: nodes := rfl

theorem fuse_of_not_text (h : node.isText = false) :
    fuse value (node :: nodes) = .text value :: node :: nodes := by
  cases node with
  | text => contradiction
  | param | number | styled => rfl

theorem prepend_of_not_text (h : node.isText = false) : prepend node nodes = node :: nodes := by
  cases node with
  | text => contradiction
  | param | number | styled => rfl

@[simp] theorem normal_text : (text value).normal = text value := rfl

@[simp] theorem isText_normal : node.normal.isText = node.isText := by
  cases node <;> rfl

/-! ## Normal form keeps the nesting -/

@[simp] theorem nestingAll_cons :
    nestingAll (node :: nodes) = max node.nesting (nestingAll nodes) := rfl

@[simp] theorem nesting_text : (text value).nesting = 0 := rfl

@[simp] theorem nestingAll_fuse : nestingAll (fuse value nodes) = nestingAll nodes := by
  unfold fuse
  split <;> simp

theorem nestingAll_prepend :
    nestingAll (prepend node nodes) = max node.nesting (nestingAll nodes) := by
  cases node with
  | text value =>
    rw [prepend]
    split <;> simp
  | param | number | styled => rfl

theorem nestingStyles_normal {styles : List (Style Node)}
    (h : ∀ style ∈ styles, nestingAll (normalAll style.items) = nestingAll style.items) :
    nestingStyles (normalStyles styles) = nestingStyles styles := by
  induction styles with
  | nil => rfl
  | cons style rest ih =>
    obtain ⟨hstyle, hrest⟩ := List.forall_mem_cons.mp h
    obtain ⟨key, items⟩ := style
    rw [normalStyles, nestingStyles, nestingStyles, ih hrest, normalStyle, nestingItems,
      nestingItems, hstyle]

theorem nesting_normal
    (h : ∀ style ∈ node.styles, nestingAll (normalAll style.items) = nestingAll style.items) :
    node.normal.nesting = node.nesting := by
  cases node with
  | text | param | number => rfl
  | styled kind index styles => exact nestingStyles_normal h

theorem nestingAll_normal (nodes : List Node) :
    nestingAll (normalAll nodes) = nestingAll nodes := by
  induction nodes using Node.induction with
  | nil => rfl
  | cons node rest hitems ih =>
    rw [normalAll, nestingAll_prepend, nesting_normal hitems, ih, nestingAll_cons]

end Node

/-- The normal form of a template. -/
def Template.normal (template : Template) : Template :=
  Node.normalAll template

/-! ## Literal text in front -/

namespace Grammar

variable {outermost : Bool} {s t : List Char} {node : Node} {nodes : List Node} {value : String}

/-- A token is no text. -/
theorem Derives.isText_of_token (h : Derives t (.token node)) : node.isText = false := by
  cases h <;> rfl

/-- Literal text in front of a text that cannot continue it is a node of its own. -/
theorem Derives.fuse_of_stops (h : Derives s (.nodes outermost nodes))
    (hs : Stops (isLiteral outermost) s) : Node.fuse value nodes = .text value :: nodes := by
  cases h with
  | empty => rfl
  | @text _ w s nodes hne hw _ _ =>
    obtain ⟨c, w, rfl⟩ := List.exists_cons_of_ne_nil hne
    have hc : isLiteral outermost c = true := (only_cons.mp hw).1
    rw [List.cons_append, stops_cons, hc] at hs
    contradiction
  | token ht _ => exact Node.fuse_of_not_text ht.isText_of_token

/-- Literal text in front of a list of nodes becomes part of its first text. -/
theorem Derives.fuse (hne : value ≠ "") (hvalue : Only (isLiteral outermost) value.toList)
    (h : Derives s (.nodes outermost nodes)) :
    Derives (value.toList ++ s) (.nodes outermost (Node.fuse value nodes)) := by
  have hne' : value.toList ≠ [] := fun hnil => hne (String.toList_eq_nil_iff.mp hnil)
  cases h with
  | empty =>
    have h := Derives.text hne' hvalue stops_nil (.empty : Derives [] (.nodes outermost []))
    rwa [String.ofList_toList] at h
  | @text _ w s nodes hne hw hs hnodes =>
    have h := Derives.text (w := value.toList ++ w) (by simp [hne]) (only_append.mpr ⟨hvalue, hw⟩)
      hs hnodes
    rwa [String.ofList_append, String.ofList_toList, List.append_assoc] at h
  | token ht hnodes =>
    have h := Derives.text hne' hvalue ht.stops_of_token (.token ht hnodes)
    rwa [String.ofList_toList, ← Node.fuse_of_not_text ht.isText_of_token] at h

/-- Literal text in front of a list of nodes, which may be empty. -/
theorem Derives.prepend_text (hvalue : Only (isLiteral outermost) value.toList)
    (h : Derives s (.nodes outermost nodes)) :
    Derives (value.toList ++ s) (.nodes outermost (Node.prepend (.text value) nodes)) := by
  rw [Node.prepend]
  split
  · next hempty =>
    subst hempty
    exact h
  · next hne => exact h.fuse hne hvalue

end Grammar

end MessageTemplate
