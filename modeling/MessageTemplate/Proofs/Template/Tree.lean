import MessageTemplate.Template

/-!
# Nodes at any depth

A node occurs in a list of nodes when it stands in the list or in the items of a
style of a node of the list, at any depth.  What is proved of all lists of nodes goes
by one induction: over the list, and over the items of the styles of its first node.
-/

namespace MessageTemplate.Node

/-! ## Induction -/

/-- Induction over the lists of nodes of a tree. -/
@[elab_as_elim]
theorem induction {motive : List Node → Prop} (nil : motive [])
    (cons : ∀ node rest, (∀ style ∈ node.styles, motive style.items) → motive rest →
      motive (node :: rest)) (nodes : List Node) : motive nodes :=
  @Node.rec_3 (fun node => ∀ style ∈ node.styles, motive style.items)
    (fun styles => ∀ style ∈ styles, motive style.items) (fun style => motive style.items) motive
    (fun _ _ hmem => absurd hmem List.not_mem_nil)
    (fun _ _ hmem => absurd hmem List.not_mem_nil)
    (fun _ _ _ hmem => absurd hmem List.not_mem_nil)
    (fun _ _ _ hstyles => hstyles)
    (fun _ hmem => absurd hmem List.not_mem_nil)
    (fun _ _ hstyle hrest => List.forall_mem_cons.mpr ⟨hstyle, hrest⟩)
    (fun _ _ hitems => hitems) nil cons nodes

/-! ## Occurrences -/

/-- The node stands in the list, at any depth. -/
inductive Occurs (node : Node) : List Node → Prop where
  | here {nodes : List Node} (hnode : node ∈ nodes) : Occurs node nodes
  | inside {outer : Node} {style : Style Node} {nodes : List Node} (houter : outer ∈ nodes)
      (hstyle : style ∈ outer.styles) (hitems : Occurs node style.items) : Occurs node nodes

variable {node outer : Node} {rest : List Node}

theorem Occurs.tail (h : node.Occurs rest) : node.Occurs (outer :: rest) := by
  cases h with
  | here hnode => exact .here (List.mem_cons_of_mem _ hnode)
  | inside houter hstyle hitems => exact .inside (List.mem_cons_of_mem _ houter) hstyle hitems

/-- A node occurs in a list as its first node, in a style of that node or behind it. -/
theorem occurs_cons : node.Occurs (outer :: rest) ↔
    node = outer ∨ (∃ style ∈ outer.styles, node.Occurs style.items) ∨ node.Occurs rest := by
  constructor
  · intro h
    cases h with
    | here hnode =>
      rcases List.mem_cons.mp hnode with hnode | hnode
      · exact .inl hnode
      · exact .inr (.inr (.here hnode))
    | inside houter hstyle hitems =>
      rcases List.mem_cons.mp houter with rfl | houter
      · exact .inr (.inl ⟨_, hstyle, hitems⟩)
      · exact .inr (.inr (.inside houter hstyle hitems))
  · rintro (rfl | ⟨style, hstyle, hitems⟩ | hrest)
    · exact .here List.mem_cons_self
    · exact .inside List.mem_cons_self hstyle hitems
    · exact hrest.tail

@[simp] theorem not_occurs_nil : ¬node.Occurs [] := by
  intro h
  cases h with
  | here hnode => exact absurd hnode List.not_mem_nil
  | inside houter _ _ => exact absurd houter List.not_mem_nil

end MessageTemplate.Node
