import MessageTemplate.Proofs.Template.Tree
import MessageTemplate.Registry

/-!
# What the registry covers

The registry of a template has an entry for exactly the indices of the nodes that
occur in it.  Entries that are known beforehand keep out those of their own indices and
leave the others as they are, in their order.
-/

namespace MessageTemplate

namespace Registry

open Node

variable {node : Node} {nodes : List Node} {known others : List Token} {index : Index}

/-- An index has an entry. -/
def Covers (known : List Token) (index : Index) : Prop :=
  ∃ token ∈ known, token.index = index

theorem entry_index : (entry index node).index = index := by
  unfold entry
  split <;> rfl

theorem covers_add : Covers (add known node) index ↔
    Covers known index ∨ node.index? = some index := by
  unfold add
  cases hindex : node.index? with
  | none => simp
  | some other =>
    dsimp only
    split
    · next hany =>
      have hother : Covers known other := by simpa [Covers] using hany
      constructor
      · exact .inl
      · rintro (hknown | heq)
        · exact hknown
        · obtain rfl := Option.some.inj heq
          exact hother
    · simp only [Covers, List.mem_append, List.mem_singleton, or_and_right, exists_or,
        exists_eq_left, entry_index, Option.some.injEq]

/-- A node adds its own entry and then those of the items of its styles. -/
theorem collect_eq : collect known node = collectStyles (add known node) node.styles := by
  cases node <;> rfl

theorem covers_collectStyles {styles : List (Style Node)}
    (hitems : ∀ style ∈ styles, ∀ known, Covers (collectAll known style.items) index ↔
      Covers known index ∨ ∃ node, Node.Occurs node style.items ∧ node.index? = some index) :
    Covers (collectStyles known styles) index ↔
      Covers known index ∨
        ∃ node, (∃ style ∈ styles, Node.Occurs node style.items) ∧ node.index? = some index := by
  induction styles generalizing known with
  | nil => simp [collectStyles]
  | cons style rest ih =>
    obtain ⟨hfirst, hrest⟩ := List.forall_mem_cons.mp hitems
    obtain ⟨key, items⟩ := style
    rw [collectStyles, collectItems, ih hrest, hfirst]
    simp only [List.mem_cons, or_and_right, exists_or, exists_eq_left, or_assoc]

/-- The entries are those that are known and those of the nodes that occur. -/
theorem covers_collectAll : Covers (collectAll known nodes) index ↔
    Covers known index ∨ ∃ node, Node.Occurs node nodes ∧ node.index? = some index := by
  induction nodes using Node.induction generalizing known with
  | nil => simp [collectAll]
  | cons node rest hitems ih =>
    rw [collectAll, ih, collect_eq, covers_collectStyles fun style hstyle _ => hitems style hstyle,
      covers_add]
    simp only [occurs_cons, or_and_right, exists_or, exists_eq_left, or_assoc]

/-! ## Known entries -/

theorem add_of_covers (hindex : node.index? = some index) (h : Covers known index) :
    add known node = known := by
  have hany : known.any (·.index = index) = true := by simpa [Covers] using h
  rw [add, hindex]
  exact if_pos hany

theorem add_of_not_covers (hindex : node.index? = some index) (h : ¬Covers known index) :
    add known node = known ++ [entry index node] := by
  have hany : ¬known.any (·.index = index) = true := by simpa [Covers] using h
  rw [add, hindex]
  exact if_neg hany

/-- The index of the token has no entry among the known ones. -/
def isNew (known : List Token) (token : Token) : Bool :=
  token.index ∉ known.map Token.index

/-- The known entries and those of the others whose index is new. -/
def extend (known others : List Token) : List Token :=
  known ++ others.filter (isNew known)

theorem isNew_eq_true {token : Token} : isNew known token = true ↔ ¬Covers known token.index := by
  simp [isNew, Covers]

@[simp] theorem extend_nil : extend known [] = known :=
  List.append_nil known

theorem covers_extend :
    Covers (extend known others) index ↔ Covers known index ∨ Covers others index := by
  simp only [Covers, extend, List.mem_append, List.mem_filter, isNew_eq_true, or_and_right,
    exists_or]
  constructor
  · rintro (hknown | ⟨token, ⟨htoken, -⟩, hindex⟩)
    · exact .inl hknown
    · exact .inr ⟨token, htoken, hindex⟩
  · rintro (hknown | ⟨token, htoken, rfl⟩)
    · exact .inl hknown
    · by_cases hknown : Covers known token.index
      · exact .inl hknown
      · exact .inr ⟨token, ⟨htoken, hknown⟩, rfl⟩

theorem extend_concat_of_covers {token : Token} (h : Covers known token.index) :
    extend known (others ++ [token]) = extend known others := by
  have hold : ¬isNew known token = true := fun hnew => isNew_eq_true.mp hnew h
  simp [extend, hold]

theorem extend_concat_of_not_covers {token : Token} (h : ¬Covers known token.index) :
    extend known (others ++ [token]) = extend known others ++ [token] := by
  have hnew : isNew known token = true := isNew_eq_true.mpr h
  simp [extend, hnew]

/-- A node adds to the known entries what it adds to the others, if that is new. -/
theorem add_extend : add (extend known others) node = extend known (add others node) := by
  -- An entry that neither list has is added to both sides; one that either has to neither.
  cases hindex : node.index? with
  | none => simp only [add, hindex]
  | some index =>
    by_cases hothers : Covers others index
    · rw [add_of_covers hindex hothers,
        add_of_covers hindex (covers_extend.mpr (.inr hothers))]
    · rw [add_of_not_covers hindex hothers]
      by_cases hknown : Covers known index
      · rw [add_of_covers hindex (covers_extend.mpr (.inl hknown)),
          extend_concat_of_covers (entry_index.symm ▸ hknown)]
      · have hneither : ¬Covers (extend known others) index :=
          fun h => (covers_extend.mp h).elim hknown hothers
        rw [add_of_not_covers hindex hneither,
          extend_concat_of_not_covers (entry_index.symm ▸ hknown)]

theorem collectStyles_extend {styles : List (Style Node)}
    (hitems : ∀ style ∈ styles, ∀ others, collectAll (extend known others) style.items =
      extend known (collectAll others style.items)) :
    collectStyles (extend known others) styles = extend known (collectStyles others styles) := by
  induction styles generalizing others with
  | nil => rfl
  | cons style rest ih =>
    obtain ⟨hstyle, hrest⟩ := List.forall_mem_cons.mp hitems
    obtain ⟨key, items⟩ := style
    rw [collectStyles, collectStyles, collectItems, collectItems, hstyle, ih hrest]

/-- What is known beforehand keeps out the entries of its indices and changes no other. -/
theorem collectAll_extend :
    collectAll (extend known others) nodes = extend known (collectAll others nodes) := by
  induction nodes using Node.induction generalizing others with
  | nil => rfl
  | cons node rest hitems ih =>
    rw [collectAll, collectAll, collect_eq, collect_eq, add_extend,
      collectStyles_extend fun style hstyle _ => hitems style hstyle, ih]

/-- Nodes add to the known entries those of their own registry whose index is new. -/
theorem collectAll_eq_extend : collectAll known nodes = extend known (collectAll [] nodes) := by
  rw [← collectAll_extend, extend_nil]

end Registry

/-- The registry has an entry for exactly the indices of the nodes that occur. -/
theorem Template.covers_tokens {template : Template} {index : Index} :
    Registry.Covers template.tokens index ↔
      ∃ node, Node.Occurs node template ∧ node.index? = some index := by
  rw [tokens, Registry.covers_collectAll]
  simp [Registry.Covers]

end MessageTemplate
