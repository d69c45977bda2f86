import MessageTemplate.Proofs.Registry
import MessageTemplate.Proofs.Text.Run
import Mathlib.Data.List.Induction
import Mathlib.Data.List.Nodup

/-!
# First occurrences in document order

The registry walks the tree with the entries that it has so far, and a style deep inside one
node may add an entry that keeps out a later node elsewhere.  Written as a list in document
order the tree has no depth any more: the walk adds the nodes of the list one after the
other, and what it comes to is read off the list.  The entry of an index describes the first
node of the list that reads it, and the entries stand in the order of these nodes.

`Describes` says what an entry holds for each kind of node.
-/

namespace MessageTemplate

/-- The tokens of a template in document order: a token stands in front of the tokens in its
styles, and those stand in the order of the styles. -/
def Template.readers (template : Template) : List Node :=
  (template.outline.map Prod.snd).filter (!·.isText)

/-! ## Full names -/

theorem Index.display_injective : Function.Injective Index.display := by
  -- A position is read back from its digits, and a name is told from it by the colon.
  have hread (n : Nat) : Nat.ofDigitChars 10 n.repr.toList 0 = n := by
    rw [Nat.toList_repr, Nat.ofDigitChars_toDigits (by decide) (by decide)]
  have hne (n : Nat) (name : String) : n.repr ≠ ":" ++ name := by
    intro h
    have hcolon : ':' ∈ Nat.toDigits 10 n := by
      rw [← Nat.toList_repr, h, String.toList_append]
      exact .head _
    exact absurd (Text.only_toDigits n ':' hcolon) (by decide)
  intro a b h
  cases a with
  | position m =>
    cases b with
    | position n => rw [← hread m, ← hread n, show m.repr = n.repr from h]
    | named name => exact absurd h (hne m name)
  | named name =>
    cases b with
    | position n => exact absurd h.symm (hne n name)
    | named other => exact congrArg Index.named ((String.append_right_inj ":").mp h)

theorem Index.fullName_injective : Function.Injective Index.fullName := fun _ _ h =>
  display_injective ((String.append_right_inj _).mp ((String.append_left_inj _).mp h))

namespace Registry

open Node

variable {node : Node} {nodes : List Node} {known : List Token} {index : Index}

/-! ## What an entry holds -/

/-- The entry is that of the node: its index, and what the node dispatches on.  The contexts
of a choice are those whose words its keys mention, and plural forms when they mention none. -/
inductive Describes : Node → Token → Prop where
  | param {index : Index} : Describes (.param index) ⟨index.fullName, index, [], [], []⟩
  | number {index : Index} {format : Option String} :
      Describes (.number index format) ⟨index.fullName, index, [.number], [], []⟩
  | choice {index : Index} {styles : List (Style Node)} {contexts : List RuleContext}
      (hnumber : .number ∈ contexts ↔ (∃ style ∈ styles, style.key ∈ numberWords) ∨
        ∀ style ∈ styles, style.key ∉ genderWords)
      (hgender : .gender ∈ contexts ↔ ∃ style ∈ styles, style.key ∈ genderWords)
      (horder : contexts.Sublist [.number, .gender]) :
      Describes (.styled .choice index styles)
        ⟨index.fullName, index, contexts, styles.map Style.key, []⟩
  | map {index : Index} {styles : List (Style Node)} :
      Describes (.styled .map index styles)
        ⟨index.fullName, index, [], [], styles.map Style.key⟩
  | anchor {kind : Kind} {index : Index} {styles : List (Style Node)}
      (hkind : kind = .anchor ∨ kind = .link) :
      Describes (.styled kind index styles) ⟨index.fullName, index, [], [], []⟩

theorem number_mem_choiceContexts {styles : List (Style Node)} :
    .number ∈ choiceContexts (styles.map Style.key) ↔
      (∃ style ∈ styles, style.key ∈ numberWords) ∨ ∀ style ∈ styles, style.key ∉ genderWords := by
  simp [choiceContexts]

theorem gender_mem_choiceContexts {styles : List (Style Node)} :
    .gender ∈ choiceContexts (styles.map Style.key) ↔
      ∃ style ∈ styles, style.key ∈ genderWords := by
  simp [choiceContexts]

theorem choiceContexts_sublist (keys : List String) :
    (choiceContexts keys).Sublist [.number, .gender] := by
  unfold choiceContexts
  dsimp only
  split <;> split <;> decide

theorem describes_entry (h : node.index? = some index) : Describes node (entry index node) := by
  cases node with
  | text value => contradiction
  | param other =>
    obtain rfl := Option.some.inj h
    exact .param
  | number other format =>
    obtain rfl := Option.some.inj h
    exact .number
  | styled kind other styles =>
    obtain rfl := Option.some.inj h
    cases kind with
    | choice =>
      refine .choice ?_ ?_ (choiceContexts_sublist _)
      · exact number_mem_choiceContexts
      · exact gender_mem_choiceContexts
    | map => exact .map
    | anchor => exact .anchor (.inl rfl)
    | link => exact .anchor (.inr rfl)

theorem Describes.fullName {token : Token} (h : Describes node token) :
    token.fullName = token.index.fullName := by
  cases h <;> rfl

theorem Describes.index? {token : Token} (h : Describes node token) :
    node.index? = some token.index := by
  cases h <;> rfl

/-! ## The walk as a list -/

theorem add_text (h : node.isText = true) : add known node = known := by
  cases node with
  | text value => rfl
  | param | number | styled => contradiction

/-- The outline of a node is the node and the outlines of its styles. -/
theorem outline_eq (depth : Nat) :
    node.outline depth = (depth, node) :: outlineStyles (depth + 1) node.styles := by
  cases node <;> rfl

theorem collectStyles_eq_foldl {depth : Nat} {styles : List (Style Node)}
    (hitems : ∀ style ∈ styles, ∀ known, collectAll known style.items =
      ((outlineAll depth style.items).map Prod.snd).foldl add known) :
    collectStyles known styles = ((outlineStyles depth styles).map Prod.snd).foldl add known := by
  induction styles generalizing known with
  | nil => rfl
  | cons style rest ih =>
    obtain ⟨hstyle, hrest⟩ := List.forall_mem_cons.mp hitems
    obtain ⟨key, items⟩ := style
    rw [collectStyles, collectItems, ih hrest, hstyle, outlineStyles, outlineStyle,
      List.map_append, List.foldl_append]

/-- The walk over a tree adds its nodes in document order. -/
theorem collectAll_eq_foldl (depth : Nat) :
    collectAll known nodes = ((outlineAll depth nodes).map Prod.snd).foldl add known := by
  induction nodes using Node.induction generalizing known depth with
  | nil => rfl
  | cons node rest hitems ih =>
    have hstyles (known : List Token) : collectStyles known node.styles =
        ((outlineStyles (depth + 1) node.styles).map Prod.snd).foldl add known :=
      collectStyles_eq_foldl fun style hstyle _ => hitems style hstyle (depth + 1)
    rw [collectAll, ih depth, collect_eq, hstyles, outlineAll, outline_eq, List.cons_append,
      List.map_cons, List.map_append, List.foldl_cons, List.foldl_append]

theorem tokens_eq_foldl (template : Template) :
    template.tokens = template.readers.foldl add [] := by
  have hskip : (fun known node => if !node.isText then add known node else known) = add := by
    funext known node
    cases htext : node.isText with
    | false => rfl
    | true => exact (add_text htext).symm
  rw [Template.tokens, collectAll_eq_foldl 0, Template.readers, List.foldl_filter, hskip]
  rfl

/-! ## The walk over a list -/

/-- One more value counts among the first occurrences unless it occurs already. -/
theorem eraseDups_concat {α : Type} [DecidableEq α] (values : List α) (a : α) :
    (values ++ [a]).eraseDups =
      if a ∈ values then values.eraseDups else values.eraseDups ++ [a] := by
  rw [List.eraseDups_append, List.removeAll]
  by_cases h : a ∈ values <;> simp [h, List.eraseDups_cons]

/-- The token describes the first node of the list that reads its index. -/
def DescribesFirst (nodes : List Node) (token : Token) : Prop :=
  ∃ before node after, nodes = before ++ node :: after ∧ Describes node token ∧
    ∀ other ∈ before, other.index? ≠ some token.index

/-- The indices of the entries are those of the list, each where it occurs first, and each
entry describes the first node that reads its index. -/
structure Registers (nodes : List Node) (known : List Token) : Prop where
  indices : known.map Token.index = (nodes.filterMap Node.index?).eraseDups
  nodup : (known.map Token.index).Nodup
  first : ∀ token ∈ known, DescribesFirst nodes token

theorem registers_nil : Registers [] [] :=
  ⟨rfl, List.nodup_nil, fun _ h => absurd h List.not_mem_nil⟩

/-- Nodes behind a list change nothing for the indices that the list reads. -/
theorem DescribesFirst.append {token : Token} (h : DescribesFirst nodes token)
    (others : List Node) : DescribesFirst (nodes ++ others) token := by
  obtain ⟨before, node, after, rfl, hnode, hbefore⟩ := h
  exact ⟨before, node, after ++ others, by simp, hnode, hbefore⟩

theorem Registers.covers (h : Registers nodes known) :
    Covers known index ↔ index ∈ nodes.filterMap Node.index? := by
  rw [← List.mem_eraseDups, ← h.indices]
  simp [Covers]

/-- One more node adds its entry when its index is new, and nothing otherwise. -/
theorem Registers.add (h : Registers nodes known) (node : Node) :
    Registers (nodes ++ [node]) (add known node) := by
  have hold : ∀ token ∈ known, DescribesFirst (nodes ++ [node]) token :=
    fun token htoken => (h.first token htoken).append [node]
  cases hindex : node.index? with
  | none =>
    have hindices : (nodes ++ [node]).filterMap Node.index? = nodes.filterMap Node.index? := by
      simp [hindex]
    have hadd : Registry.add known node = known := by rw [Registry.add, hindex]
    rw [hadd]
    exact ⟨hindices ▸ h.indices, h.nodup, hold⟩
  | some index =>
    have hindices : (nodes ++ [node]).filterMap Node.index? =
        nodes.filterMap Node.index? ++ [index] := by
      simp [hindex]
    by_cases hcovers : Covers known index
    · rw [add_of_covers hindex hcovers]
      refine ⟨?_, h.nodup, hold⟩
      rw [hindices, eraseDups_concat, if_pos (h.covers.mp hcovers)]
      exact h.indices
    · have hnew : index ∉ nodes.filterMap Node.index? := fun hmem => hcovers (h.covers.mpr hmem)
      rw [add_of_not_covers hindex hcovers]
      refine ⟨?_, ?_, fun token htoken => ?_⟩
      · rw [hindices, eraseDups_concat, if_neg hnew, List.map_append, h.indices]
        simp [entry_index]
      · have hfresh : index ∉ known.map Token.index := by simpa [Covers] using hcovers
        rw [List.map_append, List.map_singleton, entry_index, ← List.concat_eq_append,
          List.nodup_concat]
        exact ⟨hfresh, h.nodup⟩
      · rcases List.mem_append.mp htoken with htoken | htoken
        · exact hold token htoken
        · obtain rfl := List.mem_singleton.mp htoken
          refine ⟨nodes, node, [], rfl, describes_entry hindex, fun other hother hread => ?_⟩
          rw [entry_index] at hread
          exact hnew (List.mem_filterMap.mpr ⟨other, hother, hread⟩)

theorem registers_foldl (nodes : List Node) : Registers nodes (nodes.foldl Registry.add []) := by
  induction nodes using List.reverseRecOn with
  | nil => exact registers_nil
  | append_singleton nodes node ih =>
    rw [List.foldl_concat]
    exact ih.add node

end Registry

/-- The registry has one entry for each index that the tokens of a template read, in the order
in which the indices occur first.  An entry describes the first token with its index, whatever
stands behind that token, and no two entries have the same name. -/
theorem Template.tokens_first_occurrence (template : Template) :
    template.tokens.map Token.index = (template.readers.filterMap Node.index?).eraseDups ∧
    (∀ token ∈ template.tokens, Registry.DescribesFirst template.readers token) ∧
    (template.tokens.map Token.fullName).Nodup := by
  have h := Registry.registers_foldl template.readers
  rw [← Registry.tokens_eq_foldl] at h
  refine ⟨h.indices, h.first, ?_⟩
  have hnames : template.tokens.map Token.fullName =
      (template.tokens.map Token.index).map Index.fullName := by
    rw [List.map_map]
    refine List.map_congr_left fun token htoken => ?_
    obtain ⟨_, _, _, _, hnode, _⟩ := h.first token htoken
    exact hnode.fullName
  rw [hnames]
  exact List.Nodup.map Index.fullName_injective h.nodup

/-- The map inside the choice comes first for its index, and the choice for its own. -/
theorem Template.tokens_first_occurrence_mapInChoice :
    let template : Template :=
      [.styled .choice (.position 0)
        [⟨"one", [.styled .map (.named "n") [⟨"x", [.number (.position 0) none]⟩]]⟩, ⟨"other", []⟩],
       .number (.named "n") none]
    let choice : Token := ⟨"\x7b0\x7d", .position 0, [.number], ["one", "other"], []⟩
    let map : Token := ⟨"\x7b:n\x7d", .named "n", [], [], ["x"]⟩
    template.tokens = [choice, map] ∧ Registry.DescribesFirst template.readers choice ∧
      Registry.DescribesFirst template.readers map := by
  intro template choice map
  have htokens : template.tokens = [choice, map] := by decide
  obtain ⟨-, hfirst, -⟩ := Template.tokens_first_occurrence template
  rw [htokens] at hfirst
  exact ⟨htokens, hfirst choice (.head _), hfirst map (.tail _ (.head _))⟩

end MessageTemplate
