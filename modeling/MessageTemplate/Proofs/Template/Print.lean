import MessageTemplate.Proofs.Template.Normal

/-!
# Printing templates

`print` writes a tree in the obvious way, with no blanks and nothing left out.
`Printable` says of which trees the text can be read again: every index, format,
key and text must be what the grammar has a text for.  The text of a printable
tree derives the normal form of the tree, and what derives is printable and in
normal form, so reading and printing are inverse to each other on normal forms.
-/

namespace MessageTemplate

open Text Reader Grammar

/-! ## The text of a tree -/

namespace Node

mutual

/-- The text of a node. -/
def print : Node → String
  | text value => value
  | param index => index.fullName
  | number index none => "\x7b" ++ index.display ++ ",number\x7d"
  | number index (some format) => "\x7b" ++ index.display ++ ",number," ++ format ++ "\x7d"
  | styled kind index styles =>
    "\x7b" ++ index.display ++ "," ++ kind.keyword ++
      (if styles.isEmpty then "" else "," ++ printStyles styles) ++ "\x7d"

/-- The texts of styles with the marks between them. -/
def printStyles : List (Style Node) → String
  | [] => ""
  | [style] => printStyle style
  | style :: rest => printStyle style ++ "|" ++ printStyles rest

/-- The text of a style. -/
def printStyle : Style Node → String
  | ⟨key, items⟩ => key ++ "#" ++ printAll items

/-- The texts of nodes one after the other. -/
def printAll : List Node → String
  | [] => ""
  | node :: rest => print node ++ printAll rest

end

end Node

/-- The text of a template. -/
def Template.print (template : Template) : String :=
  Node.printAll template

/-! ## Printable trees -/

/-- A word of name characters. -/
structure IsName (name : String) : Prop where
  ne : name ≠ ""
  only : Only isNameChar name.toList

/-- A word that can stand as the key of a style. -/
structure IsKey (key : String) : Prop where
  ne : key ≠ ""
  only : Only isKeyChar key.toList
  /-- A blank in front would be skipped. -/
  first : Stops isAsciiBlank key.toList
  /-- White space at the end would be dropped. -/
  last : Trimmed key.toList

/-- An index that has a text. -/
def Index.Printable : Index → Prop
  | position n => n < UInt64.size
  | named name => IsName name

namespace Node

mutual

/-- A node that has a text, outside of all styles or inside one. -/
def Printable (outermost : Bool) : Node → Prop
  | text value => Only (isLiteral outermost) value.toList
  | param index => index.Printable
  | number index format => index.Printable ∧ ∀ name ∈ format, IsName name
  | styled kind index styles =>
    index.Printable ∧ (kind = .choice ∨ kind = .map → styles ≠ []) ∧ PrintableStyles styles

/-- Styles that have a text. -/
def PrintableStyles : List (Style Node) → Prop
  | [] => True
  | style :: rest => PrintableStyle style ∧ PrintableStyles rest

/-- A style that has a text. -/
def PrintableStyle : Style Node → Prop
  | ⟨key, items⟩ => IsKey key ∧ PrintableAll false items

/-- Nodes that have a text. -/
def PrintableAll (outermost : Bool) : List Node → Prop
  | [] => True
  | node :: rest => Printable outermost node ∧ PrintableAll outermost rest

end

end Node

/-- A template that has a text. -/
def Template.Printable (template : Template) : Prop :=
  Node.PrintableAll true template

namespace Node

variable {node outer : Node} {nodes : List Node} {style : Style Node}

theorem PrintableAll.of_mem {outermost : Bool} (h : PrintableAll outermost nodes)
    (hnode : node ∈ nodes) : node.Printable outermost := by
  induction nodes with
  | nil => exact absurd hnode List.not_mem_nil
  | cons first rest ih =>
    rcases List.mem_cons.mp hnode with rfl | hnode
    · exact h.1
    · exact ih h.2 hnode

theorem PrintableStyles.of_mem {styles : List (Style Node)} (h : PrintableStyles styles)
    (hstyle : style ∈ styles) : PrintableAll false style.items := by
  induction styles with
  | nil => exact absurd hstyle List.not_mem_nil
  | cons first rest ih =>
    obtain ⟨key, items⟩ := first
    rcases List.mem_cons.mp hstyle with rfl | hstyle
    · exact h.1.2
    · exact ih h.2 hstyle

/-- The items of the styles of a printable node are printable. -/
theorem Printable.items {outermost : Bool} (h : outer.Printable outermost)
    (hstyle : style ∈ outer.styles) : PrintableAll false style.items := by
  cases outer with
  | text | param | number => exact absurd hstyle List.not_mem_nil
  | styled kind index styles => exact h.2.2.of_mem hstyle

/-- The index of a printable token has a text. -/
theorem Printable.index {outermost : Bool} {index : Index} (h : node.Printable outermost)
    (hindex : node.index? = some index) : index.Printable := by
  cases node with
  | text => contradiction
  | param => exact Option.some.inj hindex ▸ h
  | number | styled => exact Option.some.inj hindex ▸ h.1

/-- Every node of a printable list is printable where it stands. -/
theorem Occurs.printable {outermost : Bool} (h : node.Occurs nodes)
    (hnodes : PrintableAll outermost nodes) : ∃ outermost, node.Printable outermost := by
  induction h generalizing outermost with
  | here hnode => exact ⟨outermost, hnodes.of_mem hnode⟩
  | inside houter hstyle _ ih => exact ih ((hnodes.of_mem houter).items hstyle)

end Node

/-! ## Whether a tree is printable can be computed -/

instance (name : String) : Decidable (IsName name) :=
  decidable_of_iff (name ≠ "" ∧ Only isNameChar name.toList)
    ⟨fun ⟨hne, honly⟩ => ⟨hne, honly⟩, fun h => ⟨h.ne, h.only⟩⟩

instance (key : String) : Decidable (IsKey key) :=
  decidable_of_iff
    (key ≠ "" ∧ Only isKeyChar key.toList ∧ Stops isAsciiBlank key.toList ∧ Trimmed key.toList)
    ⟨fun ⟨hne, honly, hfirst, hlast⟩ => ⟨hne, honly, hfirst, hlast⟩,
      fun h => ⟨h.ne, h.only, h.first, h.last⟩⟩

instance : (index : Index) → Decidable index.Printable
  | .position n => inferInstanceAs (Decidable (n < UInt64.size))
  | .named name => inferInstanceAs (Decidable (IsName name))

namespace Node

mutual

def decidePrintable (outermost : Bool) : (node : Node) → Decidable (node.Printable outermost)
  | text value => inferInstanceAs (Decidable (Only (isLiteral outermost) value.toList))
  | param index => inferInstanceAs (Decidable index.Printable)
  | number index format =>
    inferInstanceAs (Decidable (index.Printable ∧ ∀ name ∈ format, IsName name))
  | styled kind index styles =>
    have := decidePrintableStyles styles
    inferInstanceAs (Decidable
      (index.Printable ∧ (kind = .choice ∨ kind = .map → styles ≠ []) ∧ PrintableStyles styles))

def decidePrintableStyles : (styles : List (Style Node)) → Decidable (PrintableStyles styles)
  | [] => isTrue trivial
  | style :: rest =>
    have := decidePrintableStyle style
    have := decidePrintableStyles rest
    inferInstanceAs (Decidable (PrintableStyle style ∧ PrintableStyles rest))

def decidePrintableStyle : (style : Style Node) → Decidable (PrintableStyle style)
  | ⟨key, items⟩ =>
    have := decidePrintableAll false items
    inferInstanceAs (Decidable (IsKey key ∧ PrintableAll false items))

def decidePrintableAll (outermost : Bool) :
    (nodes : List Node) → Decidable (PrintableAll outermost nodes)
  | [] => isTrue trivial
  | node :: rest =>
    have := decidePrintable outermost node
    have := decidePrintableAll outermost rest
    inferInstanceAs (Decidable (node.Printable outermost ∧ PrintableAll outermost rest))

end

end Node

instance (template : Template) : Decidable template.Printable :=
  Node.decidePrintableAll true template

/-! ## The text derives the tree -/

namespace Grammar

variable {index : Index} {key : String}

/-- The display form of an index is one of its texts. -/
theorem indexText_display (h : index.Printable) : IndexText index index.display.toList := by
  cases index with
  | position n =>
    have hdigits : Only Char.isDigit n.repr.toList := by
      rw [Nat.toList_repr]
      exact only_toDigits n
    have hvalue : Nat.ofDigitChars 10 n.repr.toList 0 = n := by simp
    have hbound : Nat.ofDigitChars 10 n.repr.toList 0 < UInt64.size := by
      rw [hvalue]
      exact h
    have hindex := IndexText.position (by simp) hdigits hbound
    rwa [hvalue] at hindex
  | named name =>
    have hname : IndexText (.named (String.ofList name.toList)) (':' :: name.toList) :=
      .named (by simp [h.ne]) h.only
    simpa [Index.display] using hname

theorem opening_display (h : index.Printable) : Opening index ('\x7b' :: index.display.toList) := by
  simpa using Opening.mk only_nil (indexText_display h) only_nil

theorem typedOpening_display (keyword : String) (h : index.Printable) :
    TypedOpening index keyword ('\x7b' :: (index.display.toList ++ ',' :: keyword.toList)) := by
  have ho : TypedOpening index keyword
      ('\x7b' :: index.display.toList ++ ',' :: ([] ++ keyword.toList ++ [])) :=
    .mk (opening_display h) only_nil only_nil
  simpa using ho

theorem keyText_of_isKey (h : IsKey key) : KeyText key (key.toList ++ ['#']) := by
  have hkey := KeyText.mk only_nil (by simp [h.ne]) h.only h.first h.last only_nil
  simpa using hkey

/-- The text of printable styles derives their normal form when the texts of their items
do. -/
theorem derives_printStyles {styles : List (Style Node)} (hne : styles ≠ [])
    (h : Node.PrintableStyles styles)
    (hitems : ∀ style ∈ styles, Node.PrintableAll false style.items →
      Derives (Node.printAll style.items).toList (.nodes false (Node.normalAll style.items))) :
    Derives (Node.printStyles styles).toList (.styles (Node.normalStyles styles)) := by
  induction styles with
  | nil => contradiction
  | cons style rest ih =>
    obtain ⟨hfirst, hothers⟩ := List.forall_mem_cons.mp hitems
    obtain ⟨key, items⟩ := style
    have hkey := keyText_of_isKey h.1.1
    have hitem := hfirst h.1.2
    cases rest with
    | nil =>
      have hstyle := Derives.lastStyle hkey hitem
      simpa [Node.printStyles, Node.printStyle, Node.normalStyles, Node.normalStyle] using hstyle
    | cons next rest =>
      have hrest := ih (by simp) h.2 hothers
      have hstyle := Derives.moreStyles hkey hitem hrest
      simpa [Node.printStyles, Node.printStyle, Node.normalStyles, Node.normalStyle] using hstyle

/-- The text of a printable token derives its normal form when the texts of the items
of its styles do. -/
theorem derives_print {outermost : Bool} {node : Node} (htoken : node.isText = false)
    (h : node.Printable outermost)
    (hitems : ∀ style ∈ node.styles, Node.PrintableAll false style.items →
      Derives (Node.printAll style.items).toList (.nodes false (Node.normalAll style.items))) :
    Derives node.print.toList (.token node.normal) := by
  cases node with
  | text value => contradiction
  | param index =>
    have hparam := Derives.param (opening_display h)
    simpa [Node.print, Node.normal, Index.fullName] using hparam
  | number index format =>
    have ho := typedOpening_display "number" h.1
    cases format with
    | none => simpa [Node.print, Node.normal] using Derives.number ho
    | some name =>
      have hname : IsName name := h.2 name rfl
      have hformat := Derives.formatted ho only_nil (by simp [hname.ne]) hname.only only_nil
      simpa [Node.print, Node.normal] using hformat
  | styled kind index styles =>
    obtain ⟨hindex, hne, hstyles⟩ := h
    have ho := typedOpening_display kind.keyword hindex
    by_cases hempty : styles = []
    · subst hempty
      have hkind : kind = .anchor ∨ kind = .link := by
        cases kind with
        | choice => exact absurd rfl (hne (.inl rfl))
        | map => exact absurd rfl (hne (.inr rfl))
        | anchor => exact .inl rfl
        | link => exact .inr rfl
      simpa [Node.print, Node.normal, Node.normalStyles] using Derives.bare hkind ho
    · have hstyled := Derives.styled ho (derives_printStyles hempty hstyles hitems)
      simpa [Node.print, Node.normal, hempty] using hstyled

/-- The text of printable nodes derives their normal form. -/
theorem derives_printAll {outermost : Bool} {nodes : List Node}
    (h : Node.PrintableAll outermost nodes) :
    Derives (Node.printAll nodes).toList (.nodes outermost (Node.normalAll nodes)) := by
  induction nodes using Node.induction generalizing outermost with
  | nil => exact .empty
  | cons node rest hitems ih =>
    have hrest := ih h.2
    rw [Node.printAll, String.toList_append, Node.normalAll]
    by_cases htext : node.isText = true
    · cases node with
      | text value => exact hrest.prepend_text h.1
      | param | number | styled => contradiction
    · have htoken : node.isText = false := by simpa using htext
      rw [Node.prepend_of_not_text (by simpa using htoken)]
      exact .token (derives_print htoken h.1 fun style hstyle => hitems style hstyle) hrest

end Grammar

end MessageTemplate
