import MessageTemplate.Proofs.Text.Run
import MessageTemplate.Template.Reader

/-!
# The grammar of templates

`Derives s phrase` says that the text `s` can be read as `phrase`: as a list of
nodes, as one token or as the styles of a token.  The relation has one rule for
each form and mentions no reader, no stack and no rest of a text.  The pieces of
a token come first: an index, the opening of a token up to its index or up to
its keyword, and the key of a style.

Blanks are taken greedily, which matters in two places only.  A run of literal
text is as long as it can be, and a style key does not begin with an ASCII blank.
-/

namespace MessageTemplate.Grammar

open Text
open Reader (isNameChar isKeyChar isLiteral)

/-! ## The pieces of a token -/

/-- The texts of an index: digits whose value is below `2 ^ 64`, or a colon and
a name. -/
inductive IndexText : Index → List Char → Prop where
  | position {digits : List Char} (hne : digits ≠ []) (hdigits : Only Char.isDigit digits)
      (hbound : Nat.ofDigitChars 10 digits 0 < UInt64.size) :
      IndexText (.position (Nat.ofDigitChars 10 digits 0)) digits
  | named {name : List Char} (hne : name ≠ []) (hname : Only isNameChar name) :
      IndexText (.named (String.ofList name)) (':' :: name)

/-- The texts of a token up to its index and the blanks behind it. -/
inductive Opening (index : Index) : List Char → Prop where
  | mk {a i b : List Char} (ha : Only isAsciiBlank a) (hi : IndexText index i)
      (hb : Only isAsciiBlank b) : Opening index ('\x7b' :: (a ++ i ++ b))

/-- The texts of a token up to its keyword and the white space behind it. -/
inductive TypedOpening (index : Index) (keyword : String) : List Char → Prop where
  | mk {o a u : List Char} (ho : Opening index o) (ha : Only isAsciiBlank a)
      (hu : Only isBlank u) : TypedOpening index keyword (o ++ ',' :: (a ++ keyword.toList ++ u))

/-- The texts of a style up to the mark behind its key. -/
inductive KeyText (key : String) : List Char → Prop where
  | mk {a u : List Char} (ha : Only isAsciiBlank a) (hne : key.toList ≠ [])
      (hkey : Only isKeyChar key.toList) (hfirst : Stops isAsciiBlank key.toList)
      (hlast : Trimmed key.toList) (hu : Only isBlank u) :
      KeyText key (a ++ key.toList ++ u ++ ['#'])

/-! ## The rules -/

/-- What a text can be read as. -/
inductive Phrase where
  /-- A list of nodes: a whole template, or the items of a style. -/
  | nodes (outermost : Bool) (nodes : List Node)
  | token (node : Node)
  /-- One or more styles with the marks between them. -/
  | styles (styles : List (Style Node))

/-- The text can be read as the phrase. -/
inductive Derives : List Char → Phrase → Prop where
  | empty {outermost : Bool} : Derives [] (.nodes outermost [])
  /-- A run of literal text that the text behind it does not continue. -/
  | text {outermost : Bool} {w s : List Char} {nodes : List Node} (hne : w ≠ [])
      (hw : Only (isLiteral outermost) w) (hs : Stops (isLiteral outermost) s)
      (hnodes : Derives s (.nodes outermost nodes)) :
      Derives (w ++ s) (.nodes outermost (.text (String.ofList w) :: nodes))
  | token {outermost : Bool} {t s : List Char} {node : Node} {nodes : List Node}
      (htoken : Derives t (.token node)) (hnodes : Derives s (.nodes outermost nodes)) :
      Derives (t ++ s) (.nodes outermost (node :: nodes))
  | param {index : Index} {o : List Char} (ho : Opening index o) :
      Derives (o ++ ['\x7d']) (.token (.param index))
  | number {index : Index} {o : List Char} (ho : TypedOpening index "number" o) :
      Derives (o ++ ['\x7d']) (.token (.number index none))
  | formatted {index : Index} {o a name b : List Char} (ho : TypedOpening index "number" o)
      (ha : Only isAsciiBlank a) (hne : name ≠ []) (hname : Only isNameChar name)
      (hb : Only isAsciiBlank b) :
      Derives (o ++ ',' :: (a ++ name ++ b ++ ['\x7d']))
        (.token (.number index (some (String.ofList name))))
  /-- An anchor or a link may stand without styles. -/
  | bare {kind : Kind} {index : Index} {o : List Char} (hkind : kind = .anchor ∨ kind = .link)
      (ho : TypedOpening index kind.keyword o) :
      Derives (o ++ ['\x7d']) (.token (.styled kind index []))
  | styled {kind : Kind} {index : Index} {o s : List Char} {styles : List (Style Node)}
      (ho : TypedOpening index kind.keyword o) (hstyles : Derives s (.styles styles)) :
      Derives (o ++ ',' :: (s ++ ['\x7d'])) (.token (.styled kind index styles))
  | lastStyle {key : String} {k s : List Char} {items : List Node} (hkey : KeyText key k)
      (hitems : Derives s (.nodes false items)) : Derives (k ++ s) (.styles [⟨key, items⟩])
  | moreStyles {key : String} {k s r : List Char} {items : List Node}
      {styles : List (Style Node)} (hkey : KeyText key k)
      (hitems : Derives s (.nodes false items)) (hstyles : Derives r (.styles styles)) :
      Derives (k ++ s ++ '|' :: r) (.styles (⟨key, items⟩ :: styles))

/-- A text that can be read as a template. -/
abbrev DerivesTemplate (s : String) (template : Template) : Prop :=
  Derives s.toList (.nodes true template)

end MessageTemplate.Grammar

/-! ## Nesting -/

namespace MessageTemplate.Node

mutual

/-- The number of style lists that lie inside each other in a node. -/
def nesting : Node → Nat
  | styled _ _ styles => nestingStyles styles
  | _ => 0

/-- The nesting of styles counts the list that holds them. -/
def nestingStyles : List (Style Node) → Nat
  | [] => 0
  | style :: rest => max (nestingItems style + 1) (nestingStyles rest)

/-- The nesting of the items of a style. -/
def nestingItems : Style Node → Nat
  | ⟨_, items⟩ => nestingAll items

/-- The greatest nesting of some nodes. -/
def nestingAll : List Node → Nat
  | [] => 0
  | node :: rest => max (nesting node) (nestingAll rest)

end

variable {node : Node} {nodes items : List Node} {key : String} {styles : List (Style Node)}

theorem nesting_le_cons : node.nesting ≤ nestingAll (node :: nodes) :=
  Nat.le_max_left ..

theorem nestingAll_le_cons : nestingAll nodes ≤ nestingAll (node :: nodes) :=
  Nat.le_max_right ..

/-- The items of a style lie one style list deeper. -/
theorem nestingAll_lt_cons : nestingAll items + 1 ≤ nestingStyles (⟨key, items⟩ :: styles) :=
  Nat.le_max_left ..

theorem nestingStyles_le_cons : nestingStyles styles ≤ nestingStyles (⟨key, items⟩ :: styles) :=
  Nat.le_max_right ..

end MessageTemplate.Node

/-- The number of style lists that lie inside each other in a template. -/
def MessageTemplate.Template.nesting (template : Template) : Nat :=
  Node.nestingAll template
