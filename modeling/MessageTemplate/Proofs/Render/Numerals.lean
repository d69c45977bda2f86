import Mathlib.Data.List.Forall2
import MessageTemplate.Proofs.Binary.Decimal
import MessageTemplate.Proofs.Render.Agreement

/-!
# Numbers and their decimal texts

A number is shown like its decimal text.  For an integer this is less than obvious: it comes to
its number by rounding and its text by being read, and it is shown with digits that the number
may not have.  But both ways give the nearest number.  So a number and its text can stand for
each other anywhere, also inside attribute fields.
-/

namespace MessageTemplate

open Node Text

variable {value value' : Value}

/-! ## Numbers in place of their texts -/

mutual

/-- The values are the same, but that a number may stand in the place of its decimal text, also
inside attribute fields.  What is not a number is left out: it has one text and many
encodings. -/
inductive Value.SpelledAlike : Value → Value → Prop where
  | same (value : Value) : Value.SpelledAlike value value
  | integer (n : Int64) : Value.SpelledAlike (.integer n) (.text n.toInt.repr)
  | integerText (n : Int64) : Value.SpelledAlike (.text n.toInt.repr) (.integer n)
  | float (x : Binary64) (hx : x ≠ .nan) : Value.SpelledAlike (.float x) (.text x.text)
  | floatText (x : Binary64) (hx : x ≠ .nan) : Value.SpelledAlike (.text x.text) (.float x)
  | attributes {fields fields' : List (String × Value)} (h : Fields.SpelledAlike fields fields') :
      Value.SpelledAlike (.attributes fields) (.attributes fields')

/-- The entries have the same keys and values that are spelled alike. -/
inductive Fields.SpelledAlike : List (String × Value) → List (String × Value) → Prop where
  | nil : Fields.SpelledAlike [] []
  | cons (key : String) {value value' : Value} {rest rest' : List (String × Value)}
      (h : Value.SpelledAlike value value') (hrest : Fields.SpelledAlike rest rest') :
      Fields.SpelledAlike ((key, value) :: rest) ((key, value') :: rest')

end

/-- The parameters are of one kind, and their values are spelled alike. -/
inductive Params.SpelledAlike : Params → Params → Prop where
  | positional {values values' : List Value} (h : List.Forall₂ Value.SpelledAlike values values') :
      SpelledAlike (.positional values) (.positional values')
  | named {entries entries' : Fields Value} (h : Fields.SpelledAlike entries entries') :
      SpelledAlike (.named entries) (.named entries')

mutual

theorem Value.SpelledAlike.display {value value' : Value} :
    value.SpelledAlike value' → value.display = value'.display
  | .same _ => rfl
  | .integer _ | .integerText _ | .float _ _ | .floatText _ _ => by
    rw [Value.display, Value.display]
  | .attributes h => by rw [Value.display, Value.display, h.displayFields]

theorem Fields.SpelledAlike.displayFields {fields fields' : List (String × Value)} :
    Fields.SpelledAlike fields fields' → Value.displayFields fields = Value.displayFields fields'
  | .nil => rfl
  | .cons key h .nil => by
    simp only [Value.displayFields, Value.displayEntry, h.display]
  | .cons key h (.cons key' h' hrest) => by
    simp only [Value.displayFields, Value.displayEntry, h.display,
      (Fields.SpelledAlike.cons key' h' hrest).displayFields]

end

/-- No white space stands in the text of an integer. -/
theorem not_isBlank_repr (n : Int) : Only (!isBlank ·) n.repr.toList := by
  rw [Int.repr_eq_if]
  split
  · rw [Nat.toList_repr]
    exact (only_toDigits _).not_isBlank
  · rw [String.toList_append, Nat.toList_repr]
    exact only_append.mpr ⟨by decide, (only_toDigits _).not_isBlank⟩

/-- The text of an integer spells the number that the integer is rounded to. -/
theorem Value.numberOfText?_repr (n : Int) : numberOfText? n.repr = some (.ofInt binary64 n) := by
  rw [numberOfText?, trim_of_only (not_isBlank_repr n)]
  exact Binary.read?_repr (by decide) n

/-- The text of a double precision number spells the number. -/
theorem Value.numberOfText?_text (x : Binary64) : numberOfText? x.text = some x := by
  rw [numberOfText?, trim_of_only (Binary.not_isBlank_text Binary.precision_binary64 x)]
  exact Binary.read?_text Binary.precision_binary64 (by decide) x

theorem Value.SpelledAlike.number (h : value.SpelledAlike value') :
    value.toNumber? = value'.toNumber? := by
  cases h with
  | same | attributes => rfl
  | integer n => exact (numberOfText?_repr n.toInt).symm
  | integerText n => exact numberOfText?_repr n.toInt
  | float x => exact (numberOfText?_text x).symm
  | floatText x => exact numberOfText?_text x

/-- The entries under a key are spelled alike, or there is none in both. -/
theorem Fields.SpelledAlike.get? {fields fields' : Fields Value}
    (h : Fields.SpelledAlike fields fields') (key : String) :
    Option.Rel Value.SpelledAlike (fields.get? key) (fields'.get? key) := by
  induction fields generalizing fields' with
  | nil =>
    cases h with
    | nil => exact .none
  | cons entry rest ih =>
    cases h with
    | cons k hvalue hrest =>
      rw [get?_cons, get?_cons]
      split
      · exact .some hvalue
      · exact ih hrest

/-- Attribute fields that are spelled alike give the same attributes. -/
theorem Fields.SpelledAlike.attributeText {fields fields' : Fields Value}
    (h : Fields.SpelledAlike fields fields') :
    Decoration.attributeText fields = Decoration.attributeText fields' := by
  funext name
  have hvalue := h.get? name
  unfold Decoration.attributeText
  generalize fields.get? name = found, fields'.get? name = found' at hvalue
  cases hvalue with
  | none => rfl
  | some hvalue => exact hvalue.display

theorem Value.SpelledAlike.decoration (h : value.SpelledAlike value') :
    Decoration.ofValue value = Decoration.ofValue value' := by
  have hdisplay := h.display
  cases h with
  | same => rfl
  | integer | integerText | float | floatText => exact congrArg Decoration.href hdisplay
  | attributes hfields => simp only [Decoration.ofValue, asFields?, hfields.attributeText]

/-- Values that are spelled alike are shown alike. -/
theorem Value.SpelledAlike.shownAlike (h : value.SpelledAlike value') : value.ShownAlike value' :=
  ⟨h.display, h.number, h.decoration⟩

theorem Lookup.shownAlike_ofOption {found found' : Option Value}
    (h : Option.Rel Value.SpelledAlike found found') :
    (Lookup.ofOption found).ShownAlike (Lookup.ofOption found') := by
  cases h with
  | none => exact .missing
  | some hvalue => exact .found hvalue.shownAlike

/-- The values at a place are spelled alike, or the place is behind the end of both lists. -/
theorem rel_getElem?_of_forall₂ {values values' : List Value}
    (h : List.Forall₂ Value.SpelledAlike values values') (n : Nat) :
    Option.Rel Value.SpelledAlike values[n]? values'[n]? := by
  induction h generalizing n with
  | nil => exact .none
  | cons hvalue _ ih =>
    cases n with
    | zero => exact .some hvalue
    | succ n => exact ih n

/-- Looking up an index in parameters that are spelled alike finds values that are shown alike. -/
theorem Params.SpelledAlike.lookup {p q : Params} (h : p.SpelledAlike q) (index : Index) :
    (p.lookup index).ShownAlike (q.lookup index) := by
  cases h with
  | positional hvalues =>
    cases index with
    | position n => exact Lookup.shownAlike_ofOption (rel_getElem?_of_forall₂ hvalues n)
    | named name => exact .wrongSourceKind
  | named hentries =>
    cases index with
    | position n => exact Lookup.shownAlike_ofOption (hentries.get? n.repr)
    | named name => exact Lookup.shownAlike_ofOption (hentries.get? name)

/-- A decimal text behaves like the number that it spells: a template is rendered alike when
numbers stand in the place of their texts, at the top or inside attribute fields. -/
theorem Template.render_eq_of_spelledAlike (template : Template) (ctx : Context) {q : Params}
    (h : ctx.params.SpelledAlike q) : template.render ctx = template.render (ctx.withParams q) :=
  renderAll_withParams fun _ _ index _ => h.lookup index

/-- Two integers beyond the exact ones change places with their texts, one of them inside
attribute fields. -/
theorem Template.render_eq_of_spelledAlike_beyondExact :
    let n : Int64 := 9007199254740993
    let p : Params := .named
      [("link", .attributes [("class", .text n.toInt.repr), ("href", .integer (-n))]),
        ("n", .integer n)]
    let q : Params := .named
      [("link", .attributes [("class", .integer n), ("href", .text (-n).toInt.repr)]),
        ("n", .text n.toInt.repr)]
    let ctx : Context := ⟨"ru", p, Plural.byCategory, .raise⟩
    let template : Template :=
      [.styled .anchor (.named "link") [⟨"text", [.number (.named "n") (some "integer")]⟩],
        .styled .choice (.named "n") [⟨"one", [.text " A"]⟩, ⟨"few", [.param (.named "n")]⟩]]
    ctx.params.SpelledAlike q ∧
      template.render ctx = template.render (ctx.withParams q) ∧
      template.render ctx = .ok ("<a href='-9007199254740993' class='9007199254740993' style='' " ++
        "title=''>9007199254740992</a>9007199254740993") := by
  intro n p q ctx template
  have hspelled : ctx.params.SpelledAlike q :=
    .named (.cons "link"
      (.attributes (.cons "class" (.integerText n) (.cons "href" (.integer (-n)) .nil)))
      (.cons "n" (.integer n) .nil))
  exact ⟨hspelled, template.render_eq_of_spelledAlike ctx hspelled, by decide +kernel⟩

end MessageTemplate
