import MessageTemplate.Proofs.Render.Agreement
import MessageTemplate.Proofs.Render.Concatenation

/-!
# Completing a degraded rendering

A degraded rendering leaves the tokens without a value in its text, so the text can be read
as a template again and filled with further values.  `Node.fill` is what this template has in
place of a node: the text of its value, or the plain token of its index.  The degraded
rendering prints the filled nodes, and rendering them from other entries reads an index from
the first entries that have it.

This holds of templates whose tokens show their values as they are.  Texts of values have to
be free of braces, for a brace would be read as part of a token.
-/

namespace MessageTemplate

open Text Reader Node

/-! ## Entries over other entries -/

namespace Fields

variable {α : Type}

/-- The entries of both; where both have a key, the entry of the first. -/
def overlay (first second : Fields α) : Fields α :=
  first.foldr (fun entry fields => fields.put entry.1 entry.2) second

/-- A key is looked up in the first entries and then in the second. -/
theorem get?_overlay (first second : Fields α) (key : String) :
    (first.overlay second).get? key = (first.get? key).or (second.get? key) := by
  induction first with
  | nil => rfl
  | cons entry rest ih =>
    obtain ⟨k, value⟩ := entry
    have hput : overlay ((k, value) :: rest) second = (overlay rest second).put k value := rfl
    rw [hput, get?_put, get?_cons, ih]
    split <;> rfl

end Fields

variable {language : String} {resolver : Plural.Resolver} {policy : Policy}
  {first second entries : Fields Value} {ctx : Context} {index : Index} {node : Node}
  {nodes : List Node} {value : Value}

/-! ## Plain nodes -/

/-- The node is text or a token that shows its value as it is. -/
def Node.isPlain : Node → Bool
  | text _ | param _ | number _ none => true
  | number _ (some _) | styled _ _ _ => false

/-- The node with the text of its value in place of the token.  A token without a value is
left as the plain token. -/
def Node.fill (entries : Fields Value) (node : Node) : Node :=
  match node.index? with
  | none => node
  | some index =>
    match entries.get? index.entryName with
    | some value => .text value.display
    | none => .param index

theorem formatNumber_none (value : Value) : formatNumber value none = value.display := by
  unfold formatNumber
  split <;> first | contradiction | rfl

/-- A plain token is rendered like the parameter of its index. -/
theorem render_of_isPlain (hplain : node.isPlain = true) (hindex : node.index? = some index) :
    node.render ctx = (param index).render ctx := by
  cases node with
  | text => contradiction
  | param => rw [Option.some.inj hindex]
  | number other format =>
    cases format with
    | none =>
      rw [Option.some.inj hindex]
      simp only [render, formatNumber_none]
    | some format => contradiction
  | styled => contradiction

/-- Filling a plain node comes to one of three things: a text is kept, a token with a value
becomes the text of the value, and a token without one becomes the plain token. -/
theorem fill_cases (entries : Fields Value) (hplain : node.isPlain = true) :
    (∃ value, node = .text value ∧ node.fill entries = .text value) ∨
    (∃ index value, node.index? = some index ∧ entries.get? index.entryName = some value ∧
      node.fill entries = .text value.display) ∨
    ∃ index, node.index? = some index ∧ entries.get? index.entryName = none ∧
      node.fill entries = .param index := by
  cases hindex : node.index? with
  | none =>
    cases node with
    | text value => exact .inl ⟨value, rfl, rfl⟩
    | param | number | styled => contradiction
  | some index =>
    cases hvalue : entries.get? index.entryName with
    | some value =>
      exact .inr (.inl ⟨index, value, rfl, hvalue, by simp only [fill, hindex, hvalue]⟩)
    | none => exact .inr (.inr ⟨index, rfl, hvalue, by simp only [fill, hindex, hvalue]⟩)

/-! ## Parameters -/

theorem render_param_of_get? (hvalue : entries.get? index.entryName = some value) :
    (param index).render ⟨language, .named entries, resolver, policy⟩ = .ok value.display := by
  simp only [render, Context.required, Params.lookup_named, hvalue]
  rfl

theorem render_param_of_missing (hmissing : entries.get? index.entryName = none) :
    (param index).render ⟨language, .named entries, resolver, .degrade⟩ = .ok index.fullName := by
  simp only [render, Context.required, Params.lookup_named, hmissing]
  rfl

/-- A parameter is rendered alike from entries that agree on its name. -/
theorem render_param_congr
    (h : first.get? index.entryName = second.get? index.entryName) :
    (param index).render ⟨language, .named first, resolver, policy⟩ =
      (param index).render ⟨language, .named second, resolver, policy⟩ := by
  simp only [render, Context.required, Params.lookup_named, h]
  rfl

/-! ## Filled nodes -/

/-- A degraded node is the text of the filled node. -/
theorem render_degrade_eq_print (hplain : node.isPlain = true) :
    node.render ⟨language, .named first, resolver, .degrade⟩ =
      .ok (node.fill first).print := by
  rcases fill_cases first hplain with
    ⟨value, rfl, hfill⟩ | ⟨index, value, hindex, hvalue, hfill⟩ | ⟨index, hindex, hmissing, hfill⟩
  · rw [hfill, render, print]
  · rw [hfill, render_of_isPlain hplain hindex, render_param_of_get? hvalue, print]
  · rw [hfill, render_of_isPlain hplain hindex, render_param_of_missing hmissing, print]

/-- The filled node is rendered from the second entries as the node is from both. -/
theorem render_fill (hplain : node.isPlain = true) :
    (node.fill first).render ⟨language, .named second, resolver, policy⟩ =
      node.render ⟨language, .named (first.overlay second), resolver, policy⟩ := by
  have hboth := Fields.get?_overlay first second
  rcases fill_cases first hplain with
    ⟨value, rfl, hfill⟩ | ⟨index, value, hindex, hvalue, hfill⟩ | ⟨index, hindex, hmissing, hfill⟩
  · rw [hfill, render, render]
  · have hfirst : (first.overlay second).get? index.entryName = some value := by
      rw [hboth, hvalue, Option.some_or]
    rw [hfill, render_of_isPlain hplain hindex, render_param_of_get? hfirst, render]
  · have hsecond : second.get? index.entryName =
        (first.overlay second).get? index.entryName := by
      rw [hboth, hmissing, Option.none_or]
    rw [hfill, render_of_isPlain hplain hindex, render_param_congr hsecond]

/-- Text outside of all styles is literal when it has no brace. -/
theorem only_isLiteral {s : List Char} (hopen : '\x7b' ∉ s) (hclose : '\x7d' ∉ s) :
    Only (isLiteral true) s := by
  intro c hc
  have hne : c ≠ '\x7b' := fun h => hopen (h ▸ hc)
  have hne' : c ≠ '\x7d' := fun h => hclose (h ▸ hc)
  simp [isLiteral, hne, hne']

/-- The values that the nodes read from the entries have no brace in their texts. -/
def FreeOfBraces (entries : Fields Value) (nodes : List Node) : Prop :=
  ∀ node ∈ nodes, ∀ index value, node.index? = some index →
    (Params.named entries).lookup index = .found value →
    '\x7b' ∉ value.display.toList ∧ '\x7d' ∉ value.display.toList

theorem lookup_named_of_get? (hvalue : entries.get? index.entryName = some value) :
    (Params.named entries).lookup index = .found value := by
  rw [Params.lookup_named, hvalue]
  rfl

/-- A filled node can be read again when the text of its value has no brace. -/
theorem printable_fill (hplain : node.isPlain = true) (hnode : node.Printable true)
    (hfree : FreeOfBraces entries (node :: nodes)) : (node.fill entries).Printable true := by
  rcases fill_cases entries hplain with
    ⟨value, rfl, hfill⟩ | ⟨index, value, hindex, hvalue, hfill⟩ | ⟨index, hindex, -, hfill⟩
  · rw [hfill]
    exact hnode
  · obtain ⟨hopen, hclose⟩ :=
      hfree node List.mem_cons_self index value hindex (lookup_named_of_get? hvalue)
    rw [hfill]
    exact only_isLiteral hopen hclose
  · rw [hfill]
    exact hnode.index hindex

theorem nesting_fill (hplain : node.isPlain = true) : (node.fill entries).nesting = 0 := by
  rcases fill_cases entries hplain with ⟨_, _, hfill⟩ | ⟨_, _, _, _, hfill⟩ | ⟨_, _, _, hfill⟩ <;>
    rw [hfill] <;> rfl

/-! ## Filled templates -/

namespace Template

variable {template : Template}

/-- The template with the texts of the values in place of their tokens. -/
def fill (entries : Fields Value) (template : Template) : Template :=
  template.map (Node.fill entries)

/-- A degraded rendering is the text of the filled template. -/
theorem render_degrade_eq_print_fill (hplain : ∀ node ∈ template, node.isPlain = true) :
    template.render ⟨language, .named first, resolver, .degrade⟩ =
      .ok (template.fill first).print := by
  simp only [render, print, fill]
  induction template with
  | nil => rfl
  | cons node rest ih =>
    obtain ⟨hnode, hrest⟩ := List.forall_mem_cons.mp hplain
    rw [renderAll_cons, render_degrade_eq_print hnode, ih hrest, List.map_cons, printAll]
    rfl

/-- The filled template is rendered from the second entries as the template is from both. -/
theorem render_fill_eq (hplain : ∀ node ∈ template, node.isPlain = true) :
    (template.fill first).render ⟨language, .named second, resolver, policy⟩ =
      template.render ⟨language, .named (first.overlay second), resolver, policy⟩ := by
  simp only [render, fill]
  induction template with
  | nil => rfl
  | cons node rest ih =>
    obtain ⟨hnode, hrest⟩ := List.forall_mem_cons.mp hplain
    rw [List.map_cons, renderAll_cons, renderAll_cons, render_fill hnode, ih hrest]

theorem printable_fill_template (hplain : ∀ node ∈ template, node.isPlain = true)
    (htemplate : template.Printable) (hfree : FreeOfBraces entries template) :
    (template.fill entries).Printable := by
  induction template with
  | nil => trivial
  | cons node rest ih =>
    obtain ⟨hnode, hrest⟩ := List.forall_mem_cons.mp hplain
    have hfree' : FreeOfBraces entries rest :=
      fun inner hinner => hfree inner (List.mem_cons_of_mem _ hinner)
    exact ⟨printable_fill hnode htemplate.1 hfree, ih hrest htemplate.2 hfree'⟩

theorem nesting_fill_eq_zero (hplain : ∀ node ∈ template, node.isPlain = true) :
    (template.fill entries).nesting = 0 := by
  induction template with
  | nil => rfl
  | cons node rest ih =>
    obtain ⟨hnode, hrest⟩ := List.forall_mem_cons.mp hplain
    have hall : (fill entries (node :: rest)).nesting =
        max (node.fill entries).nesting (fill entries rest).nesting := rfl
    rw [hall, nesting_fill hnode, ih hrest]
    rfl

/-- A degraded rendering can be completed later.  A template of text and of tokens that show
their values as they are is rendered from some entries, and the tokens without a value are
left.  The text is a template again, and rendering it from further entries comes to the same
text or error as rendering the first template from both, under either policy. -/
theorem render_of_degraded (source : String) (template : Template) (language : String)
    (resolver : Plural.Resolver) (first second : Fields Value)
    (hparse : parse source = .ok template) (hplain : ∀ node ∈ template, node.isPlain = true)
    (hfree : FreeOfBraces first template) :
    ∃ text rest, template.render ⟨language, .named first, resolver, .degrade⟩ = .ok text ∧
      parse text = .ok rest ∧
      ∀ policy, rest.render ⟨language, .named second, resolver, policy⟩ =
        template.render ⟨language, .named (first.overlay second), resolver, policy⟩ := by
  obtain ⟨htemplate, -⟩ := normal_of_read hparse
  have hdepth : Allows (some maxNesting) (template.fill first).nesting := by
    rw [nesting_fill_eq_zero hplain]
    exact allows_zero _
  have hread : parse (template.fill first).print = .ok (template.fill first).normal :=
    read_print (printable_fill_template hplain htemplate hfree) hdepth
  refine ⟨_, _, render_degrade_eq_print_fill hplain, hread, fun policy => ?_⟩
  rw [← render_fill_eq hplain]
  exact renderAll_normal _

/-- Text and three tokens, one of them a number. -/
def threeTokens : Template :=
  [.text "a", .param (.position 0), .number (.named "n") none, .param (.named "u")]

/-- The number is filled first and the position afterwards; the name is never filled. -/
theorem render_of_degraded_threeTokens :
    let first : Fields Value := [("n", .integer 3), ("w", .text "\x7b")]
    let second : Fields Value := [("0", .text "x"), ("n", .bool true)]
    parse threeTokens.print = .ok threeTokens ∧ (∀ node ∈ threeTokens, node.isPlain = true) ∧
      FreeOfBraces first threeTokens ∧
      threeTokens.render ⟨"en", .named first, Plural.singularPlural, .degrade⟩ =
        .ok "a\x7b0\x7d3\x7b:u\x7d" ∧
      ∃ rest, parse "a\x7b0\x7d3\x7b:u\x7d" = .ok rest ∧
        rest.render ⟨"en", .named second, Plural.singularPlural, .raise⟩ =
          .error (.missingValue "\x7b:u\x7d") ∧
        rest.render ⟨"en", .named second, Plural.singularPlural, .degrade⟩ =
          .ok "ax3\x7b:u\x7d" := by
  intro first second
  have hparse : parse threeTokens.print = .ok threeTokens :=
    @read_print (some maxNesting) threeTokens (by decide) (allows_some.mpr (by decide))
  have hplain : ∀ node ∈ threeTokens, node.isPlain = true := by
    simp [threeTokens, Node.isPlain]
  have hfree : FreeOfBraces first threeTokens := by
    intro node hnode index value hindex hlookup
    simp only [threeTokens, List.mem_cons, List.not_mem_nil, or_false] at hnode
    rcases hnode with rfl | rfl | rfl | rfl <;> cases hindex <;> cases hlookup
    decide
  have hrender : threeTokens.render ⟨"en", .named first, Plural.singularPlural, .degrade⟩ =
      .ok "a\x7b0\x7d3\x7b:u\x7d" := rfl
  obtain ⟨text, rest, htext, hrest, hlater⟩ := render_of_degraded threeTokens.print threeTokens
    "en" Plural.singularPlural first second hparse hplain hfree
  obtain rfl := Except.ok.inj (hrender.symm.trans htext)
  exact ⟨hparse, hplain, hfree, hrender, rest, hrest, hlater .raise, hlater .degrade⟩

end Template

end MessageTemplate
