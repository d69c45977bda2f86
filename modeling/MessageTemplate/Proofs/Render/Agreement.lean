import MessageTemplate.Proofs.Registry
import MessageTemplate.Render

/-!
# What a rendering reads

A node reads its parameters through the look-up of its own index and of the indices in
its styles, whichever of them it shows.  It makes three things of a value: its text, its
number and the markup of an anchor.  So two sources are rendered alike when the values that
the nodes read agree in these.

All indices that are read are in the registry, so two sources that agree on the registry are
rendered alike, also when one of them is positional and the other is not.  What a source
holds beside the registry does not matter.
-/

namespace MessageTemplate

open Node

variable {value value' : Value} {ctx : Context} {q : Params} {node : Node} {nodes : List Node}
  {styles : List (Style Node)} {index : Index}

/-- The same context with other parameters. -/
def Context.withParams (ctx : Context) (params : Params) : Context :=
  { ctx with params }

/-- The other parameters have the same value for the index, or lack it for the same
reason. -/
def Context.AgreesAt (ctx : Context) (q : Params) (index : Index) : Prop :=
  ctx.params.lookup index = q.lookup index

/-! ## What a token makes of a value -/

/-- The values come to the same text, the same number and the same markup. -/
structure Value.ShownAlike (value value' : Value) : Prop where
  display : value.display = value'.display
  number : value.toNumber? = value'.toNumber?
  decoration : Decoration.ofValue value = Decoration.ofValue value'

/-- The look-ups find values that are shown alike, or nothing for the same reason. -/
inductive Lookup.ShownAlike : Lookup → Lookup → Prop where
  | found {value value' : Value} (h : value.ShownAlike value') :
      ShownAlike (.found value) (.found value')
  | missing : ShownAlike .missing .missing
  | wrongSourceKind : ShownAlike .wrongSourceKind .wrongSourceKind

/-- The other parameters have a value that is shown alike for the index, or lack it for the
same reason. -/
def Context.ShowsAlike (ctx : Context) (q : Params) (index : Index) : Prop :=
  (ctx.params.lookup index).ShownAlike (q.lookup index)

theorem Lookup.ShownAlike.refl (found : Lookup) : found.ShownAlike found := by
  cases found with
  | found value => exact .found ⟨rfl, rfl, rfl⟩
  | missing => exact .missing
  | wrongSourceKind => exact .wrongSourceKind

theorem Context.AgreesAt.showsAlike (h : ctx.AgreesAt q index) : ctx.ShowsAlike q index := by
  rw [Context.ShowsAlike, ← h]
  exact .refl _

theorem Value.ShownAlike.formatNumber (h : value.ShownAlike value') (format : Option String) :
    MessageTemplate.formatNumber value format = MessageTemplate.formatNumber value' format := by
  unfold MessageTemplate.formatNumber
  rw [h.number, h.display]

theorem Value.ShownAlike.ruleKey (h : value.ShownAlike value') :
    ctx.ruleKey value = (ctx.withParams q).ruleKey value' := by
  unfold Context.ruleKey
  rw [h.number, h.display]
  rfl

theorem Context.ShowsAlike.choiceKey (h : ctx.ShowsAlike q index) :
    ctx.choiceKey index = (ctx.withParams q).choiceKey index := by
  unfold Context.ShowsAlike at h
  simp only [Context.choiceKey, Context.withParams]
  generalize ctx.params.lookup index = found, q.lookup index = found' at *
  cases h with
  | found hvalue => exact congrArg (fun key => Except.ok (some key)) hvalue.ruleKey
  | missing | wrongSourceKind => rfl

/-- What does not tell apart values that are shown alike, makes the same of the value of the
index in both contexts. -/
theorem Context.ShowsAlike.bind_required (h : ctx.ShowsAlike q index)
    {f : Option Value → Except SubstitutionError String}
    (hf : ∀ value value', value.ShownAlike value' → f (some value) = f (some value')) :
    ctx.required index >>= f = (ctx.withParams q).required index >>= f := by
  unfold Context.ShowsAlike at h
  simp only [Context.required, Context.withParams]
  generalize ctx.params.lookup index = found, q.lookup index = found' at *
  cases h with
  | found hvalue => exact hf _ _ hvalue
  | missing | wrongSourceKind => rfl

/-! ## Nodes -/

/-- Which style is shown does not depend on the parameters, only what its items come to. -/
theorem renderStyle_withParams (wanted : String → Bool)
    (h : ∀ style ∈ styles, renderAll ctx style.items = renderAll (ctx.withParams q) style.items) :
    renderStyle ctx wanted styles = renderStyle (ctx.withParams q) wanted styles := by
  induction styles with
  | nil => rfl
  | cons style rest ih =>
    obtain ⟨hstyle, hrest⟩ := List.forall_mem_cons.mp h
    obtain ⟨key, items⟩ := style
    rw [renderStyle, renderStyle, renderItems, renderItems, hstyle, ih hrest]

/-- A node is rendered alike when the value of its own index and the items of all its styles
are. -/
theorem render_withParams (hindex : ∀ index, node.index? = some index → ctx.ShowsAlike q index)
    (hstyles : ∀ style ∈ node.styles,
      renderAll ctx style.items = renderAll (ctx.withParams q) style.items) :
    node.render ctx = node.render (ctx.withParams q) := by
  cases node with
  | text value => rfl
  | param index =>
    have hown := hindex index rfl
    exact hown.bind_required fun value value' hvalue => by simp only [hvalue.display]
  | number index format =>
    have hown := hindex index rfl
    exact hown.bind_required fun value value' hvalue => by simp only [hvalue.formatNumber]
  | styled kind index styles =>
    have hown := hindex index rfl
    have hshown (wanted : String → Bool) :
        renderStyle ctx wanted styles = renderStyle (ctx.withParams q) wanted styles :=
      renderStyle_withParams wanted hstyles
    cases kind with
    | choice => simp only [render, hown.choiceKey, hshown]
    | map =>
      simp only [render, hshown]
      exact hown.bind_required fun value value' hvalue => by simp only [hvalue.display]
    | anchor | link =>
      simp only [render, hshown]
      refine bind_congr fun content => ?_
      exact hown.bind_required fun value value' hvalue => by simp only [hvalue.decoration]

/-- Nodes are rendered alike when the values of all indices that occur in them are. -/
theorem renderAll_withParams
    (h : ∀ node, Occurs node nodes → ∀ index, node.index? = some index → ctx.ShowsAlike q index) :
    renderAll ctx nodes = renderAll (ctx.withParams q) nodes := by
  induction nodes using Node.induction with
  | nil => rfl
  | cons node rest hitems ih =>
    have hnode : node.render ctx = node.render (ctx.withParams q) := by
      refine render_withParams (h node (.here List.mem_cons_self)) fun style hstyle => ?_
      refine hitems style hstyle fun inner hinner => ?_
      exact h inner (.inside List.mem_cons_self hstyle hinner)
    have hrest := ih fun inner hinner => h inner hinner.tail
    rw [renderAll, renderAll, hnode, hrest]

/-! ## Sources of one kind -/

/-- The name under which named parameters hold the value of an index. -/
def Index.entryName : Index → String
  | .position n => n.repr
  | .named name => name

theorem Params.lookup_named {entries : Fields Value} :
    (Params.named entries).lookup index = .ofOption (entries.get? index.entryName) := by
  cases index <;> rfl

/-- Positional parameters agree at an index when they agree at its position, if it has
one. -/
theorem Params.lookup_positional_congr {values values' : List Value}
    (h : ∀ n, index = .position n → values[n]? = values'[n]?) :
    (Params.positional values).lookup index = (Params.positional values').lookup index := by
  cases index with
  | position n => simp only [Params.lookup, h n rfl]
  | named name => rfl

namespace Template

variable {template : Template}

/-- A template is rendered alike from parameters that agree on its registry. -/
theorem render_withParams_of_tokens
    (h : ∀ token ∈ template.tokens, ctx.AgreesAt q token.index) :
    template.render ctx = template.render (ctx.withParams q) := by
  refine renderAll_withParams fun node hnode index hindex => ?_
  obtain ⟨token, htoken, rfl⟩ := covers_tokens.mpr ⟨node, hnode, hindex⟩
  exact (h token htoken).showsAlike

/-- Rendering reads nothing but the registry: two sources, of one kind or of both, that
agree on every index of the registry give the same text or the same error.  In particular
a positional list matters only at the positions of the registry, and named entries only
under its names. -/
theorem render_eq_of_tokens (template : Template) (language : String)
    (resolver : Plural.Resolver) (policy : Policy) :
    (∀ p q : Params, (∀ token ∈ template.tokens, p.lookup token.index = q.lookup token.index) →
      template.render ⟨language, p, resolver, policy⟩ =
        template.render ⟨language, q, resolver, policy⟩) ∧
    (∀ values values' : List Value,
      (∀ token ∈ template.tokens, ∀ n, token.index = .position n → values[n]? = values'[n]?) →
      template.render ⟨language, .positional values, resolver, policy⟩ =
        template.render ⟨language, .positional values', resolver, policy⟩) ∧
    ∀ entries entries' : Fields Value,
      (∀ token ∈ template.tokens,
        entries.get? token.index.entryName = entries'.get? token.index.entryName) →
      template.render ⟨language, .named entries, resolver, policy⟩ =
        template.render ⟨language, .named entries', resolver, policy⟩ := by
  have hagree (p q : Params)
      (h : ∀ token ∈ template.tokens, p.lookup token.index = q.lookup token.index) :
      template.render ⟨language, p, resolver, policy⟩ =
        template.render ⟨language, q, resolver, policy⟩ :=
    @render_withParams_of_tokens ⟨language, p, resolver, policy⟩ q template h
  refine ⟨hagree, fun values values' h => ?_, fun entries entries' h => ?_⟩
  · exact hagree _ _ fun token htoken => Params.lookup_positional_congr (h token htoken)
  · refine hagree _ _ fun token htoken => ?_
    rw [Params.lookup_named, Params.lookup_named, h token htoken]

/-- A choice whose styles read a second position, also in the style that is not shown,
and a map without styles. -/
def twoPositions : Template :=
  [.styled .choice (.position 0) [⟨"a", [.param (.position 2)]⟩, ⟨"other", []⟩],
    .styled .map (.position 2) []]

/-- A list and named entries that agree on the registry, and differ elsewhere. -/
theorem render_eq_of_tokens_twoPositions :
    let values : List Value := [.text "a", .bool true, .text "u"]
    let entries : Fields Value := [("0", .text "a"), ("2", .text "u"), ("3", .bool false)]
    (∀ token ∈ twoPositions.tokens,
      (Params.positional values).lookup token.index = (Params.named entries).lookup token.index) ∧
    twoPositions.render ⟨"en", .positional values, Plural.byCategory, .raise⟩ = .ok "u" ∧
    twoPositions.render ⟨"en", .named entries, Plural.byCategory, .raise⟩ = .ok "u" ∧
    twoPositions.render ⟨"en", .positional (values.set 1 (.text "b")), Plural.byCategory, .raise⟩ =
      .ok "u" ∧
    twoPositions.render ⟨"en", .named (entries.put "1" (.text "b")), Plural.byCategory, .raise⟩ =
      .ok "u" := by
  intro values entries
  have hindex (token : Token) (htoken : token ∈ twoPositions.tokens) :
      token.index = .position 0 ∨ token.index = .position 2 := by
    have htokens : twoPositions.tokens.map Token.index = [.position 0, .position 2] := rfl
    have hmem := List.mem_map_of_mem (f := Token.index) htoken
    rw [htokens] at hmem
    simpa using hmem
  have hagree : ∀ token ∈ twoPositions.tokens,
      (Params.positional values).lookup token.index =
        (Params.named entries).lookup token.index := by
    intro token htoken
    rcases hindex token htoken with h | h <;> rw [h] <;> rfl
  obtain ⟨hboth, hpositional, hnamed⟩ :=
    render_eq_of_tokens twoPositions "en" Plural.byCategory .raise
  have hlist : twoPositions.render ⟨"en", .positional values, Plural.byCategory, .raise⟩ =
      .ok "u" := by rfl
  have hentries : twoPositions.render ⟨"en", .named entries, Plural.byCategory, .raise⟩ =
      .ok "u" := (hboth _ _ hagree).symm.trans hlist
  refine ⟨hagree, hlist, hentries, ?_, ?_⟩
  · refine (hpositional _ values fun token htoken n hn => ?_).trans hlist
    rcases hindex token htoken with h | h <;> rw [h] at hn <;> cases hn <;> rfl
  · refine (hnamed _ entries fun token htoken => ?_).trans hentries
    rw [Fields.get?_put]
    rcases hindex token htoken with h | h <;> rw [h] <;> rfl

end Template

end MessageTemplate
