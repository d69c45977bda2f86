import MessageTemplate.Proofs.Template.Tree
import MessageTemplate.Render

/-!
# What a token shows

A token with styles shows at most one of them.  `Context.selected?` says which: a choice goes
by the rule key of its value, a map by the text of its value and an anchor by a fixed key.
The rendering of a token is a frame around the rendering of that style, and the other styles
have no part in it.  A node that stands in no other style is visible.
-/

namespace MessageTemplate

open Node

variable {ctx : Context} {kind : Kind} {index : Index} {node : Node} {nodes : List Node}
  {styles styles' : List (Style Node)} {key : String} {value : Value}
  {error : SubstitutionError}

/-! ## The selected style -/

/-- The value of an index, if there is one. -/
def Context.value? (ctx : Context) (index : Index) : Option Value :=
  match ctx.params.lookup index with
  | .found value => some value
  | .missing | .wrongSourceKind => none

/-- The first style with a key. -/
def Style.withKey? (key : String) (styles : List (Style Node)) : Option (Style Node) :=
  styles.find? (·.key == key)

/-- The style that a token shows.  A choice shows the first style with the rule key of its
value, else the first style with the key `other`, else its first style.  A map shows the first
style whose key is the text of its value.  An anchor wraps the first style with the key
`text`. -/
def Context.selected? (ctx : Context) : Node → Option (Style Node)
  | .text _ | .param _ | .number _ _ => none
  | .styled .choice index styles =>
    (((ctx.value? index).map ctx.ruleKey).bind (Style.withKey? · styles)).or
      ((Style.withKey? "other" styles).or styles.head?)
  | .styled .map index styles =>
    ((ctx.value? index).map Value.display).bind (Style.withKey? · styles)
  | .styled .anchor _ styles | .styled .link _ styles => Style.withKey? "text" styles

/-- What the selected style of a token comes to. -/
def Context.shown (ctx : Context) (node : Node) : Option (Except SubstitutionError String) :=
  (ctx.selected? node).map fun style => renderAll ctx style.items

/-- What a token makes of the rendering of its selected style. -/
def Context.frame (ctx : Context) (index : Index)
    (shown : Option (Except SubstitutionError String)) : Kind → Except SubstitutionError String
  | .choice => do
    let key ← ctx.choiceKey index
    shown.getD (.error (.noBranch index.fullName (key.getD "")))
  | .map => do
    let _ ← ctx.required index
    shown.getD (.ok "")
  | .anchor | .link => do
    let content ← shown.getD (.ok "")
    match ← ctx.required index with
    | some value => return (Decoration.ofValue value).wrap content
    | none => return content

/-! ## Values and keys -/

/-- A value that is needed is the value of the index, or it is refused. -/
theorem required_cases (ctx : Context) (index : Index) :
    ctx.required index = .ok (ctx.value? index) ∨ ∃ error, ctx.required index = .error error := by
  unfold Context.required Context.value? Context.absent
  cases ctx.params.lookup index with
  | found value => exact .inl rfl
  | missing | wrongSourceKind =>
    cases ctx.policy with
    | raise => exact .inr ⟨_, rfl⟩
    | degrade => exact .inl rfl

/-- A choice goes by the rule key of its value, or its value is refused. -/
theorem choiceKey_cases (ctx : Context) (index : Index) :
    ctx.choiceKey index = .ok ((ctx.value? index).map ctx.ruleKey) ∨
      ∃ error, ctx.choiceKey index = .error error := by
  unfold Context.choiceKey Context.value?
  cases ctx.params.lookup index with
  | found value => exact .inl rfl
  | missing => exact .inl rfl
  | wrongSourceKind =>
    cases ctx.policy with
    | raise => exact .inr ⟨_, rfl⟩
    | degrade => exact .inl rfl

/-! ## A token is a frame around its selected style -/

theorem renderStyle_eq (wanted : String → Bool) :
    renderStyle ctx wanted styles =
      (styles.find? (wanted ·.key)).map fun style => renderAll ctx style.items := by
  induction styles with
  | nil => rfl
  | cons style rest ih =>
    obtain ⟨key, items⟩ := style
    rw [renderStyle, List.find?_cons, ih]
    cases wanted key <;> rfl

theorem renderStyle_withKey (key : String) :
    renderStyle ctx (· == key) styles =
      (Style.withKey? key styles).map fun style => renderAll ctx style.items :=
  renderStyle_eq _

theorem renderStyle_first :
    renderStyle ctx (fun _ => true) styles =
      styles.head?.map fun style => renderAll ctx style.items := by
  rw [renderStyle_eq]
  cases styles <;> rfl

/-- The three attempts of a choice come to the style that it selects. -/
theorem renderStyle_choice (key : Option String) :
    (((key.bind fun key => renderStyle ctx (· == key) styles) <|>
      renderStyle ctx (· == fallbackKey) styles) <|> renderStyle ctx (fun _ => true) styles) =
      ((key.bind (Style.withKey? · styles)).or
        ((Style.withKey? "other" styles).or styles.head?)).map
          fun style => renderAll ctx style.items := by
  simp only [Option.orElse_eq_orElse, Option.orElse_eq_or, renderStyle_withKey, renderStyle_first,
    fallbackKey, Option.map_or, Option.map_bind, Option.or_assoc]
  rfl

/-- A token with styles is a frame around the rendering of its selected style. -/
theorem render_styled :
    (Node.styled kind index styles).render ctx =
      ctx.frame index (ctx.shown (.styled kind index styles)) kind := by
  cases kind with
  | choice =>
    simp only [render, Context.frame, renderStyle_choice]
    rcases choiceKey_cases ctx index with hkey | ⟨error, hkey⟩ <;> rw [hkey] <;> rfl
  | map =>
    simp only [render, Context.frame]
    rcases required_cases ctx index with hvalue | ⟨error, hvalue⟩
    · rw [hvalue]
      simp only [Context.shown, Context.selected?]
      cases ctx.value? index with
      | none => rfl
      | some value => exact congrArg (Option.getD · _) (renderStyle_withKey value.display)
    · rw [hvalue]
      rfl
  | anchor | link =>
    simp only [render, Context.frame, renderStyle_withKey]
    rfl

/-- A token that shows nothing has no error but its own. -/
theorem exists_of_shown {default : Except SubstitutionError String}
    (h : (ctx.shown node).getD default = .error error) :
    (ctx.selected? node = none ∧ default = .error error) ∨
      ∃ style, ctx.selected? node = some style ∧ renderAll ctx style.items = .error error := by
  unfold Context.shown at h
  cases hstyle : ctx.selected? node with
  | none =>
    rw [hstyle] at h
    exact .inl ⟨rfl, h⟩
  | some style =>
    rw [hstyle] at h
    exact .inr ⟨style, rfl, h⟩

/-! ## Which style is selected -/

theorem mem_of_withKey? {style : Style Node} (h : Style.withKey? key styles = some style) :
    style ∈ styles :=
  List.mem_of_find?_eq_some h

theorem key_of_withKey? {style : Style Node} (h : Style.withKey? key styles = some style) :
    style.key = key := by
  simpa only [beq_iff_eq] using List.find?_some h

theorem withKey?_eq_none :
    Style.withKey? key styles = none ↔ ∀ style ∈ styles, style.key ≠ key := by
  rw [Style.withKey?, List.find?_eq_none]
  simp only [beq_iff_eq, ne_eq]

/-- The selected style is one of the styles of the token. -/
theorem mem_styles_of_selected? {style : Style Node} (h : ctx.selected? node = some style) :
    style ∈ node.styles := by
  have hword {word : Option String} {styles : List (Style Node)}
      (h : word.bind (Style.withKey? · styles) = some style) : style ∈ styles := by
    obtain ⟨key, -, hkey⟩ := Option.bind_eq_some_iff.mp h
    exact mem_of_withKey? hkey
  cases node with
  | text | param | number => contradiction
  | styled kind index styles =>
    cases kind with
    | choice =>
      rcases Option.or_eq_some_iff.mp h with h | ⟨-, h⟩
      · exact hword h
      · rcases Option.or_eq_some_iff.mp h with h | ⟨-, h⟩
        · exact mem_of_withKey? h
        · exact List.mem_of_mem_head? h
    | map => exact hword h
    | anchor | link => exact mem_of_withKey? h

/-- A choice selects a style unless it has none. -/
theorem eq_nil_of_selected? (h : ctx.selected? (.styled .choice index styles) = none) :
    styles = [] := by
  obtain ⟨-, h⟩ := Option.or_eq_none_iff.mp h
  obtain ⟨-, h⟩ := Option.or_eq_none_iff.mp h
  exact List.head?_eq_none_iff.mp h

/-! ## A value that is found -/

theorem required_of_found (hlookup : ctx.params.lookup index = .found value) :
    ctx.required index = .ok (some value) := by
  rw [Context.required, hlookup]

theorem render_param_of_found (hlookup : ctx.params.lookup index = .found value) :
    (Node.param index).render ctx = .ok value.display := by
  rw [render, required_of_found hlookup]
  rfl

theorem render_number_of_found (format : Option String)
    (hlookup : ctx.params.lookup index = .found value) :
    (Node.number index format).render ctx = .ok (formatNumber value format) := by
  rw [render, required_of_found hlookup]
  rfl

/-! ## A choice of a value -/

/-- The style that a choice shows for a rule key. -/
def Style.forRuleKey? (key : String) (styles : List (Style Node)) : Option (Style Node) :=
  (Style.withKey? key styles).or ((Style.withKey? "other" styles).or styles.head?)

/-- What a choice comes to for a rule key. -/
def Context.renderForRuleKey (ctx : Context) (index : Index) (key : String)
    (styles : List (Style Node)) : Except SubstitutionError String :=
  match Style.forRuleKey? key styles with
  | some style => renderAll ctx style.items
  | none => .error (.noBranch index.fullName key)

/-- A choice of a value selects a style by the rule key of the value. -/
theorem selected?_of_found (hlookup : ctx.params.lookup index = .found value) :
    ctx.selected? (.styled .choice index styles) =
      Style.forRuleKey? (ctx.ruleKey value) styles := by
  have hvalue : ctx.value? index = some value := by
    rw [Context.value?, hlookup]
  rw [Context.selected?, hvalue]
  rfl

/-- A choice of a value goes by the rule key of the value. -/
theorem render_choice_of_found (hlookup : ctx.params.lookup index = .found value) :
    (Node.styled .choice index styles).render ctx =
      ctx.renderForRuleKey index (ctx.ruleKey value) styles := by
  have hkey : ctx.choiceKey index = .ok (some (ctx.ruleKey value)) := by
    rw [Context.choiceKey, hlookup]
  rw [render_styled, Context.frame, hkey, Context.shown, selected?_of_found hlookup,
    Context.renderForRuleKey]
  cases Style.forRuleKey? (ctx.ruleKey value) styles <;> rfl

/-- The style for a rule key has this key, or it is the first one with the key `other` when
none has the rule key, or it is the first one of all when none has either. -/
theorem forRuleKey?_cases {style : Style Node} (h : Style.forRuleKey? key styles = some style) :
    style.key = key ∨ style.key = "other" ∨
      styles.head? = some style ∧ ∀ other ∈ styles, other.key ≠ key ∧ other.key ≠ "other" := by
  rcases Option.or_eq_some_iff.mp h with h | ⟨hrule, h⟩
  · exact .inl (key_of_withKey? h)
  · rcases Option.or_eq_some_iff.mp h with h | ⟨hother, h⟩
    · exact .inr (.inl (key_of_withKey? h))
    · have hrule := withKey?_eq_none.mp hrule
      have hother := withKey?_eq_none.mp hother
      exact .inr (.inr ⟨h, fun other hmem => ⟨hrule other hmem, hother other hmem⟩⟩)

/-! ## Keys and selection -/

theorem map_key_withKey? :
    (Style.withKey? key styles).map Style.key = (styles.map Style.key).find? (· == key) := by
  rw [List.find?_map]
  rfl

theorem map_key_head? : styles.head?.map Style.key = (styles.map Style.key).head? :=
  List.head?_map.symm

/-- Which style is selected depends on the keys of the styles and not on their items. -/
theorem map_key_selected? (hkeys : styles.map Style.key = styles'.map Style.key) :
    (ctx.selected? (.styled kind index styles)).map Style.key =
      (ctx.selected? (.styled kind index styles')).map Style.key := by
  have hkey (key : String) : (Style.withKey? key styles).map Style.key =
      (Style.withKey? key styles').map Style.key := by
    rw [map_key_withKey?, map_key_withKey?, hkeys]
  have hword (word : Option String) : (word.bind (Style.withKey? · styles)).map Style.key =
      (word.bind (Style.withKey? · styles')).map Style.key := by
    cases word with
    | none => rfl
    | some key => exact hkey key
  cases kind with
  | choice =>
    simp only [Context.selected?, Option.map_or, hword, hkey, map_key_head?, hkeys]
  | map => exact hword _
  | anchor | link => exact hkey "text"

/-! ## Visible nodes -/

/-- The node stands in the list, and at no depth inside a style that is not selected. -/
inductive Visible (ctx : Context) (node : Node) : List Node → Prop where
  | here {nodes : List Node} (hnode : node ∈ nodes) : Visible ctx node nodes
  | inside {outer : Node} {style : Style Node} {nodes : List Node} (houter : outer ∈ nodes)
      (hstyle : ctx.selected? outer = some style) (hitems : Visible ctx node style.items) :
      Visible ctx node nodes

theorem Visible.tail {outer : Node} (h : Visible ctx node nodes) :
    Visible ctx node (outer :: nodes) := by
  cases h with
  | here hnode => exact .here (List.mem_cons_of_mem _ hnode)
  | inside houter hstyle hitems => exact .inside (List.mem_cons_of_mem _ houter) hstyle hitems

/-- What is visible occurs. -/
theorem Visible.occurs (h : Visible ctx node nodes) : Occurs node nodes := by
  induction h with
  | here hnode => exact .here hnode
  | inside houter hstyle _ ih => exact .inside houter (mem_styles_of_selected? hstyle) ih

end MessageTemplate
