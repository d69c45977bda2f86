import MessageTemplate.Proofs.Registry
import MessageTemplate.Proofs.Render.Selection
import MessageTemplate.Proofs.Template.RoundTrip

/-!
# Why a rendering fails

Every error of a rendering has a node to blame for it: one whose value is missing,
one whose name is read from positional parameters, or a choice without styles.  The
node is visible, that is, it stands in no style that is not selected.  It occurs in the
template, so its index is in the registry, and a template that was parsed has no choice
without styles.  What a policy and some parameters rule out for single nodes is thereby
ruled out for whole templates.
-/

namespace MessageTemplate

open Node

variable {ctx : Context} {node : Node} {nodes : List Node} {index : Index}
  {error : SubstitutionError}

/-- The index of a node that cannot do without its value: of every token but a
choice. -/
def Node.required? : Node → Option Index
  | text _ | styled .choice _ _ => none
  | param index | number index _ | styled _ index _ => some index

/-- The node is to blame for the error, whatever its styles come to. -/
inductive Blame (ctx : Context) : Node → SubstitutionError → Prop where
  | missingValue {node : Node} {index : Index} (hindex : node.required? = some index)
      (hpolicy : ctx.policy = .raise) (hlookup : ctx.params.lookup index = .missing) :
      Blame ctx node (.missingValue index.fullName)
  | wrongSourceKind {node : Node} {index : Index} (hindex : node.index? = some index)
      (hpolicy : ctx.policy = .raise) (hlookup : ctx.params.lookup index = .wrongSourceKind) :
      Blame ctx node (.wrongSourceKind index.fullName)
  | noBranch {index : Index} (key : String) :
      Blame ctx (.styled .choice index []) (.noBranch index.fullName key)

theorem Node.index?_of_required? (h : node.required? = some index) : node.index? = some index := by
  cases node with
  | text => contradiction
  | param | number => exact h
  | styled kind => cases kind <;> first | contradiction | exact h

/-! ## Errors of one node -/

theorem bind_eq_error {ε α β : Type} {x : Except ε α} {f : α → Except ε β} {e : ε} :
    x >>= f = .error e ↔ x = .error e ∨ ∃ a, x = .ok a ∧ f a = .error e := by
  cases x <;> simp [bind, Except.bind]

/-- A value that is needed is refused for the one reason or the other. -/
theorem blame_of_required (hindex : node.required? = some index)
    (h : ctx.required index = .error error) : Blame ctx node error := by
  unfold Context.required Context.absent at h
  split at h
  · contradiction
  · next hlookup =>
    split at h
    · next hpolicy =>
      obtain rfl := Except.error.inj h
      exact .missingValue hindex hpolicy hlookup
    · contradiction
  · next hlookup =>
    split at h
    · next hpolicy =>
      obtain rfl := Except.error.inj h
      exact .wrongSourceKind (index?_of_required? hindex) hpolicy hlookup
    · contradiction

/-- The value of a choice is refused when a name is read from positional parameters. -/
theorem blame_of_choiceKey (hindex : node.index? = some index)
    (h : ctx.choiceKey index = .error error) : Blame ctx node error := by
  unfold Context.choiceKey at h
  split at h
  · contradiction
  · contradiction
  · next hlookup =>
    split at h
    · next hpolicy =>
      obtain rfl := Except.error.inj h
      exact .wrongSourceKind hindex hpolicy hlookup
    · contradiction

/-- An error of a node is its own or one of the items of its selected style. -/
theorem blame_of_render (h : node.render ctx = .error error) :
    Blame ctx node error ∨
      ∃ style, ctx.selected? node = some style ∧ renderAll ctx style.items = .error error := by
  cases node with
  | text value => contradiction
  | param | number =>
    simp only [render] at h
    rcases bind_eq_error.mp h with h | ⟨value, _, h⟩
    · exact .inl (blame_of_required rfl h)
    · cases value <;> contradiction
  | styled kind index styles =>
    rw [render_styled] at h
    cases kind with
    | choice =>
      rcases bind_eq_error.mp h with h | ⟨key, _, h⟩
      · exact .inl (blame_of_choiceKey rfl h)
      · rcases exists_of_shown h with ⟨hnone, herror⟩ | hsome
        · obtain rfl := eq_nil_of_selected? hnone
          obtain rfl := Except.error.inj herror
          exact .inl (.noBranch _)
        · exact .inr hsome
    | map =>
      rcases bind_eq_error.mp h with h | ⟨value, _, h⟩
      · exact .inl (blame_of_required rfl h)
      · rcases exists_of_shown h with ⟨_, herror⟩ | hsome
        · contradiction
        · exact .inr hsome
    | anchor | link =>
      rcases bind_eq_error.mp h with h | ⟨content, _, h⟩
      · rcases exists_of_shown h with ⟨_, herror⟩ | hsome
        · contradiction
        · exact .inr hsome
      · rcases bind_eq_error.mp h with h | ⟨value, _, h⟩
        · exact .inl (blame_of_required rfl h)
        · cases value <;> contradiction

/-! ## Errors of a template -/

/-- Every error has a visible node to blame for it. -/
theorem visible_of_renderAll (h : renderAll ctx nodes = .error error) :
    ∃ node, Visible ctx node nodes ∧ Blame ctx node error := by
  induction nodes using Node.induction with
  | nil => contradiction
  | cons node rest hitems ih =>
    rw [renderAll] at h
    rcases bind_eq_error.mp h with h | ⟨first, _, h⟩
    · rcases blame_of_render h with hblame | ⟨style, hstyle, h⟩
      · exact ⟨node, .here List.mem_cons_self, hblame⟩
      · obtain ⟨inner, hinner, hblame⟩ := hitems style (mem_styles_of_selected? hstyle) h
        exact ⟨inner, .inside List.mem_cons_self hstyle hinner, hblame⟩
    · rcases bind_eq_error.mp h with h | ⟨others, _, h⟩
      · obtain ⟨inner, hinner, hblame⟩ := ih h
        exact ⟨inner, hinner.tail, hblame⟩
      · contradiction

/-- Every error has a node to blame for it. -/
theorem blame_of_renderAll (h : renderAll ctx nodes = .error error) :
    ∃ node, Occurs node nodes ∧ Blame ctx node error := by
  obtain ⟨node, hnode, hblame⟩ := visible_of_renderAll h
  exact ⟨node, hnode.occurs, hblame⟩

/-- A name that is read from positional parameters is the only value of the wrong
kind. -/
theorem Params.lookup_eq_wrongSourceKind {params : Params} :
    params.lookup index = .wrongSourceKind ↔
      (∃ values, params = .positional values) ∧ ∃ name, index = .named name := by
  have hoption (o : Option Value) : Lookup.ofOption o ≠ .wrongSourceKind := by
    cases o <;> simp [Lookup.ofOption]
  cases params <;> cases index <;> simp [Params.lookup, hoption]

/-- A choice of a printable template has a style. -/
theorem Blame.ne_noBranch {outermost : Bool} (h : Blame ctx node error)
    (hnodes : PrintableAll outermost nodes) (hnode : Occurs node nodes) (token key : String) :
    error ≠ .noBranch token key := by
  cases h with
  | missingValue | wrongSourceKind => simp
  | noBranch =>
    obtain ⟨_, hprintable⟩ := hnode.printable hnodes
    exact absurd rfl (hprintable.2.1 (.inl rfl))

namespace Template

variable {template : Template}

/-- A rendering without a node to blame succeeds. -/
theorem exists_render_eq_ok
    (h : ∀ error node, Occurs node template → ¬Blame ctx node error) :
    ∃ out, template.render ctx = .ok out := by
  cases hrender : template.render ctx with
  | ok out => exact ⟨out, rfl⟩
  | error error =>
    obtain ⟨node, hnode, hblame⟩ := blame_of_renderAll hrender
    exact absurd hblame (h error node hnode)

/-- The registry is enough: a printable template is rendered when every index in it
has a value. -/
theorem exists_render_of_tokens (htemplate : template.Printable)
    (h : ∀ token ∈ template.tokens, ∃ value, ctx.params.lookup token.index = .found value) :
    ∃ out, template.render ctx = .ok out := by
  refine exists_render_eq_ok fun error node hnode hblame => ?_
  have hfound {index : Index} (hindex : node.index? = some index) :
      ∃ value, ctx.params.lookup index = .found value := by
    obtain ⟨token, htoken, rfl⟩ := covers_tokens.mpr ⟨node, hnode, hindex⟩
    exact h token htoken
  have hbranch := hblame.ne_noBranch htemplate hnode
  cases hblame with
  | missingValue hindex _ hlookup =>
    obtain ⟨value, hvalue⟩ := hfound (index?_of_required? hindex)
    rw [hlookup] at hvalue
    contradiction
  | wrongSourceKind hindex _ hlookup =>
    obtain ⟨value, hvalue⟩ := hfound hindex
    rw [hlookup] at hvalue
    contradiction
  | noBranch => exact hbranch _ _ rfl

/-- Degraded rendering of a printable template does not fail. -/
theorem exists_render_of_degrade (htemplate : template.Printable) (h : ctx.policy = .degrade) :
    ∃ out, template.render ctx = .ok out := by
  refine exists_render_eq_ok fun error node hnode hblame => ?_
  have hbranch := hblame.ne_noBranch htemplate hnode
  cases hblame with
  | missingValue _ hpolicy _ | wrongSourceKind _ hpolicy _ =>
    rw [h] at hpolicy
    contradiction
  | noBranch => exact hbranch _ _ rfl

/-- The rendering of a parsed template.  It succeeds when every index of the registry
has a value, and whenever the policy degrades.  Otherwise a value is missing that its
node cannot do without, or a name is read from positional parameters. -/
theorem render_of_parse (source : String) (template : Template) (ctx : Context)
    (h : parse source = .ok template) :
    ((∀ token ∈ template.tokens, ∃ value, ctx.params.lookup token.index = .found value) →
      ∃ out, template.render ctx = .ok out) ∧
    (ctx.policy = .degrade → ∃ out, template.render ctx = .ok out) ∧
    (ctx.policy = .raise → ∀ error, template.render ctx = .error error →
      (∃ node index, Occurs node template ∧ node.required? = some index ∧
        ctx.params.lookup index = .missing ∧ error = .missingValue index.fullName) ∨
      ∃ node name, Occurs node template ∧ node.index? = some (.named name) ∧
        (∃ values, ctx.params = .positional values) ∧
        error = .wrongSourceKind (Index.named name).fullName) ∧
    ∀ token key, template.render ctx ≠ .error (.noBranch token key) := by
  obtain ⟨htemplate, -⟩ := normal_of_read h
  refine ⟨exists_render_of_tokens htemplate, exists_render_of_degrade htemplate, ?_, ?_⟩
  · intro _ error herror
    obtain ⟨node, hnode, hblame⟩ := blame_of_renderAll herror
    have hbranch := hblame.ne_noBranch htemplate hnode
    cases hblame with
    | missingValue hindex _ hlookup => exact .inl ⟨node, _, hnode, hindex, hlookup, rfl⟩
    | wrongSourceKind hindex _ hlookup =>
      obtain ⟨hparams, name, rfl⟩ := Params.lookup_eq_wrongSourceKind.mp hlookup
      exact .inr ⟨node, name, hnode, hindex, hparams, rfl⟩
    | noBranch => exact absurd rfl (hbranch _ _)
  · intro token key herror
    obtain ⟨node, hnode, hblame⟩ := blame_of_renderAll herror
    exact hblame.ne_noBranch htemplate hnode token key rfl

/-- A map inside a choice behind a plain token. -/
def mapInChoice : Template :=
  [.param (.position 0), .styled .choice (.named "n")
    [⟨"other", [.styled .map (.position 1) [⟨"a", [.text "x"]⟩]]⟩]]

/-- Rendering with some parameters in English. -/
def english (params : Params) (policy : Policy) : Context :=
  ⟨"en", params, Plural.singularPlural, policy⟩

theorem render_of_parse_mapInChoice :
    parse mapInChoice.print = .ok mapInChoice ∧
      (∃ out, mapInChoice.render
        (english (.named [("0", .text "u"), ("1", .text "a"), ("n", .bool true)]) .raise) =
          .ok out) ∧
      (∃ out, mapInChoice.render (english .none .degrade) = .ok out) ∧
      mapInChoice.render (english .none .raise) = .error (.missingValue "\x7b0\x7d") ∧
      ∃ node index, Occurs node mapInChoice ∧ node.required? = some index ∧
        Params.none.lookup index = .missing ∧ index.fullName = "\x7b0\x7d" := by
  have hparse : parse mapInChoice.print = .ok mapInChoice :=
    @read_print (some maxNesting) mapInChoice (by decide) (allows_some.mpr (by decide))
  have herror : mapInChoice.render (english .none .raise) =
      .error (.missingValue "\x7b0\x7d") := rfl
  refine ⟨hparse, ?_, ?_, herror, ?_⟩
  · refine (render_of_parse mapInChoice.print mapInChoice _ hparse).1 fun token htoken => ?_
    have htokens : mapInChoice.tokens.map Token.index =
        [.position 0, .named "n", .position 1] := rfl
    have hindex := List.mem_map_of_mem (f := Token.index) htoken
    rw [htokens] at hindex
    simp only [List.mem_cons, List.not_mem_nil, or_false] at hindex
    rcases hindex with h | h | h
    · exact ⟨.text "u", by rw [h]; rfl⟩
    · exact ⟨.bool true, by rw [h]; rfl⟩
    · exact ⟨.text "a", by rw [h]; rfl⟩
  · exact (render_of_parse mapInChoice.print mapInChoice _ hparse).2.1 rfl
  · rcases (render_of_parse mapInChoice.print mapInChoice _ hparse).2.2.1 rfl _ herror with h | h
    · obtain ⟨node, index, hnode, hindex, hlookup, hname⟩ := h
      exact ⟨node, index, hnode, hindex, hlookup, (SubstitutionError.missingValue.inj hname).symm⟩
    · obtain ⟨_, _, _, _, _, hname⟩ := h
      contradiction

end Template

end MessageTemplate
