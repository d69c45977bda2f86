import MessageTemplate.Proofs.Registry
import MessageTemplate.Proofs.Template.Concatenation
import MessageTemplate.Render

/-!
# Rendering a concatenation

The nodes of a template are rendered one after the other, and none of them sees what stands
before it.  So the rendering of two joined templates is that of the first and then that of
the second, also where a text grows across the seam, and the registry of the second adds
the entries whose indices the first does not have.  For the same reason rendering does not
see whether a template is in normal form.
-/

namespace MessageTemplate

open Node

variable {ctx : Context} {node : Node} {nodes : List Node} {value : String}
  {first second : Template}

/-! ## Two renderings in a row -/

/-- What a rendering comes to. -/
abbrev Rendering := Except SubstitutionError String

namespace Rendering

/-- The text of the first rendering and then that of the second; the first error counts. -/
def append (a b : Rendering) : Rendering := do
  let text ← a
  let rest ← b
  return text ++ rest

variable {a b c : Rendering} {text rest : String} {error : SubstitutionError}

@[simp] theorem error_append : append (.error error) b = .error error := rfl

@[simp] theorem ok_append_error : append (.ok text) (.error error) = .error error := rfl

@[simp] theorem ok_append_ok : append (.ok text) (.ok rest) = .ok (text ++ rest) := rfl

@[simp] theorem empty_append : append (.ok "") b = b := by
  cases b with
  | error => rfl
  | ok rest => rw [ok_append_ok, String.empty_append]

@[simp] theorem append_empty : append a (.ok "") = a := by
  cases a with
  | error => rfl
  | ok text => rw [ok_append_ok, String.append_empty]

theorem append_assoc : append (append a b) c = append a (append b c) := by
  cases a with
  | error => rfl
  | ok text =>
    cases b with
    | error => rfl
    | ok rest =>
      cases c with
      | error => rfl
      | ok last => simp only [ok_append_ok, String.append_assoc]

end Rendering

/-! ## Joined templates -/

theorem renderAll_cons :
    renderAll ctx (node :: nodes) = Rendering.append (node.render ctx) (renderAll ctx nodes) := rfl

theorem renderAll_singleton : renderAll ctx [node] = node.render ctx := by
  rw [renderAll_cons]
  exact Rendering.append_empty

/-- A text that is fused with the nodes behind it is rendered in front of them. -/
theorem renderAll_fuse :
    renderAll ctx (fuse value nodes) = Rendering.append (.ok value) (renderAll ctx nodes) := by
  unfold fuse
  split
  · next other rest =>
    rw [renderAll_cons, renderAll_cons, ← Rendering.append_assoc]
    rfl
  · rfl

/-! ## Normal form -/

theorem renderAll_prepend :
    renderAll ctx (prepend node nodes) =
      Rendering.append (node.render ctx) (renderAll ctx nodes) := by
  cases node with
  | text value =>
    rw [prepend]
    split
    · next hempty =>
      subst hempty
      exact Rendering.empty_append.symm
    · exact renderAll_fuse
  | param | number | styled => rfl

theorem renderStyle_normal {styles : List (Style Node)} (wanted : String → Bool)
    (h : ∀ style ∈ styles, renderAll ctx (normalAll style.items) = renderAll ctx style.items) :
    renderStyle ctx wanted (normalStyles styles) = renderStyle ctx wanted styles := by
  induction styles with
  | nil => rfl
  | cons style rest ih =>
    obtain ⟨hstyle, hrest⟩ := List.forall_mem_cons.mp h
    obtain ⟨key, items⟩ := style
    rw [normalStyles, normalStyle, renderStyle, renderStyle, renderItems, renderItems, hstyle,
      ih hrest]

theorem render_normal
    (h : ∀ style ∈ node.styles, renderAll ctx (normalAll style.items) = renderAll ctx style.items) :
    node.normal.render ctx = node.render ctx := by
  cases node with
  | text | param | number => rfl
  | styled kind index styles =>
    have hshown (wanted : String → Bool) :
        renderStyle ctx wanted (normalStyles styles) = renderStyle ctx wanted styles :=
      renderStyle_normal wanted h
    rw [normal]
    cases kind <;> simp only [render, hshown]

/-- The normal form of some nodes is rendered like the nodes. -/
theorem renderAll_normal (nodes : List Node) :
    renderAll ctx (normalAll nodes) = renderAll ctx nodes := by
  induction nodes using Node.induction with
  | nil => rfl
  | cons node rest hitems ih =>
    rw [normalAll, renderAll_prepend, render_normal hitems, ih, renderAll_cons]

/-! ## Registries -/

theorem Registry.collectAll_fuse {known : List Token} :
    collectAll known (fuse value nodes) = collectAll known nodes := by
  unfold fuse
  split <;> rfl

namespace Template

/-- Joined templates are rendered one after the other. -/
theorem render_append :
    (append first second).render ctx =
      Rendering.append (first.render ctx) (second.render ctx) := by
  simp only [render]
  -- On the first template: only its last node can meet the second one.
  induction first with
  | nil => exact Rendering.empty_append.symm
  | cons node first ih =>
    cases first with
    | nil =>
      rw [renderAll_singleton]
      cases node with
      | text value => exact renderAll_fuse
      | param | number | styled => rfl
    | cons next first =>
      rw [cons_cons_append, renderAll_cons, ih, ← Rendering.append_assoc]
      rfl

theorem collectAll_append {known : List Token} :
    Registry.collectAll known (append first second) =
      Registry.collectAll (Registry.collectAll known first) second := by
  induction first generalizing known with
  | nil => rfl
  | cons node first ih =>
    cases first with
    | nil =>
      cases node with
      | text value => exact Registry.collectAll_fuse
      | param | number | styled => rfl
    | cons next first =>
      rw [cons_cons_append, Registry.collectAll, ih]
      rfl

/-- The second of two joined templates adds the entries whose indices are new. -/
theorem tokens_append :
    (append first second).tokens = Registry.extend first.tokens second.tokens := by
  rw [tokens, collectAll_append, Registry.collectAll_eq_extend]
  rfl

/-- Rendering and the registry go through the concatenation of two sources that parse.  The
concatenation parses.  It is rendered as the first template and then the second, and the
first error that is met is the error.  Its registry is that of the first template, and
behind it stand the entries of the second whose indices are new. -/
theorem render_and_tokens_of_concatenation (a b : String) (first second : Template)
    (ha : parse a = .ok first) (hb : parse b = .ok second) :
    ∃ both, parse (a ++ b) = .ok both ∧
      (∀ ctx : Context,
        (∀ error, first.render ctx = .error error → both.render ctx = .error error) ∧
        (∀ text error, first.render ctx = .ok text → second.render ctx = .error error →
          both.render ctx = .error error) ∧
        ∀ text rest, first.render ctx = .ok text → second.render ctx = .ok rest →
          both.render ctx = .ok (text ++ rest)) ∧
      both.tokens = first.tokens ++
        second.tokens.filter (fun token => token.index ∉ first.tokens.map Token.index) := by
  refine ⟨append first second, read_append ha hb, fun ctx => ⟨?_, ?_, ?_⟩, tokens_append⟩
  · intro error hfirst
    rw [render_append, hfirst, Rendering.error_append]
  · intro text error hfirst hsecond
    rw [render_append, hfirst, hsecond, Rendering.ok_append_error]
  · intro text rest hfirst hsecond
    rw [render_append, hfirst, hsecond, Rendering.ok_append_ok]

/-- A plain token and text, and behind it text and two numbers. -/
theorem render_and_tokens_of_concatenation_numbers :
    let front : Template := [.param (.position 0), .text "a"]
    let back : Template := [.text "b", .number (.position 0) none, .number (.named "n") none]
    parse "\x7b0\x7da" = .ok front ∧ parse "b\x7b0,number\x7d\x7b:n,number\x7d" = .ok back ∧
      ∃ both, parse ("\x7b0\x7da" ++ "b\x7b0,number\x7d\x7b:n,number\x7d") = .ok both ∧
        both.render ⟨"en", .none, Plural.singularPlural, .raise⟩ =
          .error (.missingValue "\x7b0\x7d") ∧
        both.render ⟨"en", .positional [.bool true], Plural.singularPlural, .raise⟩ =
          .error (.wrongSourceKind "\x7b:n\x7d") ∧
        both.render ⟨"en", .named [("0", .text "u"), ("n", .bool true)], Plural.singularPlural,
          .raise⟩ = .ok "uabutrue" ∧
        both.tokens.map (fun token => (token.fullName, token.contexts)) =
          [("\x7b0\x7d", []), ("\x7b:n\x7d", [.number])] := by
  intro front back
  have hfront : parse "\x7b0\x7da" = .ok front :=
    @read_print (some maxNesting) front (by decide) (allows_some.mpr (by decide))
  have hback : parse "b\x7b0,number\x7d\x7b:n,number\x7d" = .ok back :=
    @read_print (some maxNesting) back (by decide) (allows_some.mpr (by decide))
  obtain ⟨both, hboth, hrender, htokens⟩ :=
    render_and_tokens_of_concatenation _ _ front back hfront hback
  refine ⟨hfront, hback, both, hboth, ?_, ?_, ?_, ?_⟩
  · exact (hrender _).1 _ rfl
  · exact (hrender _).2.1 _ _ rfl rfl
  · exact (hrender _).2.2 "ua" "butrue" rfl rfl
  · rw [htokens]
    rfl

end Template

end MessageTemplate
