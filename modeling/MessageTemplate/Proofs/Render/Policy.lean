import MessageTemplate.Proofs.Template.Tree
import MessageTemplate.Render

/-!
# What the policy changes

Rendering under `degrade` goes with rendering under `raise`.  `Softens` relates the two
outcomes of one step: the one under `degrade` reports no missing value, and both are equal
unless the one under `raise` does.  The relation goes through the sequence of two steps and
through the choice of a style, since neither looks at the policy.  So it holds of nodes and,
by induction over the tree, of whole templates, whether or not they were parsed.
-/

namespace MessageTemplate

open Node

variable {α β : Type} {ctx : Context} {node : Node} {nodes : List Node}
  {styles : List (Style Node)} {error : SubstitutionError}

/-! ## Two outcomes -/

/-- The error says that a token has no value that it can read. -/
def SubstitutionError.IsAbsence : SubstitutionError → Prop
  | missingValue _ | wrongSourceKind _ => True
  | noBranch _ _ => False

/-- The outcome is not the absence of a value. -/
def NoAbsence (outcome : Except SubstitutionError α) : Prop :=
  ∀ error, outcome = .error error → ¬error.IsAbsence

/-- The second outcome is no absence of a value, and it is the first one unless that is
such an absence. -/
structure Softens (raised degraded : Except SubstitutionError α) : Prop where
  noAbsence : NoAbsence degraded
  eq : NoAbsence raised → degraded = raised

theorem noAbsence_ok (a : α) : NoAbsence (.ok a) := by
  intro error h
  contradiction

theorem noAbsence_noBranch (token key : String) :
    NoAbsence (.error (.noBranch token key) : Except SubstitutionError α) := by
  intro error h
  obtain rfl := Except.error.inj h
  exact id

theorem NoAbsence.softens {outcome : Except SubstitutionError α} (h : NoAbsence outcome) :
    Softens outcome outcome :=
  ⟨h, fun _ => rfl⟩

theorem softens_ok (a : α) : Softens (.ok a) (.ok a) :=
  (noAbsence_ok a).softens

/-- An absence goes with every outcome that is none. -/
theorem softens_of_isAbsence {degraded : Except SubstitutionError α} (herror : error.IsAbsence)
    (h : NoAbsence degraded) : Softens (.error error) degraded :=
  ⟨h, fun hraised => absurd herror (hraised error rfl)⟩

/-- Steps that go together may be followed by steps that do. -/
theorem Softens.bind {raised degraded : Except SubstitutionError α}
    {f g : α → Except SubstitutionError β} (h : Softens raised degraded)
    (hnext : ∀ a, Softens (f a) (g a)) : Softens (raised >>= f) (degraded >>= g) := by
  have hfirst (hall : NoAbsence (raised >>= f)) : NoAbsence raised := by
    intro error herror
    rw [herror] at hall
    exact hall error rfl
  cases degraded with
  | error error =>
    refine ⟨fun other hother => ?_, fun hall => ?_⟩
    · obtain rfl := Except.error.inj hother
      exact h.noAbsence error rfl
    · rw [← h.eq (hfirst hall)]
      rfl
  | ok a =>
    refine ⟨(hnext a).noAbsence, fun hall => ?_⟩
    obtain rfl := h.eq (hfirst hall)
    exact (hnext a).eq hall

/-! ## Optional outcomes -/

theorem softens_orElse {a b c d : Option (Except SubstitutionError α)}
    (hfirst : Option.Rel Softens a b) (hsecond : Option.Rel Softens c d) :
    Option.Rel Softens (a <|> c) (b <|> d) := by
  cases hfirst with
  | some h => exact .some h
  | none => exact hsecond

theorem softens_getD {a b : Option (Except SubstitutionError α)}
    {c d : Except SubstitutionError α} (h : Option.Rel Softens a b) (hdefault : Softens c d) :
    Softens (a.getD c) (b.getD d) := by
  cases h with
  | some h => exact h
  | none => exact hdefault

/-! ## Values -/

/-- The same context under another policy. -/
def Context.withPolicy (ctx : Context) (policy : Policy) : Context :=
  { ctx with policy }

theorem softens_absent (herror : error.IsAbsence) :
    Softens ((ctx.withPolicy .raise).absent error) ((ctx.withPolicy .degrade).absent error) :=
  softens_of_isAbsence herror (noAbsence_ok none)

theorem softens_required (index : Index) :
    Softens ((ctx.withPolicy .raise).required index)
      ((ctx.withPolicy .degrade).required index) := by
  have hraise : (ctx.withPolicy .raise).params = ctx.params := rfl
  have hdegrade : (ctx.withPolicy .degrade).params = ctx.params := rfl
  unfold Context.required
  rw [hraise, hdegrade]
  cases ctx.params.lookup index with
  | found value => exact softens_ok (some value)
  | missing | wrongSourceKind => exact softens_absent trivial

/-- A missing value leaves a choice without a key under both policies. -/
theorem softens_choiceKey (index : Index) :
    Softens ((ctx.withPolicy .raise).choiceKey index)
      ((ctx.withPolicy .degrade).choiceKey index) := by
  have hraise : (ctx.withPolicy .raise).params = ctx.params := rfl
  have hdegrade : (ctx.withPolicy .degrade).params = ctx.params := rfl
  unfold Context.choiceKey
  rw [hraise, hdegrade]
  cases ctx.params.lookup index with
  | found value => exact softens_ok (some (ctx.ruleKey value))
  | missing => exact softens_ok none
  | wrongSourceKind => exact softens_of_isAbsence trivial (noAbsence_ok none)

/-! ## Nodes -/

/-- The same style is shown under both policies. -/
theorem softens_renderStyle (wanted : String → Bool)
    (h : ∀ style ∈ styles, Softens (renderAll (ctx.withPolicy .raise) style.items)
      (renderAll (ctx.withPolicy .degrade) style.items)) :
    Option.Rel Softens (renderStyle (ctx.withPolicy .raise) wanted styles)
      (renderStyle (ctx.withPolicy .degrade) wanted styles) := by
  induction styles with
  | nil => exact .none
  | cons style rest ih =>
    obtain ⟨hstyle, hrest⟩ := List.forall_mem_cons.mp h
    obtain ⟨key, items⟩ := style
    rw [renderStyle, renderStyle]
    split
    · exact .some hstyle
    · exact ih hrest

theorem softens_render
    (hstyles : ∀ style ∈ node.styles, Softens (renderAll (ctx.withPolicy .raise) style.items)
      (renderAll (ctx.withPolicy .degrade) style.items)) :
    Softens (node.render (ctx.withPolicy .raise)) (node.render (ctx.withPolicy .degrade)) := by
  cases node with
  | text value => exact softens_ok value
  | param index | number index format =>
    simp only [render]
    refine (softens_required index).bind fun value => ?_
    cases value <;> exact softens_ok _
  | styled kind index styles =>
    have hshown (wanted : String → Bool) := softens_renderStyle wanted hstyles
    cases kind with
    | choice =>
      simp only [render]
      refine (softens_choiceKey index).bind fun key => ?_
      have hkey : Option.Rel Softens
          (key.bind fun key => renderStyle (ctx.withPolicy .raise) (· == key) styles)
          (key.bind fun key => renderStyle (ctx.withPolicy .degrade) (· == key) styles) := by
        cases key with
        | none => exact .none
        | some word => exact hshown (· == word)
      exact softens_getD (softens_orElse (softens_orElse hkey (hshown _)) (hshown _))
        (noAbsence_noBranch _ _).softens
    | map =>
      simp only [render]
      refine (softens_required index).bind fun value => ?_
      cases value with
      | none => exact softens_ok ""
      | some value => exact softens_getD (hshown _) (softens_ok "")
    | anchor | link =>
      simp only [render]
      refine (softens_getD (hshown _) (softens_ok "")).bind fun content => ?_
      refine (softens_required index).bind fun value => ?_
      cases value <;> exact softens_ok _

theorem softens_renderAll (nodes : List Node) :
    Softens (renderAll (ctx.withPolicy .raise) nodes)
      (renderAll (ctx.withPolicy .degrade) nodes) := by
  induction nodes using Node.induction with
  | nil => exact softens_ok ""
  | cons node rest hitems ih =>
    rw [renderAll, renderAll]
    refine (softens_render hitems).bind fun first => ?_
    exact ih.bind fun others => softens_ok _

namespace Template

/-- Degraded rendering adds only successes.  What is rendered under `raise` is rendered
alike under `degrade`, and a choice without styles is reported alike.  Under `degrade` no
value is reported as missing or as of the wrong kind, and every failure is one under `raise`
too. -/
theorem render_degrade_of_raise (template : Template) (ctx : Context) :
    (∀ text, template.render (ctx.withPolicy .raise) = .ok text →
      template.render (ctx.withPolicy .degrade) = .ok text) ∧
    (∀ token, template.render (ctx.withPolicy .degrade) ≠ .error (.missingValue token) ∧
      template.render (ctx.withPolicy .degrade) ≠ .error (.wrongSourceKind token)) ∧
    (∀ token key, template.render (ctx.withPolicy .raise) = .error (.noBranch token key) →
      template.render (ctx.withPolicy .degrade) = .error (.noBranch token key)) ∧
    ∀ error, template.render (ctx.withPolicy .degrade) = .error error →
      ∃ error', template.render (ctx.withPolicy .raise) = .error error' := by
  have hsoftens : Softens (template.render (ctx.withPolicy .raise))
      (template.render (ctx.withPolicy .degrade)) := softens_renderAll template
  have hsuccess (text : String) (h : template.render (ctx.withPolicy .raise) = .ok text) :
      template.render (ctx.withPolicy .degrade) = .ok text := by
    rw [hsoftens.eq (h ▸ noAbsence_ok text), h]
  refine ⟨hsuccess, fun token => ⟨fun h => ?_, fun h => ?_⟩, fun token key h => ?_,
    fun error h => ?_⟩
  · exact hsoftens.noAbsence _ h trivial
  · exact hsoftens.noAbsence _ h trivial
  · rw [hsoftens.eq (h ▸ noAbsence_noBranch token key), h]
  · cases hraise : template.render (ctx.withPolicy .raise) with
    | error error' => exact ⟨error', rfl⟩
    | ok text =>
      rw [hsuccess text hraise] at h
      contradiction

/-- A map with a choice that has no styles, and a plain token behind it. -/
def choiceInMap : Template :=
  [.styled .map (.named "k") [⟨"a", [.styled .choice (.position 1) []]⟩], .param (.named "u")]

/-- Rendering in English with named entries. -/
def entriesInEnglish (entries : Fields Value) : Context :=
  { language := "en", params := .named entries }

/-- The policies differ only where the value of the plain token is missing. -/
theorem render_degrade_of_raise_choiceInMap :
    let full := entriesInEnglish [("k", .text "b"), ("u", .text "x")]
    let noValue := entriesInEnglish [("k", .text "b")]
    let noStyle := entriesInEnglish [("k", .text "a")]
    choiceInMap.render (full.withPolicy .raise) = .ok "x" ∧
      choiceInMap.render (full.withPolicy .degrade) = .ok "x" ∧
      choiceInMap.render (noValue.withPolicy .raise) = .error (.missingValue "\x7b:u\x7d") ∧
      choiceInMap.render (noValue.withPolicy .degrade) = .ok "\x7b:u\x7d" ∧
      choiceInMap.render (noStyle.withPolicy .raise) = .error (.noBranch "\x7b1\x7d" "") ∧
      choiceInMap.render (noStyle.withPolicy .degrade) = .error (.noBranch "\x7b1\x7d" "") ∧
      ∃ error, choiceInMap.render (noStyle.withPolicy .raise) = .error error := by
  intro full noValue noStyle
  have hfull : choiceInMap.render (full.withPolicy .raise) = .ok "x" := rfl
  have hnoStyle : choiceInMap.render (noStyle.withPolicy .raise) =
      .error (.noBranch "\x7b1\x7d" "") := rfl
  obtain ⟨hsuccess, -, -, -⟩ := render_degrade_of_raise choiceInMap full
  obtain ⟨-, -, hbranch, hfailure⟩ := render_degrade_of_raise choiceInMap noStyle
  have hdegrade := hbranch _ _ hnoStyle
  exact ⟨hfull, hsuccess _ hfull, rfl, rfl, hnoStyle, hdegrade, hfailure _ hdegrade⟩

end Template

end MessageTemplate
