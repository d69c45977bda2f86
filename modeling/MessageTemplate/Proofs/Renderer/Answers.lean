import MessageTemplate.Proofs.Renderer.Run
import MessageTemplate.Proofs.Template.RoundTrip
import Mathlib.Data.List.Induction

/-!
# The cache is invisible

A renderer without a cache parses every source anew.  `Settings.answer` is what it answers:
it depends on the settings at the start and on the last changes of the language and of the
policy, and on nothing else that was done before.  A renderer with a cache gives the same
answers in every run, since what it has stored is what parsing would give.
-/

namespace MessageTemplate

/-! ## A renderer without a cache -/

/-- What a renderer is set to. -/
structure Settings where
  language : String := "en"
  policy : Policy := .raise
  resolver : Plural.Resolver := Plural.singularPlural

/-- Parses and renders a source. -/
def Template.format (source : String) (ctx : Context) : Except FormatError String :=
  match parse source with
  | .error error => .error (.parse error)
  | .ok template => (template.render ctx).mapError .substitution

namespace Settings

/-- A renderer that has read nothing yet. -/
def renderer (settings : Settings) : Renderer :=
  { language := settings.language, policy := settings.policy, resolver := settings.resolver }

/-- The language that was set last. -/
def languageAfter (settings : Settings) (ops : List Operation) : String :=
  (ops.reverse.findSome? Operation.language?).getD settings.language

/-- The policy that was set last. -/
def policyAfter (settings : Settings) (ops : List Operation) : Policy :=
  (ops.reverse.findSome? Operation.policy?).getD settings.policy

/-- Rendering in a language after some operations. -/
def contextAfter (settings : Settings) (ops : List Operation) (language : String)
    (params : Params) : Context :=
  ⟨language, params, settings.resolver, settings.policyAfter ops⟩

/-- The answer without a cache, after the operations `before`. -/
def answer (settings : Settings) (before : List Operation) : Operation → Answer Template
  | .parse source => .template (Template.parse source)
  | .format source params =>
    .text (Template.format source
      (settings.contextAfter before (settings.languageAfter before) params))
  | .formatIn language source params =>
    .text (Template.format source (settings.contextAfter before language params))
  | .tokens source => .tokens ((Template.parse source).map Template.tokens)
  | .setLanguage _ | .setPolicy _ | .clearCache => .done

end Settings

namespace Renderer

variable {renderer next : Renderer} {op : Operation}

/-! ## Settings along a run -/

theorem Change.language_eq (h : Change renderer op next) :
    next.language = op.language?.getD renderer.language := by
  cases h with
  | found hsource | refused hsource | stored hsource =>
    rw [(Operation.reads_only hsource).1]
    rfl
  | language | policy | cleared => rfl

theorem Change.policy_eq (h : Change renderer op next) :
    next.policy = op.policy?.getD renderer.policy := by
  cases h with
  | found hsource | refused hsource | stored hsource =>
    rw [(Operation.reads_only hsource).2.1]
    rfl
  | language | policy | cleared => rfl

theorem Change.resolver_eq (h : Change renderer op next) : next.resolver = renderer.resolver := by
  cases h <;> rfl

/-- A setting is the one that was made last. -/
theorem setting_after {α : Type} {get : Renderer → α} {set? : Operation → Option α}
    (h : ∀ renderer op next, Change renderer op next → get next = (set? op).getD (get renderer))
    (ops : List Operation) :
    get (renderer.after ops) = (ops.reverse.findSome? set?).getD (get renderer) := by
  induction ops using List.reverseRecOn with
  | nil => rfl
  | append_singleton ops op ih =>
    rw [after_concat, h _ _ _ (change_perform _ op), ih, List.reverse_concat, List.findSome?_cons]
    cases set? op <;> rfl

theorem language_after (settings : Settings) (ops : List Operation) :
    (settings.renderer.after ops).language = settings.languageAfter ops :=
  setting_after (fun _ _ _ => Change.language_eq) ops

theorem policy_after (settings : Settings) (ops : List Operation) :
    (settings.renderer.after ops).policy = settings.policyAfter ops :=
  setting_after (fun _ _ _ => Change.policy_eq) ops

theorem resolver_after (settings : Settings) (ops : List Operation) :
    (settings.renderer.after ops).resolver = settings.resolver :=
  after_induction (motive := fun renderer => renderer.resolver = settings.resolver)
    (fun _ _ _ hchange h => hchange.resolver_eq.trans h) ops rfl

/-! ## Answers -/

theorem coherent_renderer (settings : Settings) : settings.renderer.Coherent :=
  coherent_of_cache_eq_nil rfl

/-- Reading a source does not change what rendering reads. -/
theorem context_parse (source language : String) (params : Params) :
    (renderer.parse source).2.context language params = renderer.context language params := by
  unfold parse
  split
  · rfl
  · split <;> rfl

/-- Rendering from the cache is rendering what parsing gives. -/
theorem Coherent.formatIn_eq (h : renderer.Coherent) (language source : String)
    (params : Params) : (renderer.formatIn language source params).1 =
      Template.format source (renderer.context language params) := by
  have hcontext := @context_parse renderer source language params
  unfold formatIn Template.format
  rw [← h.parse_template source, ← hcontext]
  rcases renderer.parse source with ⟨error | tree, next⟩ <;> rfl

theorem Coherent.tokens_eq (h : renderer.Coherent) (source : String) :
    (renderer.tokens source).1 = (Template.parse source).map Template.tokens := by
  unfold tokens
  rw [← h.parse_template source]
  rcases renderer.parse source with ⟨error | tree, next⟩ <;> rfl

/-- One operation is answered as without a cache. -/
theorem perform_eq_answer (settings : Settings) (before : List Operation) (op : Operation) :
    ((settings.renderer.after before).perform op).1.map SharedTemplate.template =
      settings.answer before op := by
  have hcoherent := (coherent_renderer settings).after before
  have hlanguage := language_after settings before
  have hcontext (language : String) (params : Params) :
      (settings.renderer.after before).context language params =
        settings.contextAfter before language params := by
    unfold context Settings.contextAfter
    rw [policy_after, resolver_after]
  cases op with
  | parse source => exact congrArg Answer.template (hcoherent.parse_template source)
  | format source params =>
    have hformat := hcoherent.formatIn_eq (settings.renderer.after before).language source params
    rw [hcontext] at hformat
    refine (congrArg Answer.text hformat).trans ?_
    rw [hlanguage]
    rfl
  | formatIn language source params =>
    have hformat := hcoherent.formatIn_eq language source params
    rw [hcontext] at hformat
    exact congrArg Answer.text hformat
  | tokens source => exact congrArg Answer.tokens (hcoherent.tokens_eq source)
  | setLanguage | setPolicy | clearCache => rfl

/-- The cache is invisible.  In every run the answers are those of a renderer that parses
every source anew and renders it as the settings made last say; what an operation was asked
to render in a language of its own does not change the language.  Every entry of the cache
is the tree that parsing its source gives. -/
theorem answers_eq_answer (settings : Settings) (ops : List Operation) :
    (settings.renderer.answers ops).map (Answer.map SharedTemplate.template) =
        ops.mapIdx (fun i op => settings.answer (ops.take i) op) ∧
      (settings.renderer.after ops).language = settings.languageAfter ops ∧
      (settings.renderer.after ops).policy = settings.policyAfter ops ∧
      (settings.renderer.after ops).resolver = settings.resolver ∧
      ∀ source tree, (source, tree) ∈ (settings.renderer.after ops).cache →
        Template.parse source = .ok tree.template := by
  refine ⟨?_, language_after settings ops, policy_after settings ops,
    resolver_after settings ops, fun source tree hentry => ?_⟩
  · refine List.ext_getElem? fun i => ?_
    rw [List.getElem?_map, getElem?_answers, List.getElem?_mapIdx]
    cases ops[i]? with
    | none => rfl
    | some op => exact congrArg some (perform_eq_answer settings (ops.take i) op)
  · exact ((coherent_renderer settings).after ops).parse (source, tree) hentry

/-- A choice that shows its language. -/
def languageChoice : Template :=
  [.styled .choice (.position 0)
    [⟨"en", [.text "a"]⟩, ⟨"ru", [.text "b"]⟩, ⟨"de", [.text "c"]⟩]]

/-- The tree of the choice is read once and shown in three languages. -/
theorem answers_eq_answer_languageChoice :
    let settings : Settings := { resolver := fun language _ => language }
    let params : Params := .positional [.integer 1]
    let source := languageChoice.print
    let ops : List Operation := [.format source params, .setLanguage "ru", .format source params,
      .formatIn "de" source params, .format source params]
    (settings.renderer.answers ops).map (Answer.map SharedTemplate.template) =
        [.text (.ok "a"), .done, .text (.ok "b"), .text (.ok "c"), .text (.ok "b")] ∧
      (settings.renderer.after ops).language = "ru" ∧
      ∀ tree, (source, tree) ∈ (settings.renderer.after ops).cache →
        tree.template = languageChoice := by
  intro settings params source ops
  have hparse : Template.parse source = .ok languageChoice :=
    @Template.read_print (some Template.maxNesting) languageChoice (by decide)
      (allows_some.mpr (by decide))
  have hformat (ctx : Context) : Template.format source ctx =
      (languageChoice.render ctx).mapError .substitution := by
    simp only [Template.format, hparse]
  obtain ⟨hanswers, hlanguage, -, -, hcache⟩ := answers_eq_answer settings ops
  refine ⟨?_, hlanguage, fun tree hentry => ?_⟩
  · rw [hanswers]
    simp only [ops, List.mapIdx_cons, List.mapIdx_nil, Settings.answer, hformat]
    rfl
  · have htree := hcache source tree hentry
    rw [hparse] at htree
    exact (Except.ok.inj htree).symm

end Renderer

end MessageTemplate
