import MessageTemplate.Command.Run
import MessageTemplate.Proofs.Params.Json
import MessageTemplate.Proofs.Render.Errors
import MessageTemplate.Proofs.Renderer.Answers

/-!
# What `eval` comes to

A run of `eval` ends in one of three ways.  The parameters or the template cannot be read and
the command fails; both can be read and the rendering has an error, which is reported on one
line; or the rendering succeeds and is printed.  The exit code tells the three apart, and only
the last one prints anything.

A report is a single line because the indices of a template that was parsed are words: an error
names the token of such an index, and no word holds a line feed.
-/

namespace MessageTemplate

open Text Reader Grammar Node

/-! ## Reports are single lines -/

/-- The text has no line feed. -/
def IsLine (s : String) : Prop :=
  '\n' ∉ s.toList

instance (s : String) : Decidable (IsLine s) :=
  inferInstanceAs (Decidable ('\n' ∉ s.toList))

theorem isLine_append {s t : String} (hs : IsLine s) (ht : IsLine t) : IsLine (s ++ t) := by
  intro hmem
  rw [String.toList_append] at hmem
  rcases List.mem_append.mp hmem with h | h
  · exact hs h
  · exact ht h

/-- The token of an index that was parsed stands on one line. -/
theorem isLine_fullName {index : Index} (h : index.Printable) : IsLine index.fullName := by
  have hdisplay : IsLine index.display := by
    have htext := indexText_display h
    unfold IsLine
    generalize index.display.toList = s at htext
    cases htext with
    | position _ hdigits _ => exact hdigits.not_mem (by decide)
    | @named name _ hname =>
      have hnot : '\n' ∉ name := hname.not_mem (by decide)
      simp [hnot]
  exact isLine_append (isLine_append (by decide) hdisplay) (by decide)

theorem shortEscape?_ne_lineFeed {c e : Char} (h : Json.shortEscape? c = some e) : e ≠ '\n' := by
  unfold Json.shortEscape? at h
  split_ifs at h <;> obtain rfl := Option.some.inj h <;> decide

theorem digitChar_ne_lineFeed {n : Nat} (h : n < 16) : n.digitChar ≠ '\n' := by
  have hall : ∀ n < 16, Nat.digitChar n ≠ '\n' := by decide
  exact hall n h

/-- Line feeds are escaped, and no escape holds one. -/
theorem lineFeed_not_mem_escape (c : Char) : '\n' ∉ Json.escape c := by
  unfold Json.escape
  split
  · next e he => simp [(shortEscape?_ne_lineFeed he).symm]
  · next hnone =>
    split
    · next hcontrol =>
      have hhigh := digitChar_ne_lineFeed (n := c.toNat / 16) (by omega)
      have hlow := digitChar_ne_lineFeed (n := c.toNat % 16) (by omega)
      simp [hhigh.symm, hlow.symm]
    · have hne : c ≠ '\n' := by
        rintro rfl
        exact absurd hnone (by decide)
      simp [hne.symm]

/-- A string in quotes stands on one line, whatever it holds. -/
theorem isLine_quote (s : String) : IsLine (Json.quote s) := by
  unfold IsLine Json.quote
  rw [String.toList_ofList]
  simp [lineFeed_not_mem_escape]

/-! ## The parts of a run -/

namespace Command

variable {libraries : Libraries} {settings : EvalSettings} {error : SubstitutionError}
  {text : String}

namespace EvalSettings

/-- What `eval` renders a template with. -/
def context (settings : EvalSettings) (libraries : Libraries) (params : Params) : Context where
  language := settings.language
  params
  resolver :=
    if settings.categories then Plural.byCategoryWith libraries.rules else Plural.singularPlural
  policy := if settings.lenient then .degrade else .raise

/-- The JSON parameters or the template cannot be read. -/
def Unreadable (settings : EvalSettings) (libraries : Libraries) : Prop :=
  (∃ text fault, settings.jsonParams = some text ∧
    Params.ofTextWith libraries.json text = .error fault) ∨
    ∃ error, Template.parse settings.template = .error error

/-- The parameters and the template can be read, and this is what the rendering comes to. -/
def Renders (settings : EvalSettings) (libraries : Libraries)
    (result : Except SubstitutionError String) : Prop :=
  ∃ params template, settings.params libraries = .ok params ∧
    Template.parse settings.template = .ok template ∧
    template.render (settings.context libraries params) = result

/-- The line that reports an error. -/
def report (settings : EvalSettings) (error : SubstitutionError) : String :=
  if settings.json then "\x7b\"error\":" ++ Json.quote error.message ++ "\x7d"
  else "Substitution error: " ++ error.message

/-- The text that shows a rendering. -/
def display (settings : EvalSettings) (text : String) : String :=
  if settings.json then "\x7b\n  \"result\": " ++ Json.quote text ++ "\n\x7d" else text

/-- What becomes of what formatting the template comes to. -/
def outcome (settings : EvalSettings) : Except FormatError String → Outcome
  | .ok text => { code := 0, output := settings.display text ++ "\n" }
  | .error (.parse error) =>
    { code := 70, diagnostics := [.ofParseError settings.template error] }
  | .error (.substitution error) => { code := 65, errors := [settings.report error] }

end EvalSettings

theorem errorLine_eq_report (settings : EvalSettings) (error : SubstitutionError) :
    errorLine settings.json error = settings.report error := by
  have hkey : "\x7b\"error\":" = "\x7b" ++ Json.quote "error" ++ ":" := by decide
  unfold errorLine EvalSettings.report
  split
  · rw [hkey]
    simp only [Json.compact, Json.compactMembers, Json.compactMember, Json.scalarText,
      String.append_assoc]
  · rfl

theorem pretty_eq_display (settings : EvalSettings) (text : String) :
    (if settings.json then (Json.object [("result", .string text)]).pretty 0 else text) =
      settings.display text := by
  have hkey : "\x7b\n  \"result\": " =
      "\x7b" ++ Json.lineBreak 1 ++ Json.quote "result" ++ ": " := by
    decide
  have hclose : "\n\x7d" = Json.lineBreak 0 ++ "\x7d" := by decide
  unfold EvalSettings.display
  split
  · rw [hkey, hclose]
    simp only [Json.pretty, Json.prettyMembers, Json.prettyMember, Json.scalarText,
      String.append_assoc]
  · rfl

/-- The renderer of `eval` formats a template as the library does, for nothing is cached yet. -/
theorem format_renderer (settings : EvalSettings) (params : Params) :
    ((settings.renderer libraries).format settings.template params).1 =
      Template.format settings.template (settings.context libraries params) :=
  (Renderer.coherent_of_cache_eq_nil rfl).formatIn_eq settings.language settings.template params

/-- With parameters that can be read, `eval` formats the template as the library does. -/
theorem runEval_eq_outcome {params : Params} (hparams : settings.params libraries = .ok params) :
    runEval libraries settings =
      settings.outcome (Template.format settings.template (settings.context libraries params)) := by
  unfold runEval
  rw [hparams]
  dsimp only
  rw [format_renderer]
  rcases Template.format settings.template (settings.context libraries params) with
    (error | error) | text
  · rfl
  · dsimp only
    rw [errorLine_eq_report]
    rfl
  · dsimp only
    rw [pretty_eq_display]
    rfl

/-- Only JSON parameters can be at fault. -/
theorem exists_of_params_error {fault : Params.Fault}
    (h : settings.params libraries = .error fault) :
    ∃ text fault, settings.jsonParams = some text ∧
      Params.ofTextWith libraries.json text = .error fault := by
  unfold EvalSettings.params at h
  split at h
  · next text htext => exact ⟨text, fault, htext, h⟩
  · contradiction

/-! ## The ends of a run -/

/-- A rendering comes to one thing. -/
theorem EvalSettings.Renders.unique {result result' : Except SubstitutionError String}
    (h : settings.Renders libraries result) (h' : settings.Renders libraries result') :
    result = result' := by
  obtain ⟨params, template, hparams, hparse, rfl⟩ := h
  obtain ⟨params', template', hparams', hparse', rfl⟩ := h'
  obtain rfl := Except.ok.inj (hparams.symm.trans hparams')
  obtain rfl := Except.ok.inj (hparse.symm.trans hparse')
  rfl

/-- What is rendered was read. -/
theorem EvalSettings.Renders.not_unreadable {result : Except SubstitutionError String}
    (h : settings.Renders libraries result) : ¬settings.Unreadable libraries := by
  obtain ⟨params, template, hparams, hparse, -⟩ := h
  rintro (⟨text, fault, htext, hfault⟩ | ⟨error, herror⟩)
  · simp only [EvalSettings.params, htext, hfault] at hparams
    contradiction
  · rw [hparse] at herror
    contradiction

/-- What cannot be read fails the command before anything is printed. -/
theorem runEval_of_unreadable (h : settings.Unreadable libraries) :
    ∃ diagnostics, runEval libraries settings = { code := exitFailure, diagnostics } := by
  cases hparams : settings.params libraries with
  | error fault =>
    rw [runEval, hparams]
    exact ⟨[], rfl⟩
  | ok params =>
    rcases h with ⟨text, fault, htext, hfault⟩ | ⟨error, hparse⟩
    · simp only [EvalSettings.params, htext, hfault] at hparams
      contradiction
    · rw [runEval_eq_outcome hparams]
      simp only [Template.format, hparse]
      exact ⟨_, rfl⟩

theorem runEval_of_error (h : settings.Renders libraries (.error error)) :
    runEval libraries settings = { code := exitData, errors := [settings.report error] } := by
  obtain ⟨params, template, hparams, hparse, hrender⟩ := h
  rw [runEval_eq_outcome hparams]
  simp only [Template.format, hparse, hrender]
  rfl

theorem runEval_of_text (h : settings.Renders libraries (.ok text)) :
    runEval libraries settings = printed (settings.display text) := by
  obtain ⟨params, template, hparams, hparse, hrender⟩ := h
  rw [runEval_eq_outcome hparams]
  simp only [Template.format, hparse, hrender]
  rfl

/-- There is no fourth end. -/
theorem unreadable_or_renders (libraries : Libraries) (settings : EvalSettings) :
    settings.Unreadable libraries ∨ (∃ error, settings.Renders libraries (.error error)) ∨
      ∃ text, settings.Renders libraries (.ok text) := by
  cases hparams : settings.params libraries with
  | error fault => exact .inl (.inl (exists_of_params_error hparams))
  | ok params =>
    cases hparse : Template.parse settings.template with
    | error error => exact .inl (.inr ⟨error, hparse⟩)
    | ok template =>
      cases hrender : template.render (settings.context libraries params) with
      | error error => exact .inr (.inl ⟨error, params, template, hparams, hparse, hrender⟩)
      | ok text => exact .inr (.inr ⟨text, params, template, hparams, hparse, hrender⟩)

theorem code_eq_failure :
    (runEval libraries settings).code = exitFailure ↔ settings.Unreadable libraries := by
  constructor
  · intro hcode
    rcases unreadable_or_renders libraries settings with h | ⟨error, h⟩ | ⟨text, h⟩
    · exact h
    · rw [runEval_of_error h] at hcode
      have hne : exitData ≠ exitFailure := by decide
      exact absurd hcode hne
    · rw [runEval_of_text h] at hcode
      have hne : exitOk ≠ exitFailure := by decide
      exact absurd hcode hne
  · intro h
    obtain ⟨diagnostics, hrun⟩ := runEval_of_unreadable h
    rw [hrun]

theorem code_eq_data :
    (runEval libraries settings).code = exitData ↔
      ∃ error, settings.Renders libraries (.error error) := by
  constructor
  · intro hcode
    rcases unreadable_or_renders libraries settings with h | herror | ⟨text, h⟩
    · rw [code_eq_failure.mpr h] at hcode
      exact absurd hcode (by decide)
    · exact herror
    · rw [runEval_of_text h] at hcode
      have hne : exitOk ≠ exitData := by decide
      exact absurd hcode hne
  · rintro ⟨error, h⟩
    rw [runEval_of_error h]

/-! ## Errors -/

/-- Degraded rendering of what was parsed does not fail. -/
theorem not_lenient_of_error (h : settings.Renders libraries (.error error)) :
    settings.lenient = false := by
  obtain ⟨params, template, -, hparse, hrender⟩ := h
  obtain ⟨htemplate, -⟩ := Template.normal_of_read hparse
  cases hlenient : settings.lenient with
  | false => rfl
  | true =>
    have hpolicy : (settings.context libraries params).policy = .degrade := by
      simp only [EvalSettings.context, hlenient, if_true]
    obtain ⟨text, htext⟩ := Template.exists_render_of_degrade htemplate hpolicy
    rw [hrender] at htext
    contradiction

/-- The error of a rendering names the token of a parsed index. -/
theorem isLine_message (h : settings.Renders libraries (.error error)) : IsLine error.message := by
  obtain ⟨params, template, -, hparse, hrender⟩ := h
  obtain ⟨htemplate, -⟩ := Template.normal_of_read hparse
  obtain ⟨node, hnode, hblame⟩ := blame_of_renderAll hrender
  obtain ⟨_, hprintable⟩ := hnode.printable htemplate
  have hbranch := hblame.ne_noBranch htemplate hnode
  cases hblame with
  | missingValue hindex _ _ =>
    have hline := isLine_fullName (hprintable.index (index?_of_required? hindex))
    exact isLine_append (isLine_append (by decide) hline) (by decide)
  | wrongSourceKind hindex _ _ =>
    have hline := isLine_fullName (hprintable.index hindex)
    exact isLine_append (isLine_append (by decide) hline) (by decide)
  | noBranch => exact absurd rfl (hbranch _ _)

theorem isLine_report (h : settings.Renders libraries (.error error)) :
    IsLine (settings.report error) := by
  unfold EvalSettings.report
  split
  · exact isLine_append (isLine_append (by decide) (isLine_quote _)) (by decide)
  · exact isLine_append (by decide) (isLine_message h)

/-! ## Command lines -/

theorem run_of_eval {env : Environment} {read : String → Option String} {args : List String}
    {invocation : Invocation} (hread : Invocation.read libraries env args = .ok invocation)
    (haction : invocation.action = .eval settings) :
    runWith libraries env read args = runEval libraries settings := by
  rw [runWith_of_read hread, Invocation.run, haction]

/-- How `eval` ends, for every command line that is read as one of `eval`, by whatever library.
The code is 70 exactly when the JSON parameters or the template cannot be read, and 65 exactly
when both can and the rendering has an error.  Neither prints anything; the error is reported on
one line, and nothing else is.  Otherwise the code is 0, and the rendering is printed with a line
feed.  With `--lenient` the code is not 65. -/
theorem run_eval_ends (libraries : Libraries) (env : Environment)
    (read : String → Option String) (args : List String) (invocation : Invocation)
    (settings : EvalSettings) (hread : Invocation.read libraries env args = .ok invocation)
    (haction : invocation.action = .eval settings) :
    let outcome := runWith libraries env read args
    (outcome.code = 70 ↔ settings.Unreadable libraries) ∧
    (settings.Unreadable libraries → outcome.output = "" ∧ outcome.errors = []) ∧
    (outcome.code = 65 ↔ ∃ error, settings.Renders libraries (.error error)) ∧
    (∀ error, settings.Renders libraries (.error error) →
      outcome.output = "" ∧ outcome.errors = [settings.report error] ∧
        IsLine (settings.report error) ∧ outcome.diagnostics = []) ∧
    (¬settings.Unreadable libraries → (¬∃ error, settings.Renders libraries (.error error)) →
      ∃ text, settings.Renders libraries (.ok text) ∧ outcome.code = 0 ∧
        outcome.output = settings.display text ++ "\n" ∧ outcome.errors = []) ∧
    (settings.lenient = true → outcome.code ≠ 65) := by
  intro outcome
  have hrun : outcome = runEval libraries settings := run_of_eval hread haction
  rw [hrun]
  refine ⟨code_eq_failure, ?_, code_eq_data, ?_, ?_, ?_⟩
  · intro h
    obtain ⟨diagnostics, hrun⟩ := runEval_of_unreadable h
    rw [hrun]
    exact ⟨rfl, rfl⟩
  · intro error h
    rw [runEval_of_error h]
    exact ⟨rfl, rfl, isLine_report h, rfl⟩
  · intro hreadable hnoError
    rcases unreadable_or_renders libraries settings with h | h | ⟨text, h⟩
    · exact absurd h hreadable
    · exact absurd h hnoError
    · refine ⟨text, h, ?_⟩
      rw [runEval_of_text h]
      exact ⟨rfl, rfl, rfl⟩
  · intro hlenient hcode
    obtain ⟨error, h⟩ := code_eq_data.mp hcode
    rw [not_lenient_of_error h] at hlenient
    contradiction

/-- The settings for a position and a name, as JSON. -/
def twoTokens (pairs : List (String × String)) (jsonParams : Option String) (lenient : Bool) :
    EvalSettings :=
  { language := "de", template := "\x7b0\x7d\x7b:n\x7d", pairs, jsonParams, categories := false
    lenient, json := true }

/-- The values of the position and the name, as JSON. -/
def twoValues : String :=
  "\x7b\"0\":\"x\",\"n\":1\x7d"

/-- The name is missing, it is missing and degraded, the parameters are not JSON, and they are a
JSON object with both. -/
theorem run_eval_ends_twoTokens :
    let pair := twoTokens [("0", "x")] none false
    let degraded := twoTokens [("0", "x")] none true
    let noJson := twoTokens [] (some "[") false
    let both := twoTokens [] (some twoValues) false
    let run := run {} fun _ => none
    let args := ["eval", "--template", "\x7b0\x7d\x7b:n\x7d", "--lang=de", "--json"]
    Invocation.read .standard {} (args ++ ["-p", "0=x"]) = .ok ⟨.auto, false, .eval pair⟩ ∧
      (run (args ++ ["-p", "0=x"])).code = 65 ∧
      (run (args ++ ["-p", "0=x"])).errors =
        ["\x7b\"error\":\"no value supplied for token '\x7b:n\x7d'\"\x7d"] ∧
      Invocation.read .standard {} (args ++ ["-p", "0=x", "--lenient"]) =
        .ok ⟨.auto, false, .eval degraded⟩ ∧
      (run (args ++ ["-p", "0=x", "--lenient"])).code ≠ 65 ∧
      Invocation.read .standard {} (args ++ ["--args-json", "["]) =
        .ok ⟨.auto, false, .eval noJson⟩ ∧
      (run (args ++ ["--args-json", "["])).code = 70 ∧
      Invocation.read .standard {} (args ++ ["--args-json", twoValues]) =
        .ok ⟨.auto, false, .eval both⟩ ∧
      (run (args ++ ["--args-json", twoValues])).code = 0 ∧
      (run (args ++ ["--args-json", twoValues])).output =
        "\x7b\n  \"result\": \"x1\"\n\x7d\n" := by
  intro pair degraded noJson both run args
  have hparse : Template.parse "\x7b0\x7d\x7b:n\x7d" =
      .ok [.param (.position 0), .param (.named "n")] :=
    @Template.read_print (some Template.maxNesting) [.param (.position 0), .param (.named "n")]
      (by decide) (allows_some.mpr (by decide))
  have hpair : Invocation.read .standard {} (args ++ ["-p", "0=x"]) =
      .ok ⟨.auto, false, .eval pair⟩ := rfl
  have hdegraded : Invocation.read .standard {} (args ++ ["-p", "0=x", "--lenient"]) =
      .ok ⟨.auto, false, .eval degraded⟩ := rfl
  have hnoJson : Invocation.read .standard {} (args ++ ["--args-json", "["]) =
      .ok ⟨.auto, false, .eval noJson⟩ := rfl
  have hboth : Invocation.read .standard {} (args ++ ["--args-json", twoValues]) =
      .ok ⟨.auto, false, .eval both⟩ := rfl
  have hrenders : pair.Renders .standard (.error (.missingValue "\x7b:n\x7d")) :=
    ⟨_, _, rfl, hparse, rfl⟩
  have hfault : Params.ofText "[" = .error .notJson := by cbv
  have hunreadable : noJson.Unreadable .standard := .inl ⟨"[", .notJson, rfl, hfault⟩
  have hplain : Json.Plain 1 (.object [("0", .string "x"), ("n", .integer 1)]) :=
    .object (.cons "0" (.string "x") (.cons "n" (.integer (by decide) (by decide)) .nil))
  have hcompact : twoValues =
      (Json.object [("0", .string "x"), ("n", .integer 1)]).compact ++ "" := by decide
  have hvalues : Params.ofText twoValues =
      .ok (.named [("0", .text "x"), ("n", .integer 1)]) := by
    rw [hcompact]
    exact Params.ofText_compact hplain (by decide) rfl "" rfl
  have hresult : both.Renders .standard (.ok "x1") := ⟨_, _, hvalues, hparse, by decide +kernel⟩
  obtain ⟨-, -, hcode, herrors, -, -⟩ :=
    run_eval_ends .standard {} (fun _ => none) _ _ pair hpair rfl
  obtain ⟨-, -, -, -, -, hlenient⟩ :=
    run_eval_ends .standard {} (fun _ => none) _ _ degraded hdegraded rfl
  obtain ⟨hfailure, -⟩ := run_eval_ends .standard {} (fun _ => none) _ _ noJson hnoJson rfl
  obtain ⟨-, -, -, -, hsuccess, -⟩ := run_eval_ends .standard {} (fun _ => none) _ _ both hboth rfl
  have hnone : ¬∃ error, both.Renders .standard (.error error) := by
    rintro ⟨error, herror⟩
    cases herror.unique hresult
  obtain ⟨text, htext, hok, houtput, -⟩ := hsuccess hresult.not_unreadable hnone
  obtain rfl : text = "x1" := Except.ok.inj (htext.unique hresult)
  exact ⟨hpair, hcode.mpr ⟨_, hrenders⟩, (herrors _ hrenders).2.1, hdegraded, hlenient rfl, hnoJson,
    hfailure.mpr hunreadable, hboth, hok, houtput⟩

end Command

end MessageTemplate
