import Mathlib.Data.List.Nodup
import MessageTemplate.Proofs.Binary.Spelling
import MessageTemplate.Proofs.Command.Arguments
import MessageTemplate.Proofs.Command.Eval
import MessageTemplate.Proofs.Registry.FirstOccurrence
import MessageTemplate.Proofs.Render.Agreement
import MessageTemplate.Proofs.Render.Concatenation
import MessageTemplate.Proofs.Render.Selection
import MessageTemplate.Proofs.Text.Digits

/-!
# Parameters given as pairs

A pair is split at its first equals sign, its value is an integer, a number or a text, whichever
comes first in this order, and of several pairs with one name the last one counts.  So pairs under
the decimal names `0`, `1` and so on hold the same values as a list, in whatever order they are
given.  A template that reads positions only is rendered from them as from the list.
-/

namespace MessageTemplate

open Text

namespace Command

variable {env : Environment} {read : String → Option String} {args : List String}
  {given : List (String × String)} {source name value : String}
  {pairs before after : List (String × String)} {texts : List String} {libraries : Libraries}

/-! ## Splitting -/

/-- The argument that gives a value to a name. -/
def pairText (pair : String × String) : String :=
  pair.1 ++ "=" ++ pair.2

/-- Whatever the value holds, a pair is split behind its name. -/
theorem splitPair?_pairText {pair : String × String} (h : '=' ∉ pair.1.toList) :
    splitPair? (pairText pair) = some pair := by
  have htext : (pairText pair).toList = pair.1.toList ++ '=' :: pair.2.toList := by
    simp [pairText]
  simp only [splitPair?, htext, takeWhile_ne_append h, dropWhile_ne_append h,
    String.ofList_toList]

theorem filterMap_splitPair? (h : ∀ pair ∈ pairs, '=' ∉ pair.1.toList) :
    (pairs.map pairText).filterMap splitPair? = pairs := by
  induction pairs with
  | nil => rfl
  | cons pair rest ih =>
    obtain ⟨hpair, hrest⟩ := List.forall_mem_cons.mp h
    rw [List.map_cons, List.filterMap_cons_some (splitPair?_pairText hpair), ih hrest]

/-! ## Values -/

/-- What the text of a value stands for: an integer of 64 bits if it spells one, else a number in
double precision if it spells one, and else itself. -/
inductive StandsFor (text : String) : Value → Prop where
  | integer {n : Int64} (h : SpellsInteger text.toList n.toInt) : StandsFor text (.integer n)
  | float {x : Binary64} (hnot : ∀ n : Int64, ¬SpellsInteger text.toList n.toInt)
      (h : Binary.Spells binary64 text.toList x) : StandsFor text (.float x)
  | text (hnot : ∀ n : Int64, ¬SpellsInteger text.toList n.toInt)
      (hnumber : ∀ x, ¬Binary.Spells binary64 text.toList x) : StandsFor text (.text text)

/-- A text is converted to what it stands for. -/
theorem argumentValue_eq_iff {text : String} {value : Value} :
    argumentValue text = value ↔ StandsFor text value := by
  constructor
  · rintro rfl
    unfold argumentValue
    cases hinteger : signed64? text.toList with
    | some n => exact .integer (signed64?_eq_some.mp hinteger)
    | none =>
      have hnot := signed64?_eq_none.mp hinteger
      cases hnumber : Binary.read? binary64 text.toList with
      | some x => exact .float hnot (Binary.read?_eq_some.mp hnumber)
      | none => exact .text hnot (Binary.read?_eq_none.mp hnumber)
  · intro h
    unfold argumentValue
    cases h with
    | integer h => rw [signed64?_eq_some.mpr h]
    | float hnot h => rw [signed64?_eq_none.mpr hnot, Binary.read?_eq_some.mpr h]
    | text hnot hnumber => rw [signed64?_eq_none.mpr hnot, Binary.read?_eq_none.mpr hnumber]

/-- The decimal text of an integer is converted to the integer. -/
theorem argumentValue_repr (n : Int64) : argumentValue n.toInt.repr = .integer n :=
  argumentValue_eq_iff.mpr (.integer (spellsInteger_repr n.toInt))

/-! ## The last pair with a name -/

/-- The named parameters that pairs give. -/
def pairEntries (pairs : List (String × String)) : Fields Value :=
  Fields.ofPairs (pairs.map fun pair => (pair.1, argumentValue pair.2))

theorem lookup_eq_none_of_not_mem {entries : List (String × Value)}
    (h : name ∉ entries.map Prod.fst) : entries.lookup name = none :=
  List.lookup_eq_none_iff.mpr fun _ hentry =>
    bne_iff_ne.mpr fun heq => h (heq ▸ List.mem_map_of_mem hentry)

theorem get?_pairEntries_of_not_mem (h : name ∉ pairs.map Prod.fst) :
    (pairEntries pairs).get? name = none := by
  rw [pairEntries, Fields.get?_ofPairs]
  refine lookup_eq_none_of_not_mem ?_
  rwa [List.map_reverse, List.mem_reverse, List.map_map]

/-- A pair decides the value of its name when no pair behind it has this name. -/
theorem get?_pairEntries_last (h : name ∉ after.map Prod.fst) :
    (pairEntries (before ++ (name, value) :: after)).get? name = some (argumentValue value) := by
  have hafter : List.lookup name
      (after.map fun pair => (pair.1, argumentValue pair.2)).reverse = none := by
    refine lookup_eq_none_of_not_mem ?_
    rwa [List.map_reverse, List.mem_reverse, List.map_map]
  rw [pairEntries, Fields.get?_ofPairs, List.map_append, List.map_cons, List.reverse_append,
    List.reverse_cons, List.append_assoc, List.lookup_append, hafter, Option.none_or,
    List.singleton_append, List.lookup_cons_self]

/-! ## Pairs under decimal names -/

/-- The pairs `0=…`, `1=…` and so on of some texts. -/
def positionPairs (texts : List String) : List (String × String) :=
  texts.zipIdx.map fun (text, n) => (n.repr, text)

theorem map_fst_positionPairs (texts : List String) :
    (positionPairs texts).map Prod.fst = (List.range texts.length).map Nat.repr := by
  have hpositions : texts.zipIdx.map Prod.snd = List.range texts.length := by
    rw [List.zipIdx_map_snd, List.range_eq_range']
  rw [positionPairs, List.map_map, ← hpositions, List.map_map]
  rfl

/-- No two positions have the same name. -/
theorem nodup_positionPairs (texts : List String) :
    ((positionPairs texts).map Prod.fst).Nodup := by
  rw [map_fst_positionPairs]
  exact List.nodup_range.map fun _ _ h => Index.position.inj (Index.display_injective h)

theorem mem_positionPairs {n : Nat} {text : String} (h : texts[n]? = some text) :
    (n.repr, text) ∈ positionPairs texts :=
  List.mem_map.mpr ⟨(text, n), List.mk_mem_zipIdx_iff_getElem?.mpr h, rfl⟩

theorem repr_not_mem_positionPairs {n : Nat} (h : texts.length ≤ n) :
    n.repr ∉ (positionPairs texts).map Prod.fst := by
  rw [map_fst_positionPairs]
  intro hmem
  obtain ⟨m, hm, hrepr⟩ := List.mem_map.mp hmem
  obtain rfl := Index.position.inj (Index.display_injective hrepr)
  exact absurd (List.mem_range.mp hm) (Nat.not_lt.mpr h)

/-- Positions are read from the pairs as from the list, in whatever order the pairs are. -/
theorem lookup_pairEntries (hpairs : pairs.Perm (positionPairs texts)) (n : Nat) :
    (Params.named (pairEntries pairs)).lookup (.position n) =
      (Params.positional (texts.map argumentValue)).lookup (.position n) := by
  have hnames := hpairs.map Prod.fst
  simp only [Params.lookup, List.getElem?_map]
  cases htext : texts[n]? with
  | none =>
    have hnot : n.repr ∉ pairs.map Prod.fst := fun hmem =>
      repr_not_mem_positionPairs (List.getElem?_eq_none_iff.mp htext) (hnames.mem_iff.mp hmem)
    rw [get?_pairEntries_of_not_mem hnot]
    rfl
  | some text =>
    obtain ⟨before, after, rfl⟩ :=
      List.append_of_mem (hpairs.mem_iff.mpr (mem_positionPairs htext))
    have hnodup := hnames.nodup_iff.mpr (nodup_positionPairs texts)
    rw [List.map_append, List.map_cons] at hnodup
    have hlast := (List.nodup_cons.mp (List.nodup_append.mp hnodup).2.1).1
    rw [get?_pairEntries_last hlast]
    rfl

/-- When every token of a template reads a position, so does every node that has an index. -/
theorem exists_position_of_occurs {template : Template} {positions : List Nat} {node : Node}
    {index : Index} (h : template.tokens.map Token.index = positions.map .position)
    (hnode : Node.Occurs node template) (hindex : node.index? = some index) :
    ∃ n, index = .position n := by
  obtain ⟨token, htoken, rfl⟩ := Template.covers_tokens.mpr ⟨node, hnode, hindex⟩
  have hmem := List.mem_map_of_mem (f := Token.index) htoken
  rw [h] at hmem
  obtain ⟨n, -, hn⟩ := List.mem_map.mp hmem
  exact ⟨n, hn.symm⟩

theorem format_of_render {template : Template} {ctx : Context} {text : String}
    (hparse : Template.parse source = .ok template) (hrender : template.render ctx = .ok text) :
    Template.format source ctx = .ok text := by
  simp only [Template.format, hparse, hrender]
  rfl

/-- A template that reads positions only comes to the same from the pairs and from the list. -/
theorem format_pairEntries (settings : EvalSettings) (hpairs : pairs.Perm (positionPairs texts))
    (hpositions : ∀ template, Template.parse source = .ok template →
      ∀ node, Node.Occurs node template → ∀ index, node.index? = some index →
        ∃ n, index = .position n) :
    Template.format source (settings.context libraries (.named (pairEntries pairs))) =
      Template.format source
        (settings.context libraries (.positional (texts.map argumentValue))) := by
  unfold Template.format
  cases hparse : Template.parse source with
  | error error => rfl
  | ok template =>
    refine congrArg (Except.mapError FormatError.substitution) ?_
    refine renderAll_withParams fun node hnode index hindex => ?_
    obtain ⟨n, rfl⟩ := hpositions template hparse node hnode index hindex
    exact Context.AgreesAt.showsAlike (lookup_pairEntries hpairs n)

/-! ## Command lines -/

theorem wellNamed_evalGrammar : evalGrammar.WellNamed :=
  ⟨by decide, by decide⟩

/-- The template may be given first, unless it looks like an option. -/
theorem gives_template (h : isDashed source = false) :
    Gives evalGrammar [("template", source)] ["--template", source] :=
  @Gives.concat _ [] [] (single "template") source ["--template", source] .nil
    (.separate rfl rfl h) rfl (.inr (by decide))

/-- Each pair may be given by `-p` and a word of its own, unless this looks like an option. -/
theorem gives_pairs (h : Gives evalGrammar given args)
    (hpairs : ∀ pair ∈ pairs, '=' ∉ pair.1.toList ∧ isDashed (pairText pair) = false) :
    Gives evalGrammar (given ++ pairs.map fun pair => ("param", pairText pair))
      (args ++ pairs.flatMap fun pair => ["-p", pairText pair]) := by
  induction pairs generalizing given args with
  | nil => simpa using h
  | cons pair rest ih =>
    obtain ⟨⟨hname, hvalue⟩, hrest⟩ := List.forall_mem_cons.mp hpairs
    have haccepts : (splitPair? (pairText pair)).isSome = true := by
      rw [splitPair?_pairText hname]
      rfl
    let param : OptionSpec :=
      ⟨"param", some 'p', .repeated fun text => (splitPair? text).isSome⟩
    have hfirst : Gives evalGrammar (given ++ [("param", pairText pair)])
        (args ++ ["-p", pairText pair]) :=
      @Gives.concat _ _ _ param _ ["-p", pairText pair] h (.short rfl rfl hvalue) haccepts (.inl rfl)
    simpa using ih hfirst hrest

/-- The settings that options of `eval` stand for when the parameters are given as pairs. -/
def pairSettings (env : Environment) (found : Found) (source : String)
    (pairs : List (String × String)) : EvalSettings where
  language := (found.value? "lang").getD (env.language?.getD "en")
  template := source
  pairs
  jsonParams := none
  categories := found.has "cldr"
  lenient := found.has "lenient"
  json := found.has "json"

/-- The options have a template and pairs, and no JSON parameters. -/
structure HasPairs (found : Found) (source : String) (pairs : List (String × String)) : Prop where
  template : found.value? "template" = some source
  noJson : found.value? "args-json" = none
  texts : found.all "param" = pairs.map pairText
  names : ∀ pair ∈ pairs, '=' ∉ pair.1.toList

theorem evalSettings_of_hasPairs {found : Found} (env : Environment)
    (h : HasPairs found source pairs) :
    evalSettings env found = .ok (pairSettings env found source pairs) := by
  simp only [evalSettings, h.template, h.noJson, h.texts, filterMap_splitPair? h.names]
  rfl

/-- The arguments of `eval` are read as the settings that they write out. -/
theorem run_of_hasPairs (harguments : libraries.ReadsArguments) (env : Environment)
    (read : String → Option String) (hargs : Gives evalGrammar given args)
    (h : HasPairs { values := given } source pairs) :
    runWith libraries env read ("eval" :: args) =
      runEval libraries (pairSettings env { values := given } source pairs) := by
  have hgiven := harguments.options wellNamed_evalGrammar rfl hargs
  have haction : readAction libraries env "eval" args =
      .ok (.eval (pairSettings env { values := given } source pairs), { values := given }) := by
    simp only [readAction, hgiven, bind, Except.bind, evalSettings_of_hasPairs env h]
    rfl
  have hmain : libraries.arguments mainGrammar ("eval" :: args) = .ok ({}, some ("eval", args)) :=
    harguments.command rfl (by decide) (by decide) args
  have hread : ∃ invocation, Invocation.read libraries env ("eval" :: args) = .ok invocation ∧
      invocation.action = .eval (pairSettings env { values := given } source pairs) := by
    simp only [Invocation.read, hmain, bind, Except.bind, Option.getD_some, haction]
    exact ⟨_, rfl, rfl⟩
  obtain ⟨invocation, hinvocation, heval⟩ := hread
  exact run_of_eval hinvocation heval

/-- What `eval` does with pairs, for all arguments that write out a template, pairs and other
options but JSON parameters, in any order.  The last pair with a name decides its value, whatever
pairs stand around it, and a name without a pair has none.  When the pairs are `0=…`, `1=…` and
so on, in any order, and the template reads positions only, `eval` comes to what the library
makes of the template and of the list of the same values: the exit code, what is printed and
what is reported.  All this holds with any libraries, if only they read the arguments. -/
theorem run_eval_pairs (libraries : Libraries) (harguments : libraries.ReadsArguments)
    (env : Environment) (read : String → Option String) (args : List String)
    (given : List (String × String)) (source : String) (pairs : List (String × String))
    (hargs : Gives evalGrammar given args) (hpairs : HasPairs { values := given } source pairs) :
    let settings := pairSettings env { values := given } source pairs
    (∃ entries : Fields Value,
      (∀ before name value after, pairs = before ++ (name, value) :: after →
        name ∉ after.map Prod.fst → entries.get? name = some (argumentValue value)) ∧
      (∀ name, name ∉ pairs.map Prod.fst → entries.get? name = none) ∧
      runWith libraries env read ("eval" :: args) =
        settings.outcome (Template.format source (settings.context libraries (.named entries)))) ∧
    ∀ texts, pairs.Perm (positionPairs texts) →
      (∀ template, Template.parse source = .ok template →
        ∀ node, Node.Occurs node template → ∀ index, node.index? = some index →
          ∃ n, index = .position n) →
      runWith libraries env read ("eval" :: args) =
        settings.outcome (Template.format source
          (settings.context libraries (.positional (texts.map argumentValue)))) := by
  intro settings
  have hrun : runWith libraries env read ("eval" :: args) = settings.outcome
      (Template.format source (settings.context libraries (.named (pairEntries pairs)))) :=
    (run_of_hasPairs harguments env read hargs hpairs).trans (runEval_eq_outcome rfl)
  refine ⟨⟨pairEntries pairs, ?_, fun name => get?_pairEntries_of_not_mem, hrun⟩, ?_⟩
  · rintro before name value after rfl hlast
    exact get?_pairEntries_last hlast
  · intro texts hperm hpositions
    rw [hrun, format_pairEntries settings hperm hpositions]

/-- Two positions are given in the wrong order, one with an equals sign in its value; and a name
is given twice with another name between. -/
theorem run_eval_pairs_reordered :
    let source := "\x7b1,choice,one#a|other#b\x7d\x7b0\x7d"
    let args := ["--template", source, "--cldr", "--lang=fr", "-p", "1=1", "-p", "0=x=y"]
    let given := [("template", source), ("cldr", ""), ("lang", "fr"), ("param", "1=1"),
      ("param", "0=x=y")]
    let pairs := [("1", "1"), ("0", "x=y")]
    let named := ["--template", "\x7b:n\x7d", "-p", "n=1", "-p", "m=2", "-p", "n=3"]
    Libraries.standard.ReadsArguments ∧ Gives evalGrammar given args ∧
      HasPairs { values := given } source pairs ∧
      pairs.Perm (positionPairs ["x=y", "1"]) ∧
      run {} (fun _ => none) ("eval" :: args) = { code := 0, output := "ax=y\n" } ∧
      run {} (fun _ => none) ("eval" :: named) = { code := 0, output := "3\n" } := by
  intro source args given pairs named
  let template : Template := [.styled .choice (.position 1)
    [⟨"one", [.text "a"]⟩, ⟨"other", [.text "b"]⟩], .param (.position 0)]
  have hsource : Template.parse source = .ok template :=
    @Template.read_print (some Template.maxNesting) template (by decide)
      (allows_some.mpr (by decide))
  have hname : Template.parse "\x7b:n\x7d" = .ok [.param (.named "n")] :=
    @Template.read_print (some Template.maxNesting) [.param (.named "n")] (by decide)
      (allows_some.mpr (by decide))
  have hflag : Gives evalGrammar [("template", source), ("cldr", "")]
      ["--template", source, "--cldr"] :=
    @Gives.concat _ _ _ (flag "cldr") "" ["--cldr"] (gives_template (by decide)) (.flag rfl rfl)
      rfl (.inr (by decide))
  have hothers : Gives evalGrammar [("template", source), ("cldr", ""), ("lang", "fr")]
      ["--template", source, "--cldr", "--lang=fr"] :=
    @Gives.concat _ _ _ (single "lang") "fr" ["--lang=fr"] hflag (.joined rfl rfl) rfl
      (.inr (by decide))
  have hargs : Gives evalGrammar given args :=
    @gives_pairs _ _ pairs hothers (by decide)
  have hnamed : Gives evalGrammar [("template", "\x7b:n\x7d"), ("param", "n=1"),
      ("param", "m=2"), ("param", "n=3")] named :=
    @gives_pairs _ _ [("n", "1"), ("m", "2"), ("n", "3")] (gives_template (by decide))
      (by decide)
  have hpairs : HasPairs { values := given } source pairs := ⟨rfl, rfl, by decide, by decide⟩
  have hperm : pairs.Perm (positionPairs ["x=y", "1"]) := .swap _ _ _
  have hpositions : ∀ template, Template.parse source = .ok template →
      ∀ node, Node.Occurs node template → ∀ index, node.index? = some index →
        ∃ n, index = .position n := by
    intro parsed hparse node hnode index hindex
    rw [← Except.ok.inj (hsource.symm.trans hparse)] at hnode
    exact @exists_position_of_occurs _ [1, 0] _ _ rfl hnode hindex
  obtain ⟨-, hpositional⟩ := run_eval_pairs .standard Libraries.readsArguments_standard {}
    (fun _ => none) args given source pairs hargs hpairs
  obtain ⟨⟨entries, hlast, -, hrun⟩, -⟩ := run_eval_pairs .standard
    Libraries.readsArguments_standard {} (fun _ => none) named _ "\x7b:n\x7d"
    [("n", "1"), ("m", "2"), ("n", "3")] hnamed ⟨rfl, rfl, by decide, by decide⟩
  have hvalue : entries.get? "n" = some (argumentValue "3") :=
    hlast [("n", "1"), ("m", "2")] "n" "3" [] rfl nofun
  have htext : template.render ((pairSettings {} { values := given } source pairs).context
      .standard (.positional (["x=y", "1"].map argumentValue))) = .ok "ax=y" := by
    decide +kernel
  have hlookup : (Params.named entries).lookup (.named "n") = .found (argumentValue "3") := by
    rw [Params.lookup, hvalue]
    rfl
  have hformat (ctx : Context) (hctx : ctx.params = .named entries) :
      Template.format "\x7b:n\x7d" ctx = .ok (argumentValue "3").display :=
    format_of_render hname (renderAll_singleton.trans (render_param_of_found (hctx ▸ hlookup)))
  refine ⟨Libraries.readsArguments_standard, hargs, hpairs, hperm,
    (hpositional _ hperm hpositions).trans ?_, hrun.trans ?_⟩
  · rw [format_of_render hsource htext]
    rfl
  · rw [hformat _ rfl]
    rfl

end Command

end MessageTemplate
