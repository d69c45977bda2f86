import MessageTemplate.Proofs.Renderer.Answers
import MessageTemplate.Proofs.Template.Concatenation
import Mathlib.Data.List.Dedup
import Mathlib.Data.List.DropRight

/-!
# What the cache holds and shares

The cache holds the templates that were read since it was dropped last, each once and
whatever became of their rendering.  A tree stays in the cache until the cache is dropped,
and from then on all trees have greater numbers.  So parsing hands out one tree twice exactly
when the source is the same and the cache was not dropped in between.
-/

namespace MessageTemplate

/-- The source that an operation reads, when it is a template. -/
def Operation.template? (op : Operation) : Option String :=
  op.source?.filter fun source => (Template.parse source).isOk

/-- The sources of the templates that were read since the cache was dropped last, or since
the start. -/
def readSinceClear (ops : List Operation) : List String :=
  (ops.rtakeWhile fun op => !op.clears).filterMap Operation.template?

namespace Renderer

variable {renderer next first second : Renderer} {op : Operation} {ops between : List Operation}
  {source source' : String} {template : Template} {tree tree' : SharedTemplate}
  {error : ParseError} {n : Nat}

/-! ## The sources in the cache -/

theorem template?_of_ok (hsource : op.source? = some source)
    (hparse : Template.parse source = .ok template) : op.template? = some source := by
  simp [Operation.template?, hsource, hparse, Except.isOk, Except.toBool]

theorem template?_of_error (hsource : op.source? = some source)
    (hparse : Template.parse source = .error error) : op.template? = none := by
  simp [Operation.template?, hsource, hparse, Except.isOk, Except.toBool]

theorem clears_of_source (hsource : op.source? = some source) : op.clears = false :=
  (Operation.reads_only hsource).2.2

/-- An operation that does not drop the cache adds the template that it reads. -/
theorem Change.mem_sources (h : Change renderer op next) :
    source ∈ next.sources ↔
      op.clears = false ∧ (source ∈ renderer.sources ∨ op.template? = some source) := by
  cases h with
  | @found _ known tree hsource hcached =>
    have hknown : known ∈ renderer.sources :=
      List.mem_map_of_mem (f := Prod.fst) (mem_of_cached? hcached)
    have htemplate : op.template? = some source → source ∈ renderer.sources := by
      intro h
      have hsame := (Option.filter_eq_some_iff.mp h).1
      rw [hsource] at hsame
      exact Option.some.inj hsame ▸ hknown
    rw [clears_of_source hsource]
    exact ⟨fun hmem => ⟨rfl, .inl hmem⟩, fun h => h.2.elim id htemplate⟩
  | refused hsource _ hparse =>
    simp [clears_of_source hsource, template?_of_error hsource hparse]
  | @stored _ new template hsource _ hparse =>
    have hsources : (renderer.store new template).sources = new :: renderer.sources := rfl
    rw [clears_of_source hsource, template?_of_ok hsource hparse, hsources, List.mem_cons,
      Option.some.injEq]
    exact ⟨fun h => ⟨rfl, h.symm.imp_right Eq.symm⟩, fun h => (h.2.imp_right Eq.symm).symm⟩
  | language | policy =>
    exact ⟨fun hmem => ⟨rfl, .inl hmem⟩, fun h => h.2.elim id fun h => by contradiction⟩
  | cleared => exact ⟨fun hmem => absurd hmem List.not_mem_nil, fun h => by cases h.1⟩

theorem mem_readSinceClear_concat : source ∈ readSinceClear (ops ++ [op]) ↔
    op.clears = false ∧ (source ∈ readSinceClear ops ∨ op.template? = some source) := by
  unfold readSinceClear
  cases hop : op.clears with
  | true => simp [hop]
  | false =>
    rw [List.rtakeWhile_concat_pos _ _ _ (by simp [hop]), List.filterMap_append, List.mem_append]
    simp

theorem mem_sources_after (settings : Settings) (ops : List Operation) (source : String) :
    source ∈ (settings.renderer.after ops).sources ↔ source ∈ readSinceClear ops := by
  induction ops using List.reverseRecOn with
  | nil => rfl
  | append_singleton ops op ih =>
    rw [after_concat, (change_perform _ op).mem_sources, ih, mem_readSinceClear_concat]

/-- Every template that was read since the cache was dropped is counted once. -/
theorem cachedCount_after (settings : Settings) (ops : List Operation) :
    (settings.renderer.after ops).cachedCount = (readSinceClear ops).dedup.length := by
  have hcoherent := (coherent_renderer settings).after ops
  have hperm : (settings.renderer.after ops).sources.Perm (readSinceClear ops).dedup := by
    refine (List.perm_ext_iff_of_nodup hcoherent.sources_nodup (List.nodup_dedup _)).mpr ?_
    intro source
    rw [mem_sources_after, List.mem_dedup]
  rw [cachedCount, ← hperm.length_eq, sources, List.length_map]

/-- A source that is not a template leaves everything as it was. -/
theorem Coherent.perform_of_error (h : renderer.Coherent) (hsource : op.source? = some source)
    (hparse : Template.parse source = .error error) : (renderer.perform op).2 = renderer := by
  have hnew : renderer.cached? source = none := by
    cases hcached : renderer.cached? source with
    | none => rfl
    | some tree =>
      have htree := h.parse (source, tree) (mem_of_cached? hcached)
      rw [hparse] at htree
      contradiction
  rw [perform_of_source hsource, parse_of_error hnew hparse]

/-! ## Trees that stay -/

/-- The tree that parsing hands out is the cached one from then on. -/
theorem cached?_of_parse (h : renderer.parse source = (.ok tree, next)) :
    next.cached? source = some tree := by
  cases hcached : renderer.cached? source with
  | some known =>
    rw [parse_of_cached hcached] at h
    obtain ⟨hknown, rfl⟩ := Prod.mk.inj h
    rw [hcached, Except.ok.inj hknown]
  | none =>
    cases hparse : Template.parse source with
    | error error =>
      rw [parse_of_error hcached hparse] at h
      cases h
    | ok template =>
      rw [parse_of_ok hcached hparse] at h
      obtain ⟨htree, rfl⟩ := Prod.mk.inj h
      rw [← Except.ok.inj htree]
      exact List.lookup_cons_self

theorem Change.cached? (h : Change renderer op next) (hop : op ≠ .clearCache)
    (hcached : renderer.cached? source = some tree) : next.cached? source = some tree := by
  cases h with
  | found | refused | language | policy => exact hcached
  | @stored _ new template _ hnew _ =>
    have hne : source ≠ new := by
      rintro rfl
      rw [hnew] at hcached
      contradiction
    have hlookup : (renderer.store new template).cached? source = renderer.cached? source := by
      simp [Renderer.cached?, store, List.lookup_cons, beq_false_of_ne hne]
    rw [hlookup, hcached]
  | cleared => contradiction

/-- A cached tree stays until the cache is dropped. -/
theorem cached?_after (hops : .clearCache ∉ ops) (h : renderer.cached? source = some tree) :
    (renderer.after ops).cached? source = some tree := by
  induction ops generalizing renderer with
  | nil => exact h
  | cons op rest ih =>
    rw [List.mem_cons, not_or] at hops
    obtain ⟨hop, hrest⟩ := hops
    exact ih hrest ((change_perform renderer op).cached? (Ne.symm hop) h)

/-! ## Trees that are new -/

/-- All cached trees, and all that will be built, have numbers of at least `n`. -/
structure From (renderer : Renderer) (n : Nat) : Prop where
  built : n ≤ renderer.built
  cache : ∀ entry ∈ renderer.cache, n ≤ entry.2.serial

theorem Change.from (h : Change renderer op next) (hfrom : renderer.From n) : next.From n := by
  cases h with
  | found | refused => exact hfrom
  | stored =>
    refine ⟨Nat.le_succ_of_le hfrom.built, fun entry hentry => ?_⟩
    rcases List.mem_cons.mp hentry with rfl | hentry
    · exact hfrom.built
    · exact hfrom.cache entry hentry
  | language | policy => exact ⟨hfrom.built, hfrom.cache⟩
  | cleared => exact ⟨hfrom.built, fun entry hentry => absurd hentry List.not_mem_nil⟩

/-- The number of the next tree does not become smaller. -/
theorem Change.built_le (h : Change renderer op next) : renderer.built ≤ next.built := by
  cases h with
  | stored => exact Nat.le_succ _
  | found | refused | language | policy | cleared => exact Nat.le_refl _

theorem built_le_after (ops : List Operation) : renderer.built ≤ (renderer.after ops).built :=
  after_induction (motive := fun next => renderer.built ≤ next.built)
    (fun _ _ _ hchange h => h.trans hchange.built_le) ops (Nat.le_refl _)

/-- Once the cache was dropped, it holds new trees only. -/
theorem built_le_serial (hops : .clearCache ∈ ops)
    (h : (renderer.after ops).cached? source = some tree) : renderer.built ≤ tree.serial := by
  obtain ⟨front, back, rfl⟩ := List.append_of_mem hops
  rw [after_append] at h
  have hcleared : (renderer.after front).clearCache.From renderer.built :=
    ⟨built_le_after front, fun entry hentry => absurd hentry List.not_mem_nil⟩
  have hfrom : ((renderer.after front).clearCache.after back).From renderer.built :=
    after_induction (fun _ _ _ hchange => hchange.from) back hcleared
  exact hfrom.cache (source, tree) (mem_of_cached? h)

/-! ## The same tree -/

/-- In a coherent cache one number stands for one source. -/
theorem Coherent.serial_eq_iff (h : renderer.Coherent)
    (hcached : renderer.cached? source = some tree)
    (hcached' : renderer.cached? source' = some tree') :
    tree.serial = tree'.serial ↔ source = source' := by
  constructor
  · intro hserial
    have hsame := List.inj_on_of_nodup_map h.serials_nodup (mem_of_cached? hcached)
      (mem_of_cached? hcached') hserial
    exact congrArg Prod.fst hsame
  · rintro rfl
    rw [hcached] at hcached'
    rw [Option.some.inj hcached']

/-- Two trees that parsing hands out are one tree exactly when their sources are the same
and the cache was not dropped between them. -/
theorem Coherent.serial_eq_iff_of_parse (h : renderer.Coherent)
    (hfirst : renderer.parse source = (.ok tree, first))
    (hsecond : (first.after between).parse source' = (.ok tree', second)) :
    tree.serial = tree'.serial ↔ source = source' ∧ .clearCache ∉ between := by
  have hparse : (renderer.perform (.parse source)).2 = first := by
    rw [perform_of_source rfl, hfirst]
  have hparse' : first.after (between ++ [.parse source']) = second := by
    rw [after_concat, perform_of_source rfl, hsecond]
  have hcoherent : first.Coherent := hparse ▸ (change_perform renderer _).coherent h
  have hcached := cached?_of_parse hfirst
  have hcached' := cached?_of_parse hsecond
  have hclear : Operation.clearCache ∈ between ++ [.parse source'] ↔ .clearCache ∈ between := by
    simp
  by_cases hbetween : .clearCache ∈ between
  · have hlt : tree.serial < first.built :=
      hcoherent.serial_lt (source, tree) (mem_of_cached? hcached)
    have hle : first.built ≤ tree'.serial :=
      built_le_serial (hclear.mpr hbetween) (hparse' ▸ hcached')
    have hne : tree.serial ≠ tree'.serial := by omega
    exact ⟨fun heq => absurd heq hne, fun hand => absurd hbetween hand.2⟩
  · have hstays : second.cached? source = some tree :=
      hparse' ▸ cached?_after (mt hclear.mp hbetween) hcached
    have hcoherent' : second.Coherent := hparse' ▸ hcoherent.after _
    rw [hcoherent'.serial_eq_iff hstays hcached']
    exact ⟨fun heq => ⟨heq, hbetween⟩, And.left⟩

/-- What is between two operations of a run. -/
theorem after_take_eq {i j : Nat} (hij : i < j) : renderer.after (ops.take j) =
    (renderer.after (ops.take (i + 1))).after ((ops.take j).drop (i + 1)) := by
  have htake : (ops.take j).take (i + 1) = ops.take (i + 1) := by
    rw [List.take_take, Nat.min_eq_left hij]
  rw [← after_append, ← htake, List.take_append_drop]

theorem after_take_succ {i : Nat} (h : ops[i]? = some op) :
    renderer.after (ops.take (i + 1)) = ((renderer.after (ops.take i)).perform op).2 := by
  rw [List.take_add_one, h, Option.toList_some, after_concat]

/-- A parse operation that hands out a tree. -/
theorem parse_eq_of_answers {i : Nat} (h : ops[i]? = some (.parse source))
    (hanswer : (renderer.answers ops)[i]? = some (.template (.ok tree))) :
    (renderer.after (ops.take i)).parse source =
      (.ok tree, renderer.after (ops.take (i + 1))) := by
  rw [getElem?_answers, h] at hanswer
  rw [after_take_succ h, perform_of_source rfl]
  exact Prod.ext (Answer.template.inj (Option.some.inj hanswer)) rfl

/-- Parsing a template hands out a tree at every point of a run. -/
theorem exists_answer_of_parse (settings : Settings) (i : Nat)
    (h : ops[i]? = some (.parse source)) (hparse : Template.parse source = .ok template) :
    ∃ tree, (settings.renderer.answers ops)[i]? = some (.template (.ok tree)) := by
  have htree := ((coherent_renderer settings).after (ops.take i)).parse_template source
  rw [hparse] at htree
  obtain ⟨tree, hanswer⟩ :
      ∃ tree, ((settings.renderer.after (ops.take i)).parse source).1 = .ok tree := by
    cases hanswer : ((settings.renderer.after (ops.take i)).parse source).1 with
    | ok tree => exact ⟨tree, rfl⟩
    | error error =>
      rw [hanswer] at htree
      contradiction
  refine ⟨tree, ?_⟩
  rw [getElem?_answers, h]
  exact congrArg (some ∘ Answer.template) hanswer

/-- The cache along a run from a renderer that has read nothing.  It counts each template
that was read since it was dropped, also when its rendering failed; what is not a template
leaves the renderer as it was; and two parse operations hand out one tree exactly when they
have the same source and the cache was not dropped between them. -/
theorem cache_after (settings : Settings) (ops : List Operation) :
    (settings.renderer.after ops).cachedCount = (readSinceClear ops).dedup.length ∧
    (∀ i op source error, ops[i]? = some op → op.source? = some source →
      Template.parse source = .error error →
      settings.renderer.after (ops.take (i + 1)) = settings.renderer.after (ops.take i)) ∧
    ∀ i j source source' tree tree', i < j →
      ops[i]? = some (.parse source) → ops[j]? = some (.parse source') →
      (settings.renderer.answers ops)[i]? = some (.template (.ok tree)) →
      (settings.renderer.answers ops)[j]? = some (.template (.ok tree')) →
      (tree.serial = tree'.serial ↔
        source = source' ∧ .clearCache ∉ (ops.take j).drop (i + 1)) := by
  have hcoherent (i : Nat) := (coherent_renderer settings).after (ops.take i)
  refine ⟨cachedCount_after settings ops, fun i op source error hop hsource hparse => ?_, ?_⟩
  · rw [after_take_succ hop, (hcoherent i).perform_of_error hsource hparse]
  · intro i j source source' tree tree' hij hi hj hanswer hanswer'
    have hfirst := parse_eq_of_answers hi hanswer
    have hsecond := parse_eq_of_answers hj hanswer'
    rw [after_take_eq hij] at hsecond
    exact (hcoherent i).serial_eq_iff_of_parse hfirst hsecond

/-- A run that reads a source three times, once to no avail and once after the cache was
dropped. -/
def sharingRun : List Operation :=
  [.format "\x7b0\x7d" .none, .parse "\x7b0\x7d", .tokens "\x7b", .parse "a",
    .parse "\x7b0\x7d", .clearCache, .parse "\x7b0\x7d"]

theorem cache_after_sharingRun :
    let renderer := Settings.renderer {}
    (renderer.after (sharingRun.take 5)).cachedCount = 2 ∧
      (renderer.after sharingRun).cachedCount = 1 ∧
      renderer.after (sharingRun.take 3) = renderer.after (sharingRun.take 2) ∧
      ∃ first second third : SharedTemplate,
        (renderer.answers sharingRun)[1]? = some (.template (.ok first)) ∧
        (renderer.answers sharingRun)[4]? = some (.template (.ok second)) ∧
        (renderer.answers sharingRun)[6]? = some (.template (.ok third)) ∧
        first.serial = second.serial ∧ first.serial ≠ third.serial := by
  intro renderer
  have hdepth : Allows (some Template.maxNesting) 0 := allows_some.mpr (by decide)
  have hparam : Template.parse "\x7b0\x7d" = .ok [.param (.position 0)] :=
    @Template.read_print (some Template.maxNesting) [.param (.position 0)] (by decide) hdepth
  have htext : Template.parse "a" = .ok [.text "a"] :=
    @Template.read_print (some Template.maxNesting) [.text "a"] (by decide) hdepth
  have herror : Template.parse "\x7b" = .error ⟨.unterminatedToken, ⟨1, 1⟩⟩ :=
    Template.read_eq_error.mpr
      ⟨⟨.unterminatedToken, ['\x7b']⟩, Reader.run_of_failure rfl, by decide⟩
  obtain ⟨hearly, -, -⟩ := cache_after {} (sharingRun.take 5)
  obtain ⟨hlate, hrefused, hshared⟩ := cache_after {} sharingRun
  have hbefore : readSinceClear (sharingRun.take 5) =
      ["\x7b0\x7d", "\x7b0\x7d", "a", "\x7b0\x7d"] := by
    simp [readSinceClear, sharingRun, List.rtakeWhile, Operation.clears, Option.filter_some,
      Operation.template?, Operation.source?, hparam, htext, herror, Except.isOk, Except.toBool]
  have hbehind : readSinceClear sharingRun = ["\x7b0\x7d"] := by
    simp [readSinceClear, sharingRun, List.rtakeWhile, Operation.clears, Option.filter_some,
      Operation.template?, Operation.source?, hparam, Except.isOk, Except.toBool]
  obtain ⟨first, hfirst⟩ := @exists_answer_of_parse sharingRun _ _ {} 1 rfl hparam
  obtain ⟨second, hsecond⟩ := @exists_answer_of_parse sharingRun _ _ {} 4 rfl hparam
  obtain ⟨third, hthird⟩ := @exists_answer_of_parse sharingRun _ _ {} 6 rfl hparam
  refine ⟨?_, ?_, hrefused 2 _ "\x7b" _ rfl rfl herror, first, second, third, hfirst, hsecond,
    hthird, ?_, ?_⟩
  · rw [hearly, hbefore]
    decide
  · rw [hlate, hbehind]
    rfl
  · refine (hshared 1 4 _ _ _ _ (by decide) rfl rfl hfirst hsecond).mpr ⟨rfl, ?_⟩
    simp [sharingRun]
  · intro hsame
    have hkept := ((hshared 1 6 _ _ _ _ (by decide) rfl rfl hfirst hthird).mp hsame).2
    simp [sharingRun] at hkept

end Renderer

end MessageTemplate
