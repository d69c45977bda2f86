import MessageTemplate.Renderer
import Mathlib.Data.List.Nodup

/-!
# Runs of a renderer

A run performs operations one after the other.  Each operation is performed by the renderer
that the operations before it leave, so what holds of a run follows from what one operation
can do.  `Change` says this once: an operation that reads a source keeps the renderer or
stores one new tree, and every other operation changes one setting or drops the cache.

`Coherent` is the invariant of the cache: each source is stored once, under the tree that
parsing it gives, and the trees are numbered apart and below the number of the next tree.
-/

namespace MessageTemplate

/-! ## Operations and answers -/

/-- What a renderer can be asked to do. -/
inductive Operation where
  | parse (source : String)
  | format (source : String) (params : Params)
  | formatIn (language source : String) (params : Params)
  | tokens (source : String)
  | setLanguage (language : String)
  | setPolicy (policy : Policy)
  | clearCache

namespace Operation

/-- The source that an operation reads. -/
def source? : Operation → Option String
  | parse source | format source _ | formatIn _ source _ | tokens source => some source
  | setLanguage _ | setPolicy _ | clearCache => none

/-- The language that an operation sets. -/
def language? : Operation → Option String
  | setLanguage language => some language
  | _ => none

/-- The policy that an operation sets. -/
def policy? : Operation → Option Policy
  | setPolicy policy => some policy
  | _ => none

/-- The operation drops the cache. -/
def clears : Operation → Bool
  | clearCache => true
  | _ => false

/-- An operation that reads a source sets nothing and drops nothing. -/
theorem reads_only {op : Operation} {source : String} (h : op.source? = some source) :
    op.language? = none ∧ op.policy? = none ∧ op.clears = false := by
  cases op with
  | parse | format | formatIn | tokens => exact ⟨rfl, rfl, rfl⟩
  | setLanguage | setPolicy | clearCache => contradiction

end Operation

/-- What an operation answers.  `τ` is what is handed out for a template. -/
inductive Answer (τ : Type) where
  | template (result : Except ParseError τ)
  | text (result : Except FormatError String)
  | tokens (result : Except ParseError (List Token))
  | done

/-- The answer with something else handed out for a template. -/
def Answer.map {τ σ : Type} (f : τ → σ) : Answer τ → Answer σ
  | template result => template (result.map f)
  | text result => text result
  | tokens result => tokens result
  | done => done

namespace Renderer

/-- Performs an operation. -/
def perform (renderer : Renderer) : Operation → Answer SharedTemplate × Renderer
  | .parse source => (renderer.parse source).map .template id
  | .format source params => (renderer.format source params).map .text id
  | .formatIn language source params => (renderer.formatIn language source params).map .text id
  | .tokens source => (renderer.tokens source).map .tokens id
  | .setLanguage language => (.done, renderer.setLanguage language)
  | .setPolicy policy => (.done, renderer.setPolicy policy)
  | .clearCache => (.done, renderer.clearCache)

/-- The renderer after some operations. -/
def after (renderer : Renderer) (ops : List Operation) : Renderer :=
  ops.foldl (fun renderer op => (renderer.perform op).2) renderer

/-- The answers to some operations. -/
def answers (renderer : Renderer) : List Operation → List (Answer SharedTemplate)
  | [] => []
  | op :: rest => (renderer.perform op).1 :: answers (renderer.perform op).2 rest

variable {renderer next : Renderer} {op : Operation} {ops : List Operation} {source : String}
  {template : Template} {tree : SharedTemplate} {error : ParseError}

@[simp] theorem after_nil : renderer.after [] = renderer := rfl

@[simp] theorem after_cons :
    renderer.after (op :: ops) = (renderer.perform op).2.after ops := rfl

theorem after_append (first second : List Operation) :
    renderer.after (first ++ second) = (renderer.after first).after second :=
  List.foldl_append

theorem after_concat : renderer.after (ops ++ [op]) = ((renderer.after ops).perform op).2 :=
  after_append ops [op]

/-- Each operation is answered by the renderer that the operations before it leave. -/
theorem getElem?_answers (i : Nat) : (renderer.answers ops)[i]? =
    ops[i]?.map fun op => ((renderer.after (ops.take i)).perform op).1 := by
  induction ops generalizing renderer i with
  | nil => rfl
  | cons op rest ih =>
    cases i with
    | zero => rfl
    | succ i => exact ih i

/-! ## What an operation does -/

/-- The renderer with a new tree. -/
def store (renderer : Renderer) (source : String) (template : Template) : Renderer :=
  { renderer with
    cache := (source, ⟨renderer.built, template⟩) :: renderer.cache
    built := renderer.built + 1 }

/-- A cached source is handed out. -/
theorem parse_of_cached (h : renderer.cached? source = some tree) :
    renderer.parse source = (.ok tree, renderer) := by
  simp only [parse, h]

theorem parse_of_error (hnew : renderer.cached? source = none)
    (h : Template.parse source = .error error) :
    renderer.parse source = (.error error, renderer) := by
  simp only [parse, hnew, h]

theorem parse_of_ok (hnew : renderer.cached? source = none)
    (h : Template.parse source = .ok template) :
    renderer.parse source = (.ok ⟨renderer.built, template⟩, renderer.store source template) := by
  simp only [parse, hnew, h, store]

/-- What an operation can do to a renderer. -/
inductive Change (renderer : Renderer) : Operation → Renderer → Prop where
  | found {op : Operation} {source : String} {tree : SharedTemplate}
      (hsource : op.source? = some source) (hcached : renderer.cached? source = some tree) :
      Change renderer op renderer
  /-- The source is not a template. -/
  | refused {op : Operation} {source : String} {error : ParseError}
      (hsource : op.source? = some source) (hnew : renderer.cached? source = none)
      (hparse : Template.parse source = .error error) : Change renderer op renderer
  | stored {op : Operation} {source : String} {template : Template}
      (hsource : op.source? = some source) (hnew : renderer.cached? source = none)
      (hparse : Template.parse source = .ok template) :
      Change renderer op (renderer.store source template)
  | language (language : String) :
      Change renderer (.setLanguage language) (renderer.setLanguage language)
  | policy (policy : Policy) : Change renderer (.setPolicy policy) (renderer.setPolicy policy)
  | cleared : Change renderer .clearCache renderer.clearCache

/-- Every operation that reads a source leaves the renderer that parsing the source leaves,
whatever becomes of the rendering. -/
theorem perform_of_source (h : op.source? = some source) :
    (renderer.perform op).2 = (renderer.parse source).2 := by
  have hformat (language : String) (params : Params) :
      (renderer.formatIn language source params).2 = (renderer.parse source).2 := by
    unfold formatIn
    rcases renderer.parse source with ⟨error | tree, next⟩ <;> rfl
  cases op with
  | parse => cases h; rfl
  | format _ params => cases h; exact hformat renderer.language params
  | formatIn language _ params => cases h; exact hformat language params
  | tokens =>
    cases h
    change (renderer.tokens source).2 = (renderer.parse source).2
    unfold tokens
    rcases renderer.parse source with ⟨error | tree, next⟩ <;> rfl
  | setLanguage | setPolicy | clearCache => contradiction

theorem change_of_source (h : op.source? = some source) :
    Change renderer op (renderer.perform op).2 := by
  rw [perform_of_source h]
  cases hcached : renderer.cached? source with
  | some tree =>
    rw [parse_of_cached hcached]
    exact .found h hcached
  | none =>
    cases hparse : Template.parse source with
    | error error =>
      rw [parse_of_error hcached hparse]
      exact .refused h hcached hparse
    | ok template =>
      rw [parse_of_ok hcached hparse]
      exact .stored h hcached hparse

theorem change_perform (renderer : Renderer) (op : Operation) :
    Change renderer op (renderer.perform op).2 := by
  cases op with
  | parse | format | formatIn | tokens => exact change_of_source rfl
  | setLanguage language => exact .language language
  | setPolicy policy => exact .policy policy
  | clearCache => exact .cleared

/-- A property that every change keeps is kept by runs. -/
theorem after_induction {motive : Renderer → Prop}
    (hstep : ∀ renderer op next, Change renderer op next → motive renderer → motive next)
    (ops : List Operation) (h : motive renderer) : motive (renderer.after ops) := by
  induction ops generalizing renderer with
  | nil => exact h
  | cons op rest ih => exact ih (hstep _ _ _ (change_perform renderer op) h)

/-! ## The invariant of the cache -/

/-- The sources in the cache. -/
def sources (renderer : Renderer) : List String :=
  renderer.cache.map Prod.fst

/-- What holds of the cache between operations. -/
structure Coherent (renderer : Renderer) : Prop where
  /-- A source is stored with the tree that it is read as. -/
  parse : ∀ entry ∈ renderer.cache, Template.parse entry.1 = .ok entry.2.template
  sources_nodup : renderer.sources.Nodup
  serials_nodup : (renderer.cache.map fun entry => entry.2.serial).Nodup
  serial_lt : ∀ entry ∈ renderer.cache, entry.2.serial < renderer.built

theorem coherent_of_cache_eq_nil (h : renderer.cache = []) : renderer.Coherent := by
  constructor <;> simp [sources, h]

/-- A source is not in the cache when nothing is found. -/
theorem cached?_eq_none : renderer.cached? source = none ↔ source ∉ renderer.sources := by
  rw [cached?, List.lookup_eq_none_iff, sources, List.mem_map]
  constructor
  · rintro h ⟨entry, hentry, rfl⟩
    simpa using h entry hentry
  · intro h entry hentry
    have hne : source ≠ entry.1 := fun heq => h ⟨entry, hentry, heq.symm⟩
    simpa using hne

theorem mem_of_cached? (h : renderer.cached? source = some tree) :
    (source, tree) ∈ renderer.cache := by
  obtain ⟨front, back, hcache, -⟩ := List.lookup_eq_some_iff.mp h
  rw [hcache]
  exact List.mem_append_right _ List.mem_cons_self

theorem Coherent.store (h : renderer.Coherent) (hnew : renderer.cached? source = none)
    (hparse : Template.parse source = .ok template) :
    (renderer.store source template).Coherent where
  parse := by
    intro entry hentry
    rcases List.mem_cons.mp hentry with rfl | hentry
    · exact hparse
    · exact h.parse entry hentry
  sources_nodup := List.nodup_cons.mpr ⟨cached?_eq_none.mp hnew, h.sources_nodup⟩
  serials_nodup := by
    refine List.nodup_cons.mpr ⟨fun hmem => ?_, h.serials_nodup⟩
    obtain ⟨entry, hentry, hserial⟩ := List.mem_map.mp hmem
    have hlt := h.serial_lt entry hentry
    dsimp only at hserial
    omega
  serial_lt := by
    intro entry hentry
    rcases List.mem_cons.mp hentry with rfl | hentry
    · exact Nat.lt_succ_self _
    · exact Nat.lt_succ_of_lt (h.serial_lt entry hentry)

theorem Change.coherent (hchange : Change renderer op next) (h : renderer.Coherent) :
    next.Coherent := by
  cases hchange with
  | found | refused => exact h
  | stored _ hnew hparse => exact h.store hnew hparse
  | language | policy => exact ⟨h.parse, h.sources_nodup, h.serials_nodup, h.serial_lt⟩
  | cleared => exact coherent_of_cache_eq_nil rfl

theorem Coherent.after (h : renderer.Coherent) (ops : List Operation) :
    (renderer.after ops).Coherent :=
  after_induction (fun _ _ _ hchange => hchange.coherent) ops h

/-- In a coherent cache parsing gives the tree of the source, whether it is new or not. -/
theorem Coherent.parse_template (h : renderer.Coherent) (source : String) :
    (renderer.parse source).1.map SharedTemplate.template = Template.parse source := by
  cases hcached : renderer.cached? source with
  | some tree =>
    rw [parse_of_cached hcached]
    exact (h.parse _ (mem_of_cached? hcached)).symm
  | none =>
    cases hparse : Template.parse source with
    | error error => rw [parse_of_error hcached hparse]; rfl
    | ok template => rw [parse_of_ok hcached hparse]; rfl

end Renderer

end MessageTemplate
