import MessageTemplate.Registry
import MessageTemplate.Render
import MessageTemplate.Template.Reader

/-!
# Renderers

A renderer holds the settings of rendering and a cache of the templates that it
has read.  A cached template is shared: reading its source again hands out the
same tree.  Each tree that a renderer builds has a number of its own, so two
trees are the same object exactly when their numbers are equal.
-/

namespace MessageTemplate

/-- A tree that is handed out more than once. -/
structure SharedTemplate where
  /-- The number of the tree among those that its renderer has built. -/
  serial : Nat
  template : Template

/-- The settings of rendering and the cache of templates. -/
structure Renderer where
  language : String := "en"
  policy : Policy := .raise
  resolver : Plural.Resolver := Plural.singularPlural
  /-- The templates read so far, under their sources. -/
  cache : List (String × SharedTemplate) := []
  /-- The number of trees built so far. -/
  built : Nat := 0

/-- Why a source cannot be rendered. -/
inductive FormatError where
  | parse (error : ParseError)
  | substitution (error : SubstitutionError)
  deriving DecidableEq, Repr

/-- The message of the error inside. -/
def FormatError.message : FormatError → String
  | parse error => error.message
  | substitution error => error.message

namespace Renderer

/-- The cached tree of a source. -/
def cached? (renderer : Renderer) (source : String) : Option SharedTemplate :=
  renderer.cache.lookup source

/-- The number of cached templates. -/
def cachedCount (renderer : Renderer) : Nat :=
  renderer.cache.length

/-- Reads a source, or hands out the cached tree.  A source that is not a template
leaves the renderer as it is. -/
def parse (renderer : Renderer) (source : String) :
    Except ParseError SharedTemplate × Renderer :=
  match renderer.cached? source with
  | some tree => (.ok tree, renderer)
  | none =>
    match Template.parse source with
    | .error error => (.error error, renderer)
    | .ok template =>
      let tree : SharedTemplate := ⟨renderer.built, template⟩
      (.ok tree,
        { renderer with cache := (source, tree) :: renderer.cache, built := renderer.built + 1 })

/-- What rendering in a language reads. -/
def context (renderer : Renderer) (language : String) (params : Params) : Context where
  language
  params
  resolver := renderer.resolver
  policy := renderer.policy

/-- Reads and renders a source in a language. -/
def formatIn (renderer : Renderer) (language source : String) (params : Params) :
    Except FormatError String × Renderer :=
  match renderer.parse source with
  | (.error error, renderer) => (.error (.parse error), renderer)
  | (.ok tree, renderer) =>
    ((tree.template.render (renderer.context language params)).mapError .substitution, renderer)

/-- Reads and renders a source in the language of the renderer. -/
def format (renderer : Renderer) (source : String) (params : Params) :
    Except FormatError String × Renderer :=
  renderer.formatIn renderer.language source params

/-- The token registry of a source. -/
def tokens (renderer : Renderer) (source : String) : Except ParseError (List Token) × Renderer :=
  match renderer.parse source with
  | (.error error, renderer) => (.error error, renderer)
  | (.ok tree, renderer) => (.ok tree.template.tokens, renderer)

/-- Changes the language. -/
def setLanguage (renderer : Renderer) (language : String) : Renderer :=
  { renderer with language }

/-- Changes the policy. -/
def setPolicy (renderer : Renderer) (policy : Policy) : Renderer :=
  { renderer with policy }

/-- Drops all cached templates. -/
def clearCache (renderer : Renderer) : Renderer :=
  { renderer with cache := [] }

end Renderer

end MessageTemplate
