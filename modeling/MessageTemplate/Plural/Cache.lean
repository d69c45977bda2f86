import MessageTemplate.Plural.Language

/-!
# The cache of plural rules

The rules of a language are prepared when a number in that language is asked for
the first time, and are kept for the numbers that follow.
-/

namespace MessageTemplate.Plural

/-- The prepared rules of the languages asked for so far. -/
abbrev RuleCache := List (Language × List Rule)

namespace RuleCache

/-- No rules are prepared yet. -/
def empty : RuleCache := []

/-- The category of a number in the language of a tag, and the cache afterwards.  `build`
prepares the rules of a language.  When it cannot, the number is in the category `other`, and
nothing is kept. -/
def categorize (build : Language → Option (List Rule)) (cache : RuleCache) (tag : String)
    (operands : Operands) : Category × RuleCache :=
  let language := Language.ofTag tag
  match cache.find? fun entry => entry.1 = language with
  | some entry => (categoryBy entry.2 operands, cache)
  | none =>
    match build language with
    | none => (.other, cache)
    | some rules => (categoryBy rules operands, cache ++ [(language, rules)])

end RuleCache

/-- The category of a number in the language of a tag.  `build` prepares the rules of a
language. -/
def categoryWith (build : Language → Option (List Rule)) (tag : String) (operands : Operands) :
    Category :=
  (RuleCache.empty.categorize build tag operands).1

/-- The category of a number by the rules of the table. -/
def category : String → Operands → Category :=
  categoryWith Language.rules?

end MessageTemplate.Plural
