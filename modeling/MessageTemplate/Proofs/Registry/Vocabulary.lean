import MessageTemplate.Plural.Resolver
import MessageTemplate.Proofs.Registry.FirstOccurrence
import MessageTemplate.Proofs.Render.Selection

/-!
# Rule keys and the words of the registry

The registry tells plural choices from gender choices by the keys of their styles, and a
rendering selects a style by the rule key of a number.  The two agree: a rule key is `other` or
one of the plural words that the registry knows, and no plural word is a gender word.  So a
style that a number selects by its rule key marks the choice as a plural one, and a number
comes to a style for a gender only when nothing else is left to show.
-/

namespace MessageTemplate

open Node Registry

/-! ## Words -/

/-- The word is `other` or one of the plural words. -/
def IsRuleWord (word : String) : Prop :=
  word = "other" ∨ word ∈ numberWords

theorem isRuleWord_word (category : Plural.Category) : IsRuleWord category.word := by
  cases category with
  | other => exact .inl rfl
  | zero | one | two | few | many => exact .inr (by decide)

theorem not_mem_genderWords_of_mem {word : String} (h : word ∈ numberWords) :
    word ∉ genderWords := by
  have hdisjoint : ∀ word ∈ numberWords, word ∉ genderWords := by decide
  exact hdisjoint word h

theorem IsRuleWord.not_mem_genderWords {word : String} (h : IsRuleWord word) :
    word ∉ genderWords := by
  rcases h with rfl | h
  · decide
  · exact not_mem_genderWords_of_mem h

/-! ## Rule keys -/

theorem isRuleWord_singularPlural (tag : String) (x : Binary64) :
    IsRuleWord (Plural.singularPlural tag x) := by
  unfold Plural.singularPlural
  split <;> exact .inr (by decide)

theorem isRuleWord_byCategoryWith (build : Plural.Language → Option (List Plural.Rule))
    (tag : String) (x : Binary64) : IsRuleWord (Plural.byCategoryWith build tag x) := by
  unfold Plural.byCategoryWith
  split <;> exact isRuleWord_word _

/-- The resolver is one of the two that are provided, the second with any rules. -/
def IsProvided (resolver : Plural.Resolver) : Prop :=
  resolver = Plural.singularPlural ∨ ∃ build, resolver = Plural.byCategoryWith build

theorem IsProvided.isRuleWord {resolver : Plural.Resolver} (h : IsProvided resolver)
    (tag : String) (x : Binary64) : IsRuleWord (resolver tag x) := by
  rcases h with rfl | ⟨build, rfl⟩
  · exact isRuleWord_singularPlural tag x
  · exact isRuleWord_byCategoryWith build tag x

/-! ## Choices of a number -/

variable {ctx : Context} {index : Index} {styles : List (Style Node)} {style : Style Node}
  {value : Value} {x : Binary64} {key : String}

theorem ruleKey_of_toNumber? (hnumber : value.toNumber? = some x) :
    ctx.ruleKey value = ctx.resolver ctx.language x := by
  rw [Context.ruleKey, hnumber]
  rfl

/-- A style with a plural word makes a choice a plural one. -/
theorem number_mem_contexts (hstyle : style ∈ styles) (hword : style.key ∈ numberWords) :
    .number ∈ (entry index (.styled .choice index styles)).contexts :=
  number_mem_choiceContexts.mpr (.inl ⟨style, hstyle, hword⟩)

/-- A style for a gender has no rule word, so only the place in front can have selected it. -/
theorem head?_of_mem_genderWords (hkey : IsRuleWord key)
    (hselected : Style.forRuleKey? key styles = some style) (hgender : style.key ∈ genderWords) :
    styles.head? = some style ∧ ∀ other ∈ styles, other.key ≠ key ∧ other.key ≠ "other" := by
  rcases forRuleKey?_cases hselected with hrule | hother | hfirst
  · exact absurd (hrule ▸ hgender) hkey.not_mem_genderWords
  · exact absurd (hother ▸ hgender) (by decide)
  · exact hfirst

/-- The words of the registry cover what the provided resolvers can return: the rule key of
every number in every language is `other` or a plural word, and never a gender word.  So in a
choice of a numeric value, a style that is selected by the rule key, other than `other`, makes
the token a number token; and a style for a gender is selected only as the first style, when
no style has the rule key or the key `other`.  The selected style is the one that is
rendered. -/
theorem ruleKey_vocabulary (resolver : Plural.Resolver) (hresolver : IsProvided resolver) :
    (∀ tag x, (resolver tag x = "other" ∨ resolver tag x ∈ numberWords) ∧
      resolver tag x ∉ genderWords) ∧
    ∀ (ctx : Context) (index : Index) (styles : List (Style Node)) (value : Value)
      (x : Binary64) (style : Style Node), ctx.resolver = resolver →
      ctx.params.lookup index = .found value → value.toNumber? = some x →
      ctx.selected? (.styled .choice index styles) = some style →
      (Node.styled .choice index styles).render ctx = renderAll ctx style.items ∧
      (style.key = resolver ctx.language x → style.key ≠ "other" →
        .number ∈ (entry index (.styled .choice index styles)).contexts) ∧
      (style.key ∈ genderWords → styles.head? = some style ∧
        ∀ other ∈ styles, other.key ≠ resolver ctx.language x ∧ other.key ≠ "other") := by
  refine ⟨fun tag x => ?_, ?_⟩
  · have hword := hresolver.isRuleWord tag x
    exact ⟨hword, hword.not_mem_genderWords⟩
  · rintro ctx index styles value x style rfl hlookup hnumber hselected
    have hword := hresolver.isRuleWord ctx.language x
    have hmem : style ∈ styles := mem_styles_of_selected? hselected
    rw [selected?_of_found hlookup, ruleKey_of_toNumber? hnumber] at hselected
    refine ⟨?_, fun hkey hne => ?_, head?_of_mem_genderWords hword hselected⟩
    · rw [render_choice_of_found hlookup, ruleKey_of_toNumber? hnumber, Context.renderForRuleKey,
        hselected]
    · exact number_mem_contexts hmem ((hkey ▸ hword).resolve_left hne)

/-- A numeral is given to a choice with styles for genders.  The plural word behind them is
selected, and makes the choice a plural one; without it the first gender is shown. -/
theorem ruleKey_vocabulary_numeral :
    let ctx : Context := ⟨"ru", .positional [.text " 2 "], Plural.byCategory, .raise⟩
    let male : Style Node := ⟨"male", [.text "A"]⟩
    let few : Style Node := ⟨"few", [.text "B"]⟩
    ctx.params.lookup (.position 0) = .found (.text " 2 ") ∧
      (Value.text " 2 ").toNumber? = some (.ofInt binary64 2) ∧
      ctx.selected? (.styled .choice (.position 0) [male, few]) = some few ∧
      few.key = Plural.byCategory "ru" (.ofInt binary64 2) ∧
      .number ∈ (entry (.position 0) (.styled .choice (.position 0) [male, few])).contexts ∧
      ctx.selected? (.styled .choice (.position 0) [male]) = some male ∧
      (Node.styled .choice (.position 0) [male]).render ctx = renderAll ctx male.items ∧
      [male].head? = some male := by
  intro ctx male few
  have hlookup : ctx.params.lookup (.position 0) = .found (.text " 2 ") := rfl
  have hnumber : (Value.text " 2 ").toNumber? = some (.ofInt binary64 2) := by decide +kernel
  have hkey : Plural.byCategory "ru" (.ofInt binary64 2) = "few" := by decide +kernel
  have hresolved : ctx.resolver ctx.language (.ofInt binary64 2) = "few" := by decide +kernel
  have hrule : ctx.ruleKey (.text " 2 ") = "few" := (ruleKey_of_toNumber? hnumber).trans hresolved
  have hfew : ctx.selected? (.styled .choice (.position 0) [male, few]) = some few := by
    rw [selected?_of_found hlookup, hrule]
    rfl
  have hmale : ctx.selected? (.styled .choice (.position 0) [male]) = some male := by
    rw [selected?_of_found hlookup, hrule]
    rfl
  obtain ⟨-, hchoice⟩ := ruleKey_vocabulary Plural.byCategory (.inr ⟨_, rfl⟩)
  obtain ⟨-, hnumberToken, -⟩ := hchoice ctx _ _ _ _ few rfl hlookup hnumber hfew
  obtain ⟨hrender, -, hgender⟩ := hchoice ctx _ _ _ _ male rfl hlookup hnumber hmale
  exact ⟨hlookup, hnumber, hfew, hkey.symm, hnumberToken hkey.symm (by decide), hmale, hrender,
    (hgender (by decide)).1⟩

end MessageTemplate
