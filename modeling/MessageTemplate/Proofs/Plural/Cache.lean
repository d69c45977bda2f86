import Mathlib.Data.List.Nodup
import MessageTemplate.Plural.Cache

/-!
# The cache of plural rules is invisible

A call finds the rules of its language in the cache or builds them, and may store what it has
built; `Asked` says this once.  The cache stays coherent: every language is stored once, with
the rules that building it gives.  So a call is answered as it would be by an empty cache,
whatever was asked before.

An empty cache answers by the language of the tag alone, and the tag names its language by the
part in front of the first `-` or `_`, without regard to ASCII case.
-/

namespace MessageTemplate.Plural

variable {build : Language → Option (List Rule)} {cache next : RuleCache} {language : Language}
  {operands : Operands} {given : Category} {tag : String}

/-! ## The language of a tag -/

namespace Language

theorem code_injective : Function.Injective code := by
  have hcodes : (all.map code).Nodup := by decide
  intro a b h
  exact List.inj_on_of_nodup_map hcodes (mem_all a) (mem_all b) h

/-- The languages differ in their codes. -/
theorem eq_of_toList_code {other : Language} (h : language.code.toList = other.code.toList) :
    language = other :=
  code_injective (String.toList_inj.mp h)

/-- A tag names the language whose code it begins with, in either case. -/
theorem ofTag_of_code (h : (primary tag).map Char.toLower = language.code.toList) :
    ofTag tag = language := by
  unfold ofTag
  dsimp only
  cases hfind : all.find? fun other => other.code.toList == (primary tag).map Char.toLower with
  | none =>
    have hne := List.find?_eq_none.mp hfind language (mem_all language)
    exact absurd (beq_iff_eq.mpr h.symm) hne
  | some other =>
    have hcode : other.code.toList = (primary tag).map Char.toLower := by
      simpa only [beq_iff_eq] using List.find?_some hfind
    exact eq_of_toList_code (hcode.trans h)

/-- A tag that begins with no code stands for English. -/
theorem ofTag_of_unknown
    (h : ∀ language : Language, (primary tag).map Char.toLower ≠ language.code.toList) :
    ofTag tag = english := by
  have hfind : all.find? (fun other => other.code.toList == (primary tag).map Char.toLower) =
      none :=
    List.find?_eq_none.mpr fun language _ heq => h language (beq_iff_eq.mp heq).symm
  rw [ofTag, hfind, Option.getD_none]

end Language

namespace RuleCache

/-! ## One call -/

/-- What a call for a language may come to, with the cache that it leaves. -/
inductive Asked (build : Language → Option (List Rule)) (cache : RuleCache) (language : Language)
    (operands : Operands) : Category → RuleCache → Prop where
  /-- The rules are in the cache. -/
  | found {rules : List Rule} (hentry : (language, rules) ∈ cache) :
      Asked build cache language operands (categoryBy rules operands) cache
  /-- The rules are not there and cannot be built. -/
  | failed (hnew : language ∉ cache.map Prod.fst) (hbuild : build language = none) :
      Asked build cache language operands .other cache
  /-- The rules are built and stored. -/
  | stored {rules : List Rule} (hnew : language ∉ cache.map Prod.fst)
      (hbuild : build language = some rules) :
      Asked build cache language operands (categoryBy rules operands)
        (cache ++ [(language, rules)])

theorem asked_categorize (build : Language → Option (List Rule)) (cache : RuleCache)
    (tag : String) (operands : Operands) :
    Asked build cache (Language.ofTag tag) operands (cache.categorize build tag operands).1
      (cache.categorize build tag operands).2 := by
  unfold categorize
  dsimp only
  cases hfind : cache.find? fun entry => entry.1 = Language.ofTag tag with
  | some entry =>
    have hlanguage : entry.1 = Language.ofTag tag := by
      simpa only [decide_eq_true_iff] using List.find?_some hfind
    exact .found (hlanguage ▸ List.mem_of_find?_eq_some hfind)
  | none =>
    have hnew : Language.ofTag tag ∉ cache.map Prod.fst := by
      intro hmem
      obtain ⟨entry, hentry, hlanguage⟩ := List.mem_map.mp hmem
      exact List.find?_eq_none.mp hfind entry hentry (decide_eq_true hlanguage)
    cases hbuild : build (Language.ofTag tag) with
    | none => exact .failed hnew hbuild
    | some rules => exact .stored hnew hbuild

/-! ## Coherence -/

/-- Each language is stored once, and with the rules that are built for it. -/
structure Coherent (build : Language → Option (List Rule)) (cache : RuleCache) : Prop where
  nodup : (cache.map Prod.fst).Nodup
  built : ∀ entry ∈ cache, build entry.1 = some entry.2

theorem coherent_empty (build : Language → Option (List Rule)) : Coherent build empty :=
  ⟨List.nodup_nil, nofun⟩

/-- A call keeps the cache coherent. -/
theorem Asked.coherent (h : Asked build cache language operands given next)
    (hcache : Coherent build cache) : Coherent build next := by
  cases h with
  | found | failed => exact hcache
  | @stored rules hnew hbuild =>
    constructor
    · rw [List.map_append, List.nodup_append_comm]
      exact List.nodup_cons.mpr ⟨hnew, hcache.nodup⟩
    · intro entry hentry
      rcases List.mem_append.mp hentry with hold | hlast
      · exact hcache.built entry hold
      · obtain rfl := List.mem_singleton.mp hlast
        exact hbuild

/-- The category that the rules of a language give, if they can be built. -/
def answer (build : Language → Option (List Rule)) (language : Language) (operands : Operands) :
    Category :=
  match build language with
  | some rules => categoryBy rules operands
  | none => .other

/-- A coherent cache answers by the rules of the language. -/
theorem Asked.answer_eq (h : Asked build cache language operands given next)
    (hcache : Coherent build cache) : given = answer build language operands := by
  unfold answer
  cases h with
  | found hentry => rw [hcache.built _ hentry]
  | failed _ hbuild | stored _ hbuild => rw [hbuild]

/-! ## Sequences of calls -/

/-- What a call asks for. -/
structure Query where
  tag : String
  operands : Operands

/-- The cache after some calls. -/
def after (build : Language → Option (List Rule)) (cache : RuleCache) (queries : List Query) :
    RuleCache :=
  queries.foldl (fun cache query => (cache.categorize build query.tag query.operands).2) cache

/-- The answers to some calls. -/
def answers (build : Language → Option (List Rule)) (cache : RuleCache) :
    List Query → List Category
  | [] => []
  | query :: rest =>
    let (category, next) := cache.categorize build query.tag query.operands
    category :: answers build next rest

/-- What an empty cache answers. -/
def fresh (build : Language → Option (List Rule)) (query : Query) : Category :=
  (empty.categorize build query.tag query.operands).1

theorem fresh_eq (build : Language → Option (List Rule)) (query : Query) :
    fresh build query = answer build (Language.ofTag query.tag) query.operands :=
  (asked_categorize build empty query.tag query.operands).answer_eq (coherent_empty build)

theorem Coherent.after (h : Coherent build cache) (queries : List Query) :
    Coherent build (cache.after build queries) := by
  induction queries generalizing cache with
  | nil => exact h
  | cons query rest ih => exact ih ((asked_categorize build cache _ _).coherent h)

/-- A coherent cache answers every call as an empty one. -/
theorem Coherent.answers_eq (h : Coherent build cache) (queries : List Query) :
    cache.answers build queries = queries.map (fresh build) := by
  induction queries generalizing cache with
  | nil => rfl
  | cons query rest ih =>
    have hcall := asked_categorize build cache query.tag query.operands
    rw [answers, List.map_cons, fresh_eq, ← hcall.answer_eq h, ← ih (hcall.coherent h)]

/-- The cache leaks no language into another.  Whatever the rules are that can be built, in
every sequence of calls each answer is that of an empty cache, and the cache holds each
language code once at most, with the rules that are built for this language.  An answer
depends on the tag only through the part in front of the first `-` or `_`, without regard to
ASCII case: a code stands for its language, and a tag that begins with no code is answered as
`en`. -/
theorem answers_eq_fresh (build : Language → Option (List Rule)) (queries : List Query) :
    empty.answers build queries = queries.map (fresh build) ∧
    ((empty.after build queries).map fun entry => entry.1.code).Nodup ∧
    (∀ entry ∈ empty.after build queries, build entry.1 = some entry.2) ∧
    (∀ tag tag' operands,
      (Language.primary tag).map Char.toLower = (Language.primary tag').map Char.toLower →
      fresh build ⟨tag, operands⟩ = fresh build ⟨tag', operands⟩) ∧
    (∀ tag operands, ∀ language : Language,
      (Language.primary tag).map Char.toLower = language.code.toList →
      fresh build ⟨tag, operands⟩ = answer build language operands) ∧
    ∀ tag operands,
      (∀ language : Language, (Language.primary tag).map Char.toLower ≠ language.code.toList) →
      fresh build ⟨tag, operands⟩ = fresh build ⟨"en", operands⟩ := by
  have hcoherent := (coherent_empty build).after queries
  refine ⟨(coherent_empty build).answers_eq queries, ?_, hcoherent.built, ?_, ?_, ?_⟩
  · have hcodes := hcoherent.nodup.map Language.code_injective
    rwa [List.map_map] at hcodes
  · intro tag tag' operands h
    rw [fresh_eq, fresh_eq]
    dsimp only
    rw [Language.ofTag, h]
    rfl
  · intro tag operands language h
    rw [fresh_eq, Language.ofTag_of_code h]
  · intro tag operands h
    have henglish : Language.ofTag "en" = .english := Language.ofTag_of_code rfl
    rw [fresh_eq, fresh_eq, Language.ofTag_of_unknown h, henglish]

/-- Two tags of one language, two of a language whose rules cannot be built, and one that
names no language. -/
theorem answers_eq_fresh_withoutFrench :
    let build := fun language => if language = .french then none else some language.rules
    let queries : List Query :=
      [⟨"ru-RU", .ofNat 2⟩, ⟨"fr", .ofNat 1⟩, ⟨"RU_x", .ofNat 5⟩, ⟨"xx", .ofNat 1⟩,
        ⟨"fr_FR", .ofNat 1⟩]
    empty.answers build queries = [.few, .other, .many, .one, .other] ∧
    (empty.after build queries).map (fun entry => entry.1.code) = ["ru", "en"] ∧
    fresh build ⟨"ru-RU", .ofNat 5⟩ = fresh build ⟨"RU_x", .ofNat 5⟩ ∧
    fresh build ⟨"FR", .ofNat 1⟩ = answer build .french (.ofNat 1) ∧
    fresh build ⟨"xx", .ofNat 1⟩ = fresh build ⟨"en", .ofNat 1⟩ := by
  intro build queries
  obtain ⟨hanswers, -, -, hcase, hcode, hunknown⟩ := answers_eq_fresh build queries
  refine ⟨hanswers.trans (by decide), by decide, hcase _ _ _ (by decide), hcode _ _ _ (by decide),
    hunknown _ _ ?_⟩
  intro language
  cases language <;> decide

end RuleCache

end MessageTemplate.Plural
