import MessageTemplate.Plural.Rule

/-!
# The plural rules of the languages

The cardinal rules of 24 languages, and how a language tag names one of them.

The table follows the plural data of ICU4X 2.4.0.  Other releases of the CLDR
differ from it in places: here zero and one are in the category `one` of
Vietnamese, where CLDR 48 has the category `other` alone.
-/

namespace MessageTemplate.Plural

/-- The languages with plural rules. -/
inductive Language where
  | arabic | bengali | chinese | dutch | english | french | german | greek | hebrew | hindi
  | indonesian | italian | japanese | korean | persian | polish | portuguese | romanian
  | russian | spanish | thai | turkish | ukrainian | vietnamese
  deriving DecidableEq, Repr, Inhabited

namespace Language

/-- All languages, in the order of their codes. -/
def all : List Language :=
  [arabic, bengali, german, greek, english, spanish, persian, french, hebrew, hindi, indonesian,
    italian, japanese, korean, dutch, polish, portuguese, romanian, russian, thai, turkish,
    ukrainian, vietnamese, chinese]

/-- The two-letter code of a language. -/
def code : Language → String
  | arabic => "ar"
  | bengali => "bn"
  | chinese => "zh"
  | dutch => "nl"
  | english => "en"
  | french => "fr"
  | german => "de"
  | greek => "el"
  | hebrew => "he"
  | hindi => "hi"
  | indonesian => "id"
  | italian => "it"
  | japanese => "ja"
  | korean => "ko"
  | persian => "fa"
  | polish => "pl"
  | portuguese => "pt"
  | romanian => "ro"
  | russian => "ru"
  | spanish => "es"
  | thai => "th"
  | turkish => "tr"
  | ukrainian => "uk"
  | vietnamese => "vi"

theorem mem_all (language : Language) : language ∈ all := by
  cases language <;> decide

/-- The part of a tag that names the language: the text before the first `-` or
`_`. -/
def primary (tag : String) : List Char :=
  tag.toList.takeWhile fun c => c != '-' && c != '_'

/-- The language that a tag names, without regard to ASCII case.  A tag that
names none of them stands for English. -/
def ofTag (tag : String) : Language :=
  let word := (primary tag).map Char.toLower
  (all.find? fun language => language.code.toList == word).getD english

/-! ## Relations -/

/-- The number is `k`. -/
def numberIs (k : Nat) : Relation := { operand := .number, ranges := [(k, k)] }

/-- The integer part is `k`. -/
def wholeIs (k : Nat) : Relation := { operand := .whole, ranges := [(k, k)] }

/-- There are no digits after the point. -/
def noPlaces : Relation := { operand := .places, ranges := [(0, 0)] }

/-- There are digits after the point. -/
def somePlaces : Relation := { operand := .places, negated := true, ranges := [(0, 0)] }

/-- The integer part modulo `m` lies in a range. -/
def wholeMod (m first last : Nat) : Relation :=
  { operand := .whole, modulus := m, ranges := [(first, last)] }

/-- The integer part modulo `m` lies outside of a range. -/
def wholeModNot (m first last : Nat) : Relation :=
  { operand := .whole, modulus := m, negated := true, ranges := [(first, last)] }

/-- The number modulo `m` lies in a range. -/
def numberMod (m first last : Nat) : Relation :=
  { operand := .number, modulus := m, ranges := [(first, last)] }

/-! ## Rules -/

/-- Exactly the whole number one. -/
def oneWhole : Rule := ⟨.one, [[wholeIs 1, noPlaces]]⟩

/-- Exactly one, written with or without a fraction of zeros. -/
def oneNumber : Rule := ⟨.one, [[numberIs 1]]⟩

/-- Numbers whose integer part is zero, and one. -/
def zeroOrOne : Rule := ⟨.one, [[wholeIs 0], [numberIs 1]]⟩

/-- Numbers below two. -/
def belowTwo : Rule :=
  ⟨.one, [[{ operand := .whole, ranges := [(0, 1)] }]]⟩

/-- Whole millions, and compact numbers from a power of ten of six on. -/
def millions : Rule :=
  ⟨.many,
    [[{ operand := .power, ranges := [(0, 0)] },
      { operand := .whole, negated := true, ranges := [(0, 0)] },
      wholeMod 1000000 0 0, noPlaces],
     [{ operand := .power, negated := true, ranges := [(0, 5)] }]]⟩

/-- Whole numbers that end in two, three or four, but not in twelve, thirteen or
fourteen. -/
def slavicFew : Rule := ⟨.few, [[noPlaces, wholeMod 10 2 4, wholeModNot 100 12 14]]⟩

/-- Whole numbers. -/
def wholeMany : Rule := ⟨.many, [[noPlaces]]⟩

/-- The rules of a language.  Vietnamese has the rule of Hindi and Bengali, as in the
data that the table follows: 0 and 1 are `one`, and so is 0.5, but not 1.5. -/
def rules : Language → List Rule
  | indonesian | japanese | korean | thai | chinese => []
  | german | english | dutch => [oneWhole]
  | italian => [oneWhole, millions]
  | spanish => [oneNumber, millions]
  | french | portuguese => [belowTwo, millions]
  | greek | turkish => [oneNumber]
  | bengali | persian | hindi | vietnamese => [zeroOrOne]
  | hebrew =>
    [⟨.one, [[wholeIs 1, noPlaces], [wholeIs 0, somePlaces]]⟩, ⟨.two, [[wholeIs 2, noPlaces]]⟩]
  | romanian =>
    [oneWhole,
     ⟨.few, [[somePlaces], [numberIs 0],
       [{ operand := .number, negated := true, ranges := [(1, 1)] }, numberMod 100 1 19]]⟩]
  | polish => [oneWhole, slavicFew, wholeMany]
  | russian | ukrainian =>
    [⟨.one, [[noPlaces, wholeMod 10 1 1, wholeModNot 100 11 11]]⟩, slavicFew, wholeMany]
  | arabic =>
    [⟨.zero, [[numberIs 0]]⟩, ⟨.one, [[numberIs 1]]⟩, ⟨.two, [[numberIs 2]]⟩,
     ⟨.few, [[numberMod 100 3 10]]⟩, ⟨.many, [[numberMod 100 11 99]]⟩]

/-- Prepares the rules of a language.  The table has rules for all of them. -/
def rules? (language : Language) : Option (List Rule) :=
  some language.rules

end Language

end MessageTemplate.Plural
