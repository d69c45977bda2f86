import MessageTemplate.Binary.Shortest
import MessageTemplate.Plural.Cache

/-!
# Plural resolvers

A choice token asks a resolver for the rule key of a number in a language and
selects the style with that key.  The number is passed unrounded.
-/

namespace MessageTemplate.Plural

/-- Gives the rule key of a number in a language. -/
abbrev Resolver := String → Binary64 → String

/-- The plain resolver: exactly one is singular and all else is plural, in every
language.  Infinities and what is not a number are plural too. -/
def singularPlural : Resolver := fun _ x =>
  if x = .ofInt binary64 1 then "singular" else "plural"

/-- Whole numbers below this one are exact in double precision. -/
def maxExactInteger : Nat := Nat.pow 2 53

/-- The operands of a number: those of its magnitude when it is a whole number
below `2 ^ 53`, and otherwise those of its text, which shows the digits of a
fraction.  Numbers that are not finite have none. -/
def operands? (x : Binary64) : Option Operands :=
  if x.isFinite then
    match x.whole?.filter (· < maxExactInteger) with
    | some n => some (.ofNat n)
    | none => Operands.ofText? x.abs.text.toList
  else none

/-- The resolver by plural categories.  `build` prepares the rules of a language.  A
number without operands is in the category `other`. -/
def byCategoryWith (build : Language → Option (List Rule)) : Resolver := fun tag x =>
  match operands? x with
  | some operands => (categoryWith build tag operands).word
  | none => Category.other.word

/-- The resolver by the plural categories of the table. -/
def byCategory : Resolver :=
  byCategoryWith Language.rules?

end MessageTemplate.Plural
