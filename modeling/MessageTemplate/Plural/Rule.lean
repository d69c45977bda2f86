import MessageTemplate.Plural.Operands

/-!
# Plural rules

A language has an ordered list of rules.  A rule gives a category to the numbers
that meet its condition; the first rule that applies decides, and a number that
no rule applies to is in the category `other`.

A condition is a list of alternatives, an alternative is a list of relations
that all hold, and a relation says that an operand, possibly a remainder of it,
lies in certain ranges or outside of them.
-/

namespace MessageTemplate.Plural

/-- A plural category. -/
inductive Category where
  | zero
  | one
  | two
  | few
  | many
  | other
  deriving DecidableEq, Repr, Inhabited

/-- The name of a category, which is also the rule key of its numbers. -/
def Category.word : Category → String
  | zero => "zero"
  | one => "one"
  | two => "two"
  | few => "few"
  | many => "many"
  | other => "other"

/-- The operands that relations ask for.  `number` is the number itself. -/
inductive Operand where
  | number
  | whole
  | places
  | power
  deriving DecidableEq, Repr

/-- The value of an operand.  A number with a fraction has no value that a
relation could compare. -/
def Operand.value? (operands : Operands) : Operand → Option Nat
  | number => if operands.w = 0 then some operands.i else none
  | whole => some operands.i
  | places => some operands.v
  | power => some operands.e

/-- A relation between an operand and some ranges of whole numbers. -/
structure Relation where
  operand : Operand
  /-- The operand is reduced modulo this number; zero leaves it as it is. -/
  modulus : Nat := 0
  /-- Whether the ranges are excluded. -/
  negated : Bool := false
  /-- The first and the last number of each range. -/
  ranges : List (Nat × Nat)

/-- Whether a relation holds.  Without a value it does not, negated or not. -/
def Relation.holds (operands : Operands) (relation : Relation) : Bool :=
  match relation.operand.value? operands with
  | none => false
  | some n =>
    let r := n % relation.modulus
    relation.ranges.any (fun range => range.1 ≤ r && r ≤ range.2) != relation.negated

/-- A category and the condition of its numbers. -/
structure Rule where
  category : Category
  alternatives : List (List Relation)

/-- Whether a number meets the condition of a rule. -/
def Rule.applies (operands : Operands) (rule : Rule) : Bool :=
  rule.alternatives.any fun relations => relations.all (·.holds operands)

/-- The category that a list of rules gives to a number. -/
def categoryBy (rules : List Rule) (operands : Operands) : Category :=
  match rules.find? (·.applies operands) with
  | some rule => rule.category
  | none => .other

end MessageTemplate.Plural
