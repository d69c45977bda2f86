import MessageTemplate.Text.Digits

/-!
# Plural operands

A plural rule looks at the digits of a number as they are written, so `1` and
`1.0` are different.  The operands hold what the rules ask for.
-/

namespace MessageTemplate.Plural

/-- The operands of a number without its sign. -/
structure Operands where
  /-- The integer part. -/
  i : Nat
  /-- The number of digits after the point. -/
  v : Nat := 0
  /-- The number of digits after the point without the zeros at the end. -/
  w : Nat := 0
  /-- The value of the digits after the point. -/
  f : Nat := 0
  /-- The value of the digits after the point without the zeros at the end. -/
  t : Nat := 0
  /-- The power of ten of a number in compact form. -/
  e : Nat := 0
  deriving DecidableEq, Repr

namespace Operands

/-- The operands of a whole number. -/
def ofNat (n : Nat) : Operands := { i := n }

/-- Splits a text at the first `mark`; the second part is missing when there is
no mark. -/
def splitAt (mark : Char) (s : List Char) : List Char × Option (List Char) :=
  match s.dropWhile (· != mark) with
  | [] => (s, none)
  | _ :: rest => (s.takeWhile (· != mark), some rest)

/-- Splits off the power of ten after an `e`. -/
def splitPower? (s : List Char) : Option (List Char × Nat) :=
  match splitAt 'e' s with
  | (base, none) => some (base, 0)
  | (base, some power) => (Text.unsigned64? power).map (base, ·)

/-- The digits of a fraction without the zeros at the end. -/
def dropZeros (s : List Char) : List Char :=
  (s.reverse.dropWhile (· == '0')).reverse

/-- Reads operands from a decimal text.  A minus sign in front is dropped.  The
power of ten stands at the end, after the digits of the fraction or after those
of a whole number.  Every part has to fit into 64 bits. -/
def ofText? (s : List Char) : Option Operands := do
  let s := if s.head? == some '-' then s.drop 1 else s
  match splitAt '.' s with
  | (whole, some rest) =>
    let (fraction, e) ← splitPower? rest
    let i ← Text.unsigned64? whole
    let f ← Text.unsigned64? fraction
    let significant := dropZeros fraction
    let t ← if significant.isEmpty then some f else Text.unsigned64? significant
    return { i, v := fraction.length, w := significant.length, f, t, e }
  | (whole, none) =>
    let (digits, e) ← splitPower? whole
    let i ← Text.unsigned64? digits
    return { i, e }

end Operands

end MessageTemplate.Plural
