import MessageTemplate.Json

/-!
# Numbers in JSON text

A number is read in one pass.  Its digits go into a significand of 64 bits; the
digits that no longer fit are dropped, and those before the point are counted.
A number without a point, an exponent or dropped digits is a whole number.  Any
other number is the significand in double precision, multiplied or divided once
by a power of ten.  Magnitudes too large for double precision are refused.
-/

namespace MessageTemplate.Json

/-! ## Powers of ten -/

/-- The largest power of ten that double precision holds. -/
def maxPower : Nat := 308

/-- A power of ten in double precision. -/
def powerOfTen (n : Nat) : Binary64 := .ofInt binary64 (Nat.pow 10 n)

/-- Divides by a power of ten, in steps when it is too large for one. -/
def divideByPower (x : Binary64) (n : Nat) : Binary64 :=
  if n ≤ maxPower then x.div (powerOfTen n)
  else if x.whole? = some 0 then x
  else divideByPower (x.div (powerOfTen maxPower)) (n - maxPower)
termination_by n
decreasing_by
  simp only [maxPower] at *
  omega

/-- The magnitude `significand · 10 ^ exponent`, unless it is too large. -/
def scale? (significand : Nat) (exponent : Int) : Option Binary64 :=
  let x := Binary.ofInt binary64 significand
  if exponent < 0 then some (divideByPower x (-exponent).toNat)
  else if exponent ≤ maxPower then (some (x.mul (powerOfTen exponent.toNat))).filter (·.isFinite)
  else if significand = 0 then some x
  else none

/-! ## Digits -/

/-- The significand of digits read so far, and how many digits did not fit. -/
structure Significand where
  value : Nat := 0
  dropped : Nat := 0

/-- Takes one more digit.  Once a digit does not fit, all later ones are dropped
too. -/
def Significand.push (s : Significand) (c : Char) : Significand :=
  let next := 10 * s.value + (c.toNat - '0'.toNat)
  if s.dropped = 0 && next < UInt64.size then { s with value := next }
  else { s with dropped := s.dropped + 1 }

/-- The significand of a run of digits that goes on from `value`. -/
def Significand.ofDigits (value : Nat) (digits : List Char) : Significand :=
  digits.foldl push { value }

/-- The digits of a number without its sign, and what follows them. -/
structure Magnitude where
  significand : Nat
  exponent : Int
  /-- The number is written as a whole number that fits into 64 bits. -/
  isWhole : Bool

/-- Drops a sign in front. -/
def dropSign (s : List Char) : List Char :=
  if s.head? == some '-' || s.head? == some '+' then s.drop 1 else s

/-- Reads the exponent after its letter. -/
def exponent? (s : List Char) : Option (Int × List Char) :=
  let digits := (dropSign s).takeWhile Char.isDigit
  if digits.isEmpty then none
  else
    let n : Int := Nat.ofDigitChars 10 digits 0
    some (if s.head? == some '-' then -n else n, (dropSign s).dropWhile Char.isDigit)

/-- Reads an exponent if there is one and adds it to the places of the digits. -/
def withExponent? (significand : Nat) (places : Int) (isWhole : Bool) :
    List Char → Option (Magnitude × List Char)
  | c :: rest =>
    if c == 'e' || c == 'E' then
      (exponent? rest).map fun (exponent, rest) => (⟨significand, places + exponent, false⟩, rest)
    else some (⟨significand, places, isWhole⟩, c :: rest)
  | [] => some (⟨significand, places, isWhole⟩, [])

/-- Reads a number without its sign.  The digits before the point have no zero in
front, and a point is followed by a digit. -/
def magnitude? (s : List Char) : Option (Magnitude × List Char) :=
  let digits := s.takeWhile Char.isDigit
  let rest := s.dropWhile Char.isDigit
  if digits.isEmpty || (digits.head? == some '0' && digits.length != 1) then none
  else
    let whole := Significand.ofDigits 0 digits
    if rest.head? == some '.' then
      let fraction := (rest.drop 1).takeWhile Char.isDigit
      if fraction.isEmpty then none
      else
        let all := Significand.ofDigits whole.value fraction
        let places : Int := whole.dropped - (fraction.length - all.dropped : Nat)
        withExponent? all.value places false ((rest.drop 1).dropWhile Char.isDigit)
    else withExponent? whole.value whole.dropped (whole.dropped == 0) rest

/-- The value of a number.  A negative whole number that does not fit into 64
bits, and minus zero, are not kept as whole numbers. -/
def Magnitude.toJson? (m : Magnitude) (negative : Bool) : Option Json :=
  let signed (x : Binary64) : Json := .float (if negative then x.neg else x)
  if m.isWhole then
    if negative then
      if m.significand = 0 || Nat.pow 2 63 < m.significand then
        some (signed (.ofInt binary64 m.significand))
      else some (.integer (-m.significand))
    else some (.integer m.significand)
  else (scale? m.significand m.exponent).map signed

/-- Reads a number. -/
def number? (s : List Char) : Option (Json × List Char) := do
  let negative := s.head? == some '-'
  let (m, rest) ← magnitude? (if negative then s.drop 1 else s)
  let value ← m.toJson? negative
  return (value, rest)

end MessageTemplate.Json
