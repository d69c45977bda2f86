import MessageTemplate.Binary.Basic

/-!
# Reading a number from decimal text

A number is an optional sign and then one of the words `inf`, `infinity` and
`nan` in any ASCII case, or decimal digits with an optional point and an
optional exponent.  There is at least one digit before or after the point.  The
value is rounded once.
-/

namespace MessageTemplate.Binary

/-! ## The value of a decimal -/

/-- The number nearest to `significand · 10 ^ exponent`.  Magnitudes that are
infinite or zero at any precision in their last place are settled by the place
of their first digit, before a power of ten is computed. -/
def ofDecimal (F : Format) (negative : Bool) (significand : Nat) (exponent : Int) : Binary F :=
  let place : Int := (Nat.toDigits 10 significand).length + exponent
  if significand = 0 then ofRatio F negative 0 1
  else if F.width < F.scale + 3 * (place - 1) then .infinite negative
  else if F.scale + 1 < -3 * place then ofRatio F negative 0 1
  else if 0 ≤ exponent then ofRatio F negative (significand * Nat.pow 10 exponent.toNat) 1
  else ofRatio F negative significand (Nat.pow 10 (-exponent).toNat)

/-! ## The grammar -/

/-- An exponent stops growing here; every text that could show the difference
has tens of thousands of digits. -/
def exponentCeiling : Nat := 0x10000

/-- The value of the digits of an exponent. -/
def exponentValue (digits : List Char) : Nat :=
  digits.foldl
    (fun e c => if e < exponentCeiling then 10 * e + (c.toNat - '0'.toNat) else e) 0

/-- Reads what may follow the digits: nothing, or `e` with an optional sign and
at least one digit. -/
def readExponent? : List Char → Option Int
  | [] => some 0
  | c :: s =>
    if c == 'e' || c == 'E' then
      let negative := s.head? == some '-'
      let digits := if negative || s.head? == some '+' then s.drop 1 else s
      if digits.isEmpty || !digits.all Char.isDigit then none
      else some (if negative then -(exponentValue digits : Int) else exponentValue digits)
    else none

/-- Reads a number without a sign. -/
def readMagnitude? (F : Format) (negative : Bool) (s : List Char) : Option (Binary F) :=
  let word := s.map Char.toLower
  if word = ['i', 'n', 'f'] || word = ['i', 'n', 'f', 'i', 'n', 'i', 't', 'y'] then
    some (.infinite negative)
  else if word = ['n', 'a', 'n'] then some .nan
  else
    let wholeDigits := s.takeWhile Char.isDigit
    let rest := s.dropWhile Char.isDigit
    let tail := if rest.head? == some '.' then rest.drop 1 else []
    let fraction := tail.takeWhile Char.isDigit
    let rest := if rest.head? == some '.' then tail.dropWhile Char.isDigit else rest
    if wholeDigits.isEmpty && fraction.isEmpty then none
    else
      (readExponent? rest).map fun exponent =>
        ofDecimal F negative (Nat.ofDigitChars 10 (wholeDigits ++ fraction) 0)
          (exponent - fraction.length)

/-- Reads a number; nothing may stand before or after it. -/
def read? (F : Format) : List Char → Option (Binary F)
  | '-' :: s => readMagnitude? F true s
  | '+' :: s => readMagnitude? F false s
  | s => readMagnitude? F false s

end MessageTemplate.Binary
