import MessageTemplate.Binary.Basic

/-!
# The shortest decimal text of a number

A number is written with the fewest significant digits that read back as the
same number.  For one digit, two digits and so on, the two points of that
decimal grid around the number are tried; the first grid with a point that
rounds to the number wins.  When both points do, the nearer one is taken, and
the upper one when they are equally near.

The text is positional: it never has an exponent, a whole number has no point,
and a fraction has at least one digit before its point.
-/

namespace MessageTemplate.Binary

/-! ## Digits -/

/-- A decimal magnitude `digits · 10 ^ exponent`. -/
structure Digits where
  digits : Nat
  exponent : Int
  deriving DecidableEq, Repr

/-- The magnitude as a numerator and a denominator. -/
def Digits.ratio (d : Digits) : Nat × Nat :=
  if 0 ≤ d.exponent then (d.digits * Nat.pow 10 d.exponent.toNat, 1)
  else (d.digits, Nat.pow 10 (-d.exponent).toNat)

/-- The number of decimal digits of `n`, none for zero. -/
def decimalLength (n : Nat) : Nat :=
  if n = 0 then 0 else (Nat.toDigits 10 n).length

/-- The place of the first digit: the `e` with
`10 ^ (e - 1) ≤ num / den < 10 ^ e`. -/
def leadingPlace (num den : Nat) : Int :=
  if den ≤ num then decimalLength (num / den) else 1 - decimalLength ((den - 1) / num)

/-- A magnitude of `k` units reads back from `d`. -/
def readsBack (F : Format) (k : Nat) (d : Digits) : Bool :=
  F.round d.ratio.1 d.ratio.2 == k

/-- The point of the grid with `count` digits that is nearest to `k` units among
the two neighbours that read back as `k`. -/
def onGrid? (F : Format) (k count : Nat) : Option Digits :=
  let unit := Nat.pow 2 F.scale
  let place := leadingPlace k unit
  let step := place - count
  let num := if 0 ≤ step then k else k * Nat.pow 10 (-step).toNat
  let den := if 0 ≤ step then unit * Nat.pow 10 step.toNat else unit
  let below : Digits := ⟨num / den, step⟩
  let above : Digits :=
    if num / den + 1 = Nat.pow 10 count then ⟨1, place⟩ else ⟨num / den + 1, step⟩
  let nearer := 2 * (num % den) < den
  if readsBack F k below && (nearer || !readsBack F k above) then some below
  else if readsBack F k above then some above
  else none

/-- The most digits that a grid search tries.  Seventeen always suffice for
double precision. -/
def maxDigits : Nat := 17

/-- The fewest digits that read back as a positive number of `k` units. -/
def shortestDigits (F : Format) (k : Nat) : Digits :=
  match (List.range maxDigits).findSome? fun count => onGrid? F k (count + 1) with
  | some d => d
  | none => ⟨k, 0⟩

/-! ## Text -/

/-- Writes a decimal magnitude without an exponent. -/
def Digits.positional (d : Digits) : List Char :=
  let text := Nat.toDigits 10 d.digits
  if 0 ≤ d.exponent then text ++ List.replicate d.exponent.toNat '0'
  else
    let places := (-d.exponent).toNat
    if places < text.length then
      text.take (text.length - places) ++ '.' :: text.drop (text.length - places)
    else
      '0' :: '.' :: List.replicate (places - text.length) '0' ++ text

/-- The text of a magnitude of `k` units. -/
def magnitudeText (F : Format) (k : Nat) : List Char :=
  if k = 0 then ['0'] else (shortestDigits F k).positional

/-- The text of a number: `NaN` without a sign, `inf`, or the shortest digits. -/
def text {F : Format} : Binary F → String
  | nan => "NaN"
  | infinite negative => if negative then "-inf" else "inf"
  | finite negative k _ =>
    String.ofList (if negative then '-' :: magnitudeText F k else magnitudeText F k)

end MessageTemplate.Binary
