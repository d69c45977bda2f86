/-!
# Whole numbers in decimal text

A whole number is written with decimal digits after an optional sign and is
read only when it fits into 64 bits.
-/

namespace MessageTemplate.Text

/-- The value of a text that is one or more decimal digits. -/
def digits? (s : List Char) : Option Nat :=
  if s.isEmpty || !s.all Char.isDigit then none else some (Nat.ofDigitChars 10 s 0)

/-- Reads digits, with an optional plus sign, of a number below `2 ^ 64`. -/
def unsigned64? (s : List Char) : Option Nat :=
  let digits := if s.head? == some '+' then s.drop 1 else s
  (digits? digits).filter (· < UInt64.size)

/-- Reads digits, with an optional sign, of a number from `-2 ^ 63` to
`2 ^ 63 - 1`. -/
def signed64? (s : List Char) : Option Int64 :=
  let negative := s.head? == some '-'
  let digits := if negative || s.head? == some '+' then s.drop 1 else s
  (digits? digits).bind fun n =>
    let value : Int := if negative then -n else n
    if Int64.minValue.toInt ≤ value && value ≤ Int64.maxValue.toInt then some (.ofInt value) else none

/-- The digits of a number are read as that number. -/
theorem digits?_toDigits (n : Nat) : digits? (Nat.toDigits 10 n) = some n := by
  have hall : (Nat.toDigits 10 n).all Char.isDigit = true := by
    rw [List.all_eq_true]
    exact fun c hc => Nat.isDigit_of_mem_toDigits (by decide) (by decide) hc
  have hne : (Nat.toDigits 10 n).isEmpty = false := by
    cases h : Nat.toDigits 10 n with
    | nil =>
      have := Nat.length_toDigits_pos (b := 10) (n := n)
      simp [h] at this
    | cons c s => rfl
  simp [digits?, hall, hne, Nat.ofDigitChars_toDigits]

end MessageTemplate.Text
