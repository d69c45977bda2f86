import MessageTemplate.Proofs.Text.Run
import MessageTemplate.Text.Digits

/-!
# Digits behind a sign

Several readers take digits with an optional sign in front, and look for the sign by the first
character.  `SignedDigits` says which texts these are, and what the sign and the digits are.
A whole number of 64 bits is read from such a text exactly when its value fits.
-/

namespace MessageTemplate.Text

variable {s digits : List Char} {negative : Bool}

/-- The text is one or more digits behind an optional sign.  The flag tells a minus sign. -/
inductive SignedDigits : List Char → Bool → List Char → Prop where
  | unsigned {digits : List Char} (hne : digits ≠ []) (hdigits : Only Char.isDigit digits) :
      SignedDigits digits false digits
  | plus {digits : List Char} (hne : digits ≠ []) (hdigits : Only Char.isDigit digits) :
      SignedDigits ('+' :: digits) false digits
  | minus {digits : List Char} (hne : digits ≠ []) (hdigits : Only Char.isDigit digits) :
      SignedDigits ('-' :: digits) true digits

/-- What stands behind a sign. -/
def unsignedPart (s : List Char) : List Char :=
  if s.head? == some '-' || s.head? == some '+' then s.drop 1 else s

theorem SignedDigits.parts (h : SignedDigits s negative digits) :
    negative = (s.head? == some '-') ∧ digits = unsignedPart s ∧ digits ≠ [] ∧
      Only Char.isDigit digits := by
  cases h with
  | unsigned hne hdigits =>
    have hminus := hdigits.head?_append hne (c := '-') rfl []
    have hplus := hdigits.head?_append hne (c := '+') rfl []
    rw [List.append_nil] at hminus hplus
    exact ⟨hminus.symm, by rw [unsignedPart, hminus, hplus]; rfl, hne, hdigits⟩
  | plus hne hdigits => exact ⟨rfl, rfl, hne, hdigits⟩
  | minus hne hdigits => exact ⟨rfl, rfl, hne, hdigits⟩

/-- The first character decides about the sign. -/
theorem signedDigits_of_parts (hne : unsignedPart s ≠ [])
    (hdigits : Only Char.isDigit (unsignedPart s)) :
    SignedDigits s (s.head? == some '-') (unsignedPart s) := by
  cases s with
  | nil => exact absurd rfl hne
  | cons c s =>
    by_cases hminus : c = '-'
    · subst hminus
      exact .minus hne hdigits
    · by_cases hplus : c = '+'
      · subst hplus
        exact .plus hne hdigits
      · have hpart : unsignedPart (c :: s) = c :: s := by simp [unsignedPart, hminus, hplus]
        have hsign : ((c :: s).head? == some '-') = false := by simpa using hminus
        rw [hpart] at hne hdigits ⊢
        rw [hsign]
        exact .unsigned hne hdigits

/-! ## Whole numbers -/

/-- The text spells a whole number: digits behind an optional sign. -/
def SpellsInteger (s : List Char) (n : Int) : Prop :=
  ∃ negative digits, SignedDigits s negative digits ∧
    n = if negative then -(Nat.ofDigitChars 10 digits 0 : Int) else Nat.ofDigitChars 10 digits 0

/-- The test of the readers for digits. -/
theorem isDigits_iff :
    (s.isEmpty || !s.all Char.isDigit) = false ↔ s ≠ [] ∧ Only Char.isDigit s := by
  simp [Only]

theorem digits?_eq_some {n : Nat} :
    digits? s = some n ↔ s ≠ [] ∧ Only Char.isDigit s ∧ n = Nat.ofDigitChars 10 s 0 := by
  rw [digits?, ← and_assoc, ← isDigits_iff]
  cases s.isEmpty || !s.all Char.isDigit with
  | true => simp
  | false => simp [eq_comm]

/-- A whole number is kept when it fits into 64 bits with its sign. -/
theorem ofInt_eq_some {value : Int} {n : Int64} :
    (if Int64.minValue.toInt ≤ value && value ≤ Int64.maxValue.toInt then
      some (Int64.ofInt value) else none) = some n ↔ value = n.toInt := by
  simp only [Bool.and_eq_true, decide_eq_true_eq]
  constructor
  · intro h
    split at h
    · next hfits =>
      have hmin : Int64.minValue.toInt = -2 ^ 63 := rfl
      have hmax : Int64.maxValue.toInt = 2 ^ 63 - 1 := rfl
      rw [← Option.some.inj h, Int64.toInt_ofInt_of_le (by omega) (by omega)]
    · contradiction
  · rintro rfl
    rw [if_pos ⟨n.minValue_le_toInt, n.toInt_le⟩, Int64.ofInt_toInt]

/-- A text is read as a number of 64 bits exactly when it spells this number. -/
theorem signed64?_eq_some {n : Int64} : signed64? s = some n ↔ SpellsInteger s n.toInt := by
  have hread : signed64? s = (digits? (unsignedPart s)).bind fun m =>
      let value : Int := if s.head? == some '-' then -m else m
      if Int64.minValue.toInt ≤ value && value ≤ Int64.maxValue.toInt then
        some (.ofInt value) else none := rfl
  rw [hread, Option.bind_eq_some_iff]
  constructor
  · rintro ⟨m, hm, hn⟩
    obtain ⟨hne, hdigits, rfl⟩ := digits?_eq_some.mp hm
    exact ⟨_, _, signedDigits_of_parts hne hdigits, (ofInt_eq_some.mp hn).symm⟩
  · rintro ⟨negative, digits, hparts, hn⟩
    obtain ⟨rfl, rfl, hne, hdigits⟩ := hparts.parts
    exact ⟨_, digits?_eq_some.mpr ⟨hne, hdigits, rfl⟩, ofInt_eq_some.mpr hn.symm⟩

theorem signed64?_eq_none : signed64? s = none ↔ ∀ n : Int64, ¬SpellsInteger s n.toInt := by
  simp only [Option.eq_none_iff_forall_ne_some, ne_eq, signed64?_eq_some]

/-- The decimal text of a whole number spells the number. -/
theorem spellsInteger_repr (n : Int) : SpellsInteger n.repr.toList n := by
  rw [Int.repr_eq_if]
  split
  · next hn =>
    refine ⟨false, Nat.toDigits 10 n.toNat, ?_, ?_⟩
    · rw [Nat.toList_repr]
      exact .unsigned Nat.toDigits_ne_nil (only_toDigits _)
    · rw [Nat.ofDigitChars_ten_toDigits, if_neg Bool.false_ne_true, Int.toNat_of_nonneg hn]
  · next hn =>
    refine ⟨true, Nat.toDigits 10 (-n).toNat, ?_, ?_⟩
    · rw [String.toList_append, Nat.toList_repr]
      exact .minus Nat.toDigits_ne_nil (only_toDigits _)
    · rw [Nat.ofDigitChars_ten_toDigits, if_pos rfl]
      omega

end MessageTemplate.Text
