import MessageTemplate.Proofs.Binary.Shortest
import MessageTemplate.Proofs.Binary.Spelling

/-!
# Decimal text is rounded once

Reading settles very large and very small decimals by the place of their first digit.
`ofDecimal_eq` says that this changes nothing: the number is always the one nearest to the
decimal.  So the digits of an integer are read as the number that the integer itself is rounded
to, and the text of a number is read as the number, which is `read?_text`.
-/

namespace MessageTemplate.Binary

open Format Text

variable {F : Format} {negative : Bool} {k n : Nat} {d : Digits} {c : Char} {s : List Char}

/-! ## Rounding a decimal -/

theorem decimalLength_of_pos (hn : 0 < n) : (Nat.toDigits 10 n).length = decimalLength n := by
  rw [decimalLength, if_neg (Nat.pos_iff_ne_zero.mp hn)]

/-- Powers of ten outgrow powers of eight. -/
theorem two_pow_le_ten_pow (e : Nat) : 2 ^ (3 * e) ≤ 10 ^ e := by
  rw [Nat.pow_mul]
  exact Nat.pow_le_pow_left (by decide) e

theorem Digits.ratio_pos (d : Digits) : 0 < d.ratio.2 := by
  unfold ratio
  split
  · exact Nat.one_pos
  · exact Nat.pow_pos (by decide)

/-- A decimal whose first digit stands at a place is at least a power of ten. -/
theorem Digits.ten_pow_le_ratio {digits place : Nat} {e : Int} (hdigits : 0 < digits)
    (hplace : (decimalLength digits : Int) + e = place + 1) :
    10 ^ place * (Digits.mk digits e).ratio.2 ≤ (Digits.mk digits e).ratio.1 := by
  have hlower := ten_pow_le_of_decimalLength hdigits
  have hpos := decimalLength_pos hdigits
  unfold ratio
  dsimp only
  split
  · have hsplit : place = decimalLength digits - 1 + e.toNat := by omega
    rw [Nat.mul_one, hsplit, Nat.pow_add]
    exact Nat.mul_le_mul_right _ hlower
  · have hsplit : decimalLength digits - 1 = place + (-e).toNat := by omega
    rwa [hsplit, Nat.pow_add] at hlower

/-- A decimal whose first digit stands behind the point is below a power of ten. -/
theorem Digits.ratio_lt {digits place : Nat} {e : Int}
    (hplace : (decimalLength digits : Int) + e = -place) :
    (Digits.mk digits e).ratio.1 * 10 ^ place < (Digits.mk digits e).ratio.2 := by
  have hupper := lt_ten_pow_decimalLength digits
  unfold ratio
  dsimp only
  split
  · have hzero : decimalLength digits = 0 ∧ place = 0 ∧ e.toNat = 0 := by omega
    rw [hzero.1] at hupper
    rw [hzero.2.1, hzero.2.2, Nat.pow_eq, Nat.pow_zero]
    omega
  · have hsplit : (-e).toNat = decimalLength digits + place := by omega
    rw [hsplit, Nat.pow_eq, Nat.pow_add]
    exact Nat.mul_lt_mul_of_pos_right hupper (Nat.pow_pos (by decide))

/-- The number of a decimal is the number nearest to its ratio. -/
theorem ofDecimal_eq (hF : F.scale ≤ F.width) (digits : Nat) (e : Int) :
    ofDecimal F negative digits e =
      ofRatio F negative (Digits.mk digits e).ratio.1 (Digits.mk digits e).ratio.2 := by
  rcases Nat.eq_zero_or_pos digits with rfl | hdigits
  · refine ofRatio_of_round_eq (round_congr Nat.one_pos (Digits.ratio_pos _) ?_)
    unfold Digits.ratio
    split <;> simp
  · have hpos := decimalLength_pos hdigits
    have hone := Nat.two_pow_pos F.scale
    unfold ofDecimal
    dsimp only
    rw [if_neg (Nat.pos_iff_ne_zero.mp hdigits), decimalLength_of_pos hdigits]
    split
    · next hlarge =>
      -- A magnitude of so many digits is beyond the width.
      obtain ⟨place, hplace⟩ :=
        Int.eq_ofNat_of_zero_le (a := (decimalLength digits : Int) + e - 1) (by omega)
      refine (ofRatio_eq_infinite ?_).symm
      have hplace' : (decimalLength digits : Int) + e = place + 1 := by omega
      have hle := Digits.ten_pow_le_ratio hdigits hplace'
      calc 2 ^ F.width ≤ 2 ^ (3 * place + F.scale) := Nat.pow_le_pow_right (by decide) (by omega)
        _ ≤ F.round _ _ := by
          refine two_pow_le_round (Digits.ratio_pos _) ?_
          rw [Nat.pow_add, Nat.mul_right_comm]
          refine Nat.mul_le_mul_right _ (Nat.le_trans ?_ hle)
          exact Nat.mul_le_mul_right _ (two_pow_le_ten_pow place)
    · split
      · next hsmall =>
        obtain ⟨place, hplace⟩ :=
          Int.eq_ofNat_of_zero_le (a := -((decimalLength digits : Int) + e)) (by omega)
        refine ofRatio_of_round_eq ?_
        have hplace' : (decimalLength digits : Int) + e = -place := by omega
        have hlt := Digits.ratio_lt hplace'
        have hscale : 2 ^ (F.scale + 1) ≤ 10 ^ place :=
          Nat.le_trans (Nat.pow_le_pow_right (by decide) (by omega)) (two_pow_le_ten_pow place)
        have hle := Nat.mul_le_mul_left (Digits.mk digits e).ratio.1 hscale
        rw [Nat.pow_succ] at hle
        rw [round_eq_zero, round_eq_zero]
        · rw [Nat.mul_left_comm, Nat.mul_comm 2]
          exact Nat.lt_of_le_of_lt hle hlt
        · omega
      · unfold Digits.ratio
        dsimp only
        split <;> rfl

/-! ## Reading digits -/

/-- Digits alone are a whole number. -/
theorem readMagnitude?_of_only (hs : s ≠ []) (honly : Only Char.isDigit s) :
    readMagnitude? F negative s = some (ofDecimal F negative (Nat.ofDigitChars 10 s 0) 0) := by
  have hspells : SpellsMagnitude F negative (s ++ []) _ := .whole hs honly .none
  rw [List.append_nil] at hspells
  exact readMagnitude?_eq_some.mpr hspells

/-- Digits on both sides of a point are read as one number, divided by a power of ten. -/
theorem readMagnitude?_point {t : List Char} (hs : s ≠ []) (honly : Only Char.isDigit s)
    (ht : Only Char.isDigit t) :
    readMagnitude? F negative (s ++ '.' :: t) =
      some (ofDecimal F negative (Nat.ofDigitChars 10 (s ++ t) 0) (-(t.length : Int))) := by
  have hne : s ++ t ≠ [] := List.append_ne_nil_of_left_ne_nil hs t
  have hspells : SpellsMagnitude F negative (s ++ '.' :: (t ++ [])) _ :=
    .point hne honly ht .none
  rw [List.append_nil, Int.zero_sub] at hspells
  exact readMagnitude?_eq_some.mpr hspells

/-- What begins with a digit has no sign. -/
theorem read?_of_only (hs : s ≠ []) (honly : Only Char.isDigit s) (t : List Char) :
    read? F (s ++ t) = readMagnitude? F false (s ++ t) := by
  cases s with
  | nil => contradiction
  | cons c s =>
    have hc := (only_cons.mp honly).1
    unfold read?
    split
    · next h =>
      rw [(List.cons.inj h).1] at hc
      contradiction
    · next h =>
      rw [(List.cons.inj h).1] at hc
      contradiction
    · rfl

theorem read?_toDigits (n : Nat) :
    read? F (Nat.toDigits 10 n) = readMagnitude? F false (Nat.toDigits 10 n) := by
  have hread := read?_of_only (F := F) Nat.toDigits_ne_nil (only_toDigits n) []
  rwa [List.append_nil] at hread

/-- The digits of a whole number are read as the number nearest to it. -/
theorem readMagnitude?_toDigits (hF : F.scale ≤ F.width) (n : Nat) :
    readMagnitude? F negative (Nat.toDigits 10 n) = some (ofRatio F negative n 1) := by
  have hratio : (Digits.mk n 0).ratio = (n, 1) := by
    simp [Digits.ratio]
  rw [readMagnitude?_of_only Nat.toDigits_ne_nil (only_toDigits n), Nat.ofDigitChars_ten_toDigits,
    ofDecimal_eq hF, hratio]

/-- The text of an integer is read as the number nearest to it. -/
theorem read?_repr (hF : F.scale ≤ F.width) (n : Int) :
    read? F n.repr.toList = some (ofInt F n) := by
  rw [Int.repr_eq_if, ofInt]
  split
  · next hpos =>
    have hnegative : decide (n < 0) = false := decide_eq_false (Int.not_lt.mpr hpos)
    have habs : n.natAbs = n.toNat := by omega
    rw [Nat.toList_repr, read?_toDigits, readMagnitude?_toDigits hF, hnegative, habs]
  · next hneg =>
    have hnegative : decide (n < 0) = true := decide_eq_true (Int.not_le.mp hneg)
    have habs : n.natAbs = (-n).toNat := by omega
    have hlist : ("-" ++ (-n).toNat.repr).toList = '-' :: Nat.toDigits 10 (-n).toNat := by
      rw [String.toList_append, Nat.toList_repr]
      rfl
    rw [hlist, hnegative, habs]
    exact readMagnitude?_toDigits hF _

/-! ## Reading a text back -/

theorem ofDigitChars_replicate_zero (e : Nat) (s : List Char) :
    Nat.ofDigitChars 10 (List.replicate e '0' ++ s) 0 = Nat.ofDigitChars 10 s 0 := by
  induction e with
  | zero => rfl
  | succ e ih => exact ih

/-- The text of a decimal without a fraction is that of a whole number, and every other one has
a point with as many digits behind it as the exponent says. -/
theorem Digits.positional_cases {d : Digits} (hd : 0 < d.digits) :
    (∃ n, d.positional = Nat.toDigits 10 n ∧ d.ratio = (n, 1)) ∨
      ∃ s t, d.positional = s ++ '.' :: t ∧ s ≠ [] ∧ Only Char.isDigit s ∧ Only Char.isDigit t ∧
        Nat.ofDigitChars 10 (s ++ t) 0 = d.digits ∧ -(t.length : Int) = d.exponent := by
  unfold positional ratio
  dsimp only
  rcases Int.lt_or_le d.exponent 0 with hneg | hpos
  · right
    rw [if_neg (Int.not_le.mpr hneg)]
    split
    · next hplaces =>
      generalize hsplit : (Nat.toDigits 10 d.digits).length - (-d.exponent).toNat = whole
      have honly := only_toDigits d.digits
      rw [← List.take_append_drop whole (Nat.toDigits 10 d.digits), only_append] at honly
      refine ⟨_, _, rfl, ?_, honly.1, honly.2, ?_, ?_⟩
      · intro h
        have hlength := congrArg List.length h
        rw [List.length_take, List.length_nil] at hlength
        omega
      · rw [List.take_append_drop, Nat.ofDigitChars_ten_toDigits]
      · rw [List.length_drop]
        omega
    · next hplaces =>
      refine ⟨['0'], List.replicate ((-d.exponent).toNat - (Nat.toDigits 10 d.digits).length) '0' ++
        Nat.toDigits 10 d.digits, rfl, List.cons_ne_nil _ _, by decide, ?_, ?_, ?_⟩
      · refine only_append.mpr ⟨fun c hc => ?_, only_toDigits d.digits⟩
        rw [List.eq_of_mem_replicate hc]
        rfl
      · exact (ofDigitChars_replicate_zero _ _).trans Nat.ofDigitChars_ten_toDigits
      · rw [List.length_append, List.length_replicate]
        omega
  · left
    rw [if_pos hpos, if_pos hpos]
    exact ⟨_, toDigits_append_zeros hd _, rfl⟩

/-- The text of a decimal is read as the number nearest to it. -/
theorem readMagnitude?_positional (hF : F.scale ≤ F.width) (hd : 0 < d.digits) :
    readMagnitude? F negative d.positional =
      some (ofRatio F negative d.ratio.1 d.ratio.2) := by
  rcases Digits.positional_cases hd with ⟨n, htext, hratio⟩ | ⟨s, t, htext, hs, hwhole, hplaces,
    hvalue, hexponent⟩
  · rw [htext, hratio, readMagnitude?_toDigits hF]
  · rw [htext, readMagnitude?_point hs hwhole hplaces, hvalue, hexponent, ofDecimal_eq hF]

/-- The text of a decimal has no sign. -/
theorem read?_positional (hd : 0 < d.digits) :
    read? F d.positional = readMagnitude? F false d.positional := by
  rcases Digits.positional_cases hd with ⟨n, htext, -⟩ | ⟨s, t, htext, hs, hwhole, -⟩
  · rw [htext, read?_toDigits]
  · rw [htext, read?_of_only hs hwhole]

/-- The shortest text of a magnitude is that of a decimal which is rounded to the magnitude. -/
theorem exists_magnitudeText (hF : 2 ^ F.precision < 10 ^ 16) (hk : 0 < k)
    (hdvd : F.grain k ∣ k) :
    ∃ d : Digits, 0 < d.digits ∧ magnitudeText F k = d.positional ∧
      F.round d.ratio.1 d.ratio.2 = k := by
  have hround : F.round _ _ = k := beq_iff_eq.mp (readsBack_shortestDigits hF hk hdvd)
  refine ⟨shortestDigits F k, Nat.pos_of_ne_zero fun hzero => ?_, ?_, hround⟩
  · have hratio : (shortestDigits F k).ratio.1 = 0 := by
      unfold Digits.ratio
      split <;> simp [hzero]
    have hden := Digits.ratio_pos (shortestDigits F k)
    rw [hratio, round_eq_zero (by omega)] at hround
    omega
  · rw [magnitudeText, if_neg (Nat.pos_iff_ne_zero.mp hk)]

/-- The text of every number is read as that number. -/
theorem read?_text (hF : 2 ^ F.precision < 10 ^ 16) (hscale : F.scale ≤ F.width) (x : Binary F) :
    read? F x.text.toList = some x := by
  cases x with
  | nan => simp [text, read?, readMagnitude?]
  | infinite negative => cases negative <;> simp [text, read?, readMagnitude?]
  | finite negative k holds =>
    have hlist : (finite negative k holds).text.toList =
        if negative then '-' :: magnitudeText F k else magnitudeText F k := String.toList_ofList
    have hread : readMagnitude? F negative (magnitudeText F k) = some (finite negative k holds) ∧
        read? F (magnitudeText F k) = readMagnitude? F false (magnitudeText F k) := by
      rcases Nat.eq_zero_or_pos k with rfl | hk
      · have hzero : F.round 0 1 = 0 := round_eq_zero (by omega)
        have htext : magnitudeText F 0 = Nat.toDigits 10 0 := Nat.toDigits_zero 10
        rw [htext, readMagnitude?_toDigits hscale, ofRatio_of_holds hzero holds]
        exact ⟨rfl, read?_toDigits 0⟩
      · obtain ⟨d, hd, htext, hround⟩ := exists_magnitudeText hF hk holds.2
        rw [htext, readMagnitude?_positional hscale hd, ofRatio_of_holds hround holds]
        exact ⟨rfl, read?_positional hd⟩
    rw [hlist]
    cases negative with
    | true => exact hread.1
    | false => exact hread.2.trans hread.1

theorem not_isBlank_positional (hd : 0 < d.digits) : Only (!isBlank ·) d.positional := by
  rcases Digits.positional_cases hd with ⟨n, htext, -⟩ | ⟨s, t, htext, -, hwhole, hplaces, -⟩
  · rw [htext]
    exact (only_toDigits n).not_isBlank
  · rw [htext]
    exact only_append.mpr ⟨hwhole.not_isBlank, only_cons.mpr ⟨rfl, hplaces.not_isBlank⟩⟩

/-- No white space stands in the text of a number. -/
theorem not_isBlank_text (hF : 2 ^ F.precision < 10 ^ 16) (x : Binary F) :
    Only (!isBlank ·) x.text.toList := by
  cases x with
  | nan => exact (by decide : Only (!isBlank ·) "NaN".toList)
  | infinite negative =>
    cases negative with
    | false => exact (by decide : Only (!isBlank ·) "inf".toList)
    | true => exact (by decide : Only (!isBlank ·) "-inf".toList)
  | finite negative k holds =>
    have honly : Only (!isBlank ·) (magnitudeText F k) := by
      rcases Nat.eq_zero_or_pos k with rfl | hk
      · exact (by decide : Only (!isBlank ·) ['0'])
      · obtain ⟨d, hd, htext, -⟩ := exists_magnitudeText hF hk holds.2
        rw [htext]
        exact not_isBlank_positional hd
    rw [text, String.toList_ofList]
    split
    · exact only_cons.mpr ⟨rfl, honly⟩
    · exact honly

end MessageTemplate.Binary
