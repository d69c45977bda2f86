/-!
# Binary formats and rounding

A format of binary floating point numbers counts its finite magnitudes in
*units*: the unit is the smallest positive number of the format, and every
finite magnitude is a whole number of units.  A magnitude with more bits than
the precision allows has zeros in its last places, so it is a multiple of its
*grain*.  Counting in units makes a magnitude a natural number, gives each
magnitude one representation and needs no special case for subnormal numbers.

`Format.round` takes a ratio to the nearest magnitude, a half to the even
neighbour.  `Format.grain_dvd_round` says that its result is a magnitude of the
format.
-/

namespace MessageTemplate

/-! ## Rounding a quotient -/

/-- The whole number nearest to `num / den`; a half goes to the even one. -/
def divHalfEven (num den : Nat) : Nat :=
  let q := num / den
  let r := num % den
  if 2 * r < den then q
  else if den < 2 * r then q + 1
  else if q % 2 = 0 then q else q + 1

/-- The whole number nearest to `num / den`; a half goes up. -/
def divHalfUp (num den : Nat) : Nat :=
  (2 * num + den) / (2 * den)

theorem div_le_divHalfEven (num den : Nat) : num / den ≤ divHalfEven num den := by
  unfold divHalfEven
  dsimp only
  split
  · exact Nat.le_refl _
  · split
    · exact Nat.le_succ _
    · split <;> omega

theorem divHalfEven_le_succ (num den : Nat) : divHalfEven num den ≤ num / den + 1 := by
  unfold divHalfEven
  dsimp only
  split
  · exact Nat.le_succ _
  · split
    · exact Nat.le_refl _
    · split <;> omega

/-- A whole quotient is its own nearest number. -/
theorem divHalfEven_mul_right {den : Nat} (q : Nat) (h : 0 < den) :
    divHalfEven (q * den) den = q := by
  unfold divHalfEven
  simp [Nat.mul_div_cancel _ h, h]

/-! ## Formats -/

/-- A binary format. -/
structure Format where
  /-- The number of significant bits. -/
  precision : Nat
  /-- The unit is `2 ^ -scale`. -/
  scale : Nat
  /-- Numbers of `2 ^ width` units or more are infinite. -/
  width : Nat
  precision_pos : 0 < precision := by decide

/-- Double precision: 53 significant bits, from `2 ^ -1074` up to `2 ^ 1024`. -/
def binary64 : Format where
  precision := 53
  scale := 1074
  width := 2098

/-- Single precision: 24 significant bits, from `2 ^ -149` up to `2 ^ 128`. -/
def binary32 : Format where
  precision := 24
  scale := 149
  width := 277

namespace Format

variable (F : Format)

/-- The value of the last significant place of a number of `k` units or a
little more, in units. -/
def grain (k : Nat) : Nat :=
  Nat.pow 2 (k.log2 + 1 - F.precision)

/-- A number of units that the format can hold. -/
def Holds (k : Nat) : Prop :=
  k < Nat.pow 2 F.width ∧ F.grain k ∣ k

instance (k : Nat) : Decidable (F.Holds k) :=
  inferInstanceAs (Decidable (_ ∧ _))

/-- The number of units nearest to `num / den` that keeps the precision, without
regard to the width.  The grain of the quotient is taken before it is rounded. -/
def round (num den : Nat) : Nat :=
  let scaled := num * Nat.pow 2 F.scale
  let grain := F.grain (scaled / den)
  divHalfEven scaled (den * grain) * grain

/-- A number with no more bits than the precision is a whole number of grains. -/
theorem grain_dvd_mul {r s : Nat} (h : r ≤ Nat.pow 2 F.precision) :
    F.grain (r * Nat.pow 2 s) ∣ r * Nat.pow 2 s := by
  simp only [grain, Nat.pow_eq] at h ⊢
  rcases Nat.lt_or_eq_of_le h with hlt | heq
  · by_cases hr : r = 0
    · simp [hr]
    · have hne : r * 2 ^ s ≠ 0 := Nat.mul_ne_zero hr (Nat.pos_iff_ne_zero.mp (Nat.two_pow_pos s))
      have hlog : (r * 2 ^ s).log2 < F.precision + s := by
        rw [Nat.log2_lt hne, Nat.pow_add]
        exact Nat.mul_lt_mul_of_pos_right hlt (Nat.two_pow_pos s)
      exact Nat.dvd_trans (Nat.pow_dvd_pow 2 (by omega)) (Nat.dvd_mul_left _ _)
  · subst heq
    rw [← Nat.pow_add, Nat.log2_two_pow]
    have := F.precision_pos
    exact Nat.pow_dvd_pow 2 (by omega)

/-- A quotient holds at most `precision` bits once it is divided by its grain. -/
theorem divHalfEven_le_precision (num den : Nat) :
    divHalfEven num (den * F.grain (num / den)) ≤ Nat.pow 2 F.precision := by
  apply Nat.le_trans (divHalfEven_le_succ _ _)
  rw [Nat.succ_le_iff, ← Nat.div_div_eq_div_mul]
  generalize num / den = k
  simp only [grain, Nat.pow_eq]
  rw [Nat.div_lt_iff_lt_mul (Nat.two_pow_pos _), ← Nat.pow_add]
  exact Nat.lt_of_lt_of_le Nat.lt_log2_self (Nat.pow_le_pow_right (by decide) (by omega))

/-- The nearest number of units keeps the precision. -/
theorem grain_dvd_round (num den : Nat) : F.grain (F.round num den) ∣ F.round num den :=
  F.grain_dvd_mul (F.divHalfEven_le_precision _ _)

end Format

end MessageTemplate
