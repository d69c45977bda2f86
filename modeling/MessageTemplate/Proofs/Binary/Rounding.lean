import Mathlib.Algebra.Group.Nat.Defs
import MessageTemplate.Binary.Basic

/-!
# What a ratio is rounded to

Between two powers of two the magnitudes of a format are the multiples of one grain, so
rounding is the choice of the nearest multiple.  `round_eq_of_near` says when that choice is
known: the magnitude lies less than half a grain away.  `round_le_two_pow` and
`two_pow_le_round` say that rounding does not leave the range between two powers of two.

The last section is about whole numbers.  `roundWhole` is the choice on them without any units:
the nearest multiple of their grain, and the number itself when it has no more bits than the
precision.
-/

namespace MessageTemplate

/-! ## Quotients -/

/-- A whole number less than a half away from a quotient is the nearest one. -/
theorem divHalfEven_eq_of_near {num den q : Nat} (hbelow : 2 * (q * den) < 2 * num + den)
    (habove : 2 * num < 2 * (q * den) + den) : divHalfEven num den = q := by
  have hden : 0 < den := by omega
  have hdiv := Nat.div_add_mod num den
  have hmod := Nat.mod_lt num hden
  rw [Nat.mul_comm den] at hdiv
  unfold divHalfEven
  dsimp only
  -- The quotient is the number below or the one above, as the remainder says.
  rcases Nat.lt_trichotomy (num / den) q with hlt | heq | hgt
  · have hle : (num / den + 1) * den ≤ q * den := Nat.mul_le_mul_right den hlt
    rw [Nat.add_mul] at hle
    have hq : num / den + 1 = q := by
      refine Nat.le_antisymm hlt (Nat.le_of_not_lt fun hbeyond => ?_)
      have := Nat.mul_le_mul_right den hbeyond
      rw [Nat.succ_eq_add_one, Nat.add_mul, Nat.add_mul] at this
      omega
    rw [if_neg (by omega), if_pos (by omega), hq]
  · rw [heq] at hdiv
    rw [if_pos (by omega), heq]
  · have hle : (q + 1) * den ≤ num / den * den := Nat.mul_le_mul_right den hgt
    rw [Nat.add_mul] at hle
    omega

/-- A common factor does not matter. -/
theorem divHalfEven_mul_mul_right (num den : Nat) {c : Nat} (hc : 0 < c) :
    divHalfEven (num * c) (den * c) = divHalfEven num den := by
  have hmul (a b : Nat) : 2 * (a * c) < b * c ↔ 2 * a < b := by
    rw [← Nat.mul_assoc, Nat.mul_lt_mul_right hc]
  have hmul' (a b : Nat) : b * c < 2 * (a * c) ↔ b < 2 * a := by
    rw [← Nat.mul_assoc, Nat.mul_lt_mul_right hc]
  unfold divHalfEven
  simp only [Nat.mul_div_mul_right _ _ hc, Nat.mul_mod_mul_right, hmul, hmul']

namespace Format

variable {F : Format} {num den k m n j : Nat}

/-! ## Grains -/

theorem grain_pos : 0 < F.grain k :=
  Nat.two_pow_pos _

/-- A magnitude with no more bits than the precision may be any number of units. -/
theorem grain_eq_one (h : k < 2 ^ F.precision) : F.grain k = 1 := by
  have hp := F.precision_pos
  have hbits : k.log2 + 1 - F.precision = 0 := by
    by_cases hk : k = 0
    · rw [hk, Nat.log2_zero]
      omega
    · have := (Nat.log2_lt hk).mpr h
      omega
  rw [grain, hbits]

/-- A power of two is a whole number of grains of every magnitude below its double. -/
theorem grain_dvd_two_pow (h : k < 2 ^ (j + 1)) : F.grain k ∣ 2 ^ j := by
  have hp := F.precision_pos
  refine Nat.pow_dvd_pow 2 ?_
  by_cases hk : k = 0
  · rw [hk, Nat.log2_zero]
    omega
  · have := (Nat.log2_lt hk).mpr h
    omega

/-- Between two powers of two all magnitudes have one grain. -/
theorem grain_eq_of_log2 (hle : 2 ^ k.log2 ≤ m) (hlt : m < 2 ^ (k.log2 + 1)) :
    F.grain m = F.grain k := by
  have hm : m ≠ 0 := by
    have := Nat.two_pow_pos k.log2
    omega
  rw [grain, grain, (Nat.log2_eq_iff hm).mpr ⟨hle, hlt⟩]

/-- The number of grains of a magnitude is within the precision. -/
theorem lt_two_pow_mul_grain (F : Format) (k : Nat) : k < 2 ^ F.precision * F.grain k := by
  rw [grain, Nat.pow_eq, ← Nat.pow_add]
  exact Nat.lt_of_lt_of_le Nat.lt_log2_self (Nat.pow_le_pow_right (by decide) (by omega))

/-- Where a grain is more than a unit, the powers of two are full to the precision. -/
theorem two_pow_log2_eq (h : F.precision ≤ k.log2) :
    2 ^ (k.log2 + 1) = 2 ^ F.precision * F.grain k := by
  rw [grain, Nat.pow_eq, ← Nat.pow_add]
  congr 1
  omega

/-! ## Rounding a ratio -/

/-- A magnitude less than half a grain away from a ratio is the nearest one. -/
theorem round_eq_of_near (hdvd : F.grain (num * 2 ^ F.scale / den) ∣ k)
    (hbelow : 2 * (k * den) < 2 * (num * 2 ^ F.scale) + den * F.grain (num * 2 ^ F.scale / den))
    (habove : 2 * (num * 2 ^ F.scale) < 2 * (k * den) + den * F.grain (num * 2 ^ F.scale / den)) :
    F.round num den = k := by
  obtain ⟨q, hq⟩ := hdvd
  simp only [round, Nat.pow_eq]
  generalize F.grain (num * 2 ^ F.scale / den) = grain at *
  have hk : k * den = q * (den * grain) := by
    rw [hq]
    ac_rfl
  rw [hk] at hbelow habove
  rw [divHalfEven_eq_of_near hbelow habove, hq, Nat.mul_comm]

/-- A ratio that is a magnitude of the format is not changed. -/
theorem round_of_exact (hden : 0 < den) (h : num * 2 ^ F.scale = k * den)
    (hk : F.grain k ∣ k) : F.round num den = k := by
  have hhalf : 0 < den * F.grain k := Nat.mul_pos hden grain_pos
  have hquot : num * 2 ^ F.scale / den = k := by
    rw [h, Nat.mul_div_cancel _ hden]
  refine round_eq_of_near ?_ ?_ ?_ <;> rw [hquot]
  · exact hk
  · omega
  · omega

/-- A ratio below half a unit is rounded to zero. -/
theorem round_eq_zero (h : 2 * (num * 2 ^ F.scale) < den) : F.round num den = 0 := by
  have hgrain : den ≤ den * F.grain (num * 2 ^ F.scale / den) :=
    Nat.le_mul_of_pos_right den grain_pos
  exact round_eq_of_near (Nat.dvd_zero _) (by omega) (by omega)

/-- Equal ratios are rounded alike. -/
theorem round_congr {num' den' : Nat} (hden : 0 < den) (hden' : 0 < den')
    (h : num * den' = num' * den) : F.round num den = F.round num' den' := by
  have hfactor (a b : Nat) {c : Nat} (hc : 0 < c) : F.round (a * c) (b * c) = F.round a b := by
    simp only [round, Nat.mul_right_comm _ c, Nat.mul_div_mul_right _ _ hc,
      divHalfEven_mul_mul_right _ _ hc]
  rw [← hfactor num den hden', ← hfactor num' den' hden, h, Nat.mul_comm den]

/-- A ratio below a power of two is not rounded beyond it. -/
theorem round_le_two_pow (h : num * 2 ^ F.scale < 2 ^ j * den) : F.round num den ≤ 2 ^ j := by
  have hden : 0 < den := Nat.pos_of_lt_mul_left h
  have hquot : num * 2 ^ F.scale / den < 2 ^ j := (Nat.div_lt_iff_lt_mul hden).mpr h
  have hdouble : 2 ^ j ≤ 2 ^ (j + 1) := Nat.pow_le_pow_right (by decide) (Nat.le_succ j)
  obtain ⟨c, hc⟩ : F.grain (num * 2 ^ F.scale / den) ∣ 2 ^ j :=
    grain_dvd_two_pow (Nat.lt_of_lt_of_le hquot hdouble)
  simp only [round, Nat.pow_eq]
  have hle := divHalfEven_le_succ (num * 2 ^ F.scale) (den * F.grain (num * 2 ^ F.scale / den))
  rw [← Nat.div_div_eq_div_mul] at hle
  generalize num * 2 ^ F.scale / den = k at *
  have hlt : k / F.grain k < c := by
    rw [Nat.div_lt_iff_lt_mul grain_pos, Nat.mul_comm, ← hc]
    exact hquot
  calc divHalfEven (num * 2 ^ F.scale) (den * F.grain k) * F.grain k
      ≤ c * F.grain k := Nat.mul_le_mul_right _ (Nat.le_trans hle hlt)
    _ = 2 ^ j := by rw [hc, Nat.mul_comm]

/-- A ratio that reaches a power of two is not rounded below it. -/
theorem two_pow_le_round (hden : 0 < den) (h : 2 ^ j * den ≤ num * 2 ^ F.scale) :
    2 ^ j ≤ F.round num den := by
  have hquot : 2 ^ j ≤ num * 2 ^ F.scale / den := (Nat.le_div_iff_mul_le hden).mpr h
  simp only [round, Nat.pow_eq]
  have hle := div_le_divHalfEven (num * 2 ^ F.scale) (den * F.grain (num * 2 ^ F.scale / den))
  rw [← Nat.div_div_eq_div_mul] at hle
  generalize num * 2 ^ F.scale / den = k at *
  have hk : k ≠ 0 := by
    have := Nat.two_pow_pos j
    omega
  obtain ⟨c, hc⟩ : F.grain k ∣ 2 ^ k.log2 := grain_dvd_two_pow Nat.lt_log2_self
  have hc' : c ≤ k / F.grain k := by
    rw [Nat.le_div_iff_mul_le grain_pos, Nat.mul_comm, ← hc]
    exact Nat.log2_self_le hk
  calc 2 ^ j ≤ 2 ^ k.log2 := Nat.pow_le_pow_right (by decide) ((Nat.le_log2 hk).mpr hquot)
    _ = c * F.grain k := by rw [hc, Nat.mul_comm]
    _ ≤ divHalfEven (num * 2 ^ F.scale) (den * F.grain k) * F.grain k :=
      Nat.mul_le_mul_right _ (Nat.le_trans hc' hle)

/-! ## Rounding a whole number -/

/-- A number of grains is a whole number of units, and one of ones. -/
theorem grain_mul_two_pow (h : 2 ^ F.precision ≤ n) (s : Nat) :
    F.grain (n * 2 ^ s) = F.grain n * 2 ^ s := by
  have hn : n ≠ 0 := by
    have := Nat.two_pow_pos F.precision
    omega
  have hlog : F.precision ≤ n.log2 := (Nat.le_log2 hn).mpr h
  have hshift : (n * 2 ^ s).log2 = n.log2 + s := by
    rw [Nat.log2_eq_iff (Nat.mul_ne_zero hn (Nat.pos_iff_ne_zero.mp (Nat.two_pow_pos s)))]
    have hlt := Nat.mul_lt_mul_of_pos_right (Nat.lt_log2_self (n := n)) (Nat.two_pow_pos s)
    have hle := Nat.mul_le_mul_right (2 ^ s) (Nat.log2_self_le hn)
    rw [← Nat.pow_add] at hle hlt
    exact ⟨hle, by rwa [Nat.add_right_comm]⟩
  simp only [grain, Nat.pow_eq, hshift]
  rw [← Nat.pow_add]
  congr 1
  omega

/-- The multiple of its grain that is nearest to a whole number; a half goes to the even
multiple. -/
def roundWhole (F : Format) (n : Nat) : Nat :=
  divHalfEven n (F.grain n) * F.grain n

/-- A whole number is rounded to a whole number. -/
theorem round_one (n : Nat) : F.round n 1 = F.roundWhole n * 2 ^ F.scale := by
  rcases Nat.lt_or_ge n (2 ^ F.precision) with hlt | hge
  · have hexact : F.roundWhole n = n := by
      rw [roundWhole, grain_eq_one hlt]
      have := divHalfEven_mul_right n (by decide : 0 < 1)
      rwa [Nat.mul_one] at this ⊢
    rw [hexact]
    exact round_of_exact (by decide) (by rw [Nat.mul_one])
      (F.grain_dvd_mul (Nat.le_of_lt hlt))
  · simp only [round, Nat.pow_eq, Nat.div_one, Nat.one_mul, grain_mul_two_pow hge,
      divHalfEven_mul_mul_right _ _ (Nat.two_pow_pos F.scale), roundWhole, Nat.mul_assoc]

/-- A whole number is not changed when it is a number of few bits, shifted. -/
theorem roundWhole_mul_two_pow (hm : m ≤ 2 ^ F.precision) (e : Nat) :
    F.roundWhole (m * 2 ^ e) = m * 2 ^ e := by
  have hround : F.round (m * 2 ^ e) 1 = m * 2 ^ e * 2 ^ F.scale := by
    refine round_of_exact (by decide) (by rw [Nat.mul_one]) ?_
    rw [Nat.mul_assoc, ← Nat.pow_add]
    exact F.grain_dvd_mul hm
  rw [round_one] at hround
  exact Nat.eq_of_mul_eq_mul_right (Nat.two_pow_pos F.scale) hround

theorem roundWhole_zero : F.roundWhole 0 = 0 := by
  simpa using roundWhole_mul_two_pow (F := F) (Nat.zero_le _) 0

theorem roundWhole_two_pow (j : Nat) : F.roundWhole (2 ^ j) = 2 ^ j := by
  simpa using roundWhole_mul_two_pow (F := F) Nat.one_le_two_pow j

/-- The whole numbers that are not changed are those with no more significant bits than the
precision. -/
theorem roundWhole_eq_self_iff :
    F.roundWhole n = n ↔ ∃ m e, m < 2 ^ F.precision ∧ n = m * 2 ^ e := by
  constructor
  · intro h
    rcases Nat.lt_or_ge n (2 ^ F.precision) with hlt | hge
    · exact ⟨n, 0, hlt, by rw [Nat.pow_zero, Nat.mul_one]⟩
    · have hp := F.precision_pos
      have hn : n ≠ 0 := by
        have := Nat.two_pow_pos F.precision
        omega
      have hlog : F.precision ≤ n.log2 := (Nat.le_log2 hn).mpr hge
      refine ⟨divHalfEven n (F.grain n), n.log2 + 1 - F.precision, ?_, h.symm⟩
      have hwide : F.roundWhole n < 2 ^ F.precision * F.grain n := by
        rw [h]
        exact F.lt_two_pow_mul_grain n
      exact Nat.lt_of_mul_lt_mul_right hwide
  · rintro ⟨m, e, hm, rfl⟩
    exact roundWhole_mul_two_pow (Nat.le_of_lt hm) e

/-- A whole number below a power of two is not rounded beyond it. -/
theorem roundWhole_le_two_pow (h : n < 2 ^ j) : F.roundWhole n ≤ 2 ^ j := by
  have hround : F.round n 1 ≤ 2 ^ (j + F.scale) := by
    refine round_le_two_pow ?_
    rw [Nat.mul_one, Nat.pow_add]
    exact Nat.mul_lt_mul_of_pos_right h (Nat.two_pow_pos F.scale)
  rw [round_one, Nat.pow_add] at hround
  exact Nat.le_of_mul_le_mul_right hround (Nat.two_pow_pos F.scale)

/-- A whole number that reaches a power of two is not rounded below it. -/
theorem two_pow_le_roundWhole (h : 2 ^ j ≤ n) : 2 ^ j ≤ F.roundWhole n := by
  have hround : 2 ^ (j + F.scale) ≤ F.round n 1 := by
    refine two_pow_le_round (by decide) ?_
    rw [Nat.mul_one, Nat.pow_add]
    exact Nat.mul_le_mul_right _ h
  rw [round_one, Nat.pow_add] at hround
  exact Nat.le_of_mul_le_mul_right hround (Nat.two_pow_pos F.scale)

/-- Among the multiples of a power of two, one that is in the precision is the rounding of no
other. -/
theorem roundWhole_eq_iff (hm : 2 ^ j ∣ m) (hn : n < 2 ^ (F.precision + j)) :
    F.roundWhole m = n ↔ m = n := by
  rcases Nat.lt_or_ge m (2 ^ (F.precision + j)) with hlt | hge
  · obtain ⟨q, rfl⟩ := hm
    rw [Nat.mul_comm (2 ^ j)] at hlt ⊢
    have hq : q < 2 ^ F.precision := by
      rw [Nat.pow_add] at hlt
      exact Nat.lt_of_mul_lt_mul_right hlt
    rw [roundWhole_mul_two_pow (Nat.le_of_lt hq)]
  · have hbeyond : 2 ^ (F.precision + j) ≤ F.roundWhole m := two_pow_le_roundWhole hge
    exact ⟨fun h => by omega, fun h => by omega⟩

end Format

/-! ## The number of a ratio -/

namespace Binary

variable {F : Format} {negative : Bool} {num den num' den' k : Nat}

/-- The number of a ratio depends on nothing but its rounding. -/
theorem ofRatio_of_round_eq (h : F.round num den = F.round num' den') :
    ofRatio F negative num den = ofRatio F negative num' den' := by
  unfold ofRatio
  simp only [h]

theorem ofRatio_of_holds (h : F.round num den = k) (holds : F.Holds k) :
    ofRatio F negative num den = .finite negative k holds := by
  subst h
  exact dif_pos holds.1

theorem ofRatio_eq_finite (negative : Bool) (h : F.round num den < 2 ^ F.width) :
    ∃ holds, ofRatio F negative num den = .finite negative (F.round num den) holds :=
  ⟨_, ofRatio_of_holds rfl ⟨h, F.grain_dvd_round num den⟩⟩

theorem ofRatio_eq_infinite (h : 2 ^ F.width ≤ F.round num den) :
    ofRatio F negative num den = .infinite negative := by
  unfold ofRatio
  split
  · next hlt => exact absurd hlt (Nat.not_lt.mpr h)
  · rfl

end Binary

end MessageTemplate
