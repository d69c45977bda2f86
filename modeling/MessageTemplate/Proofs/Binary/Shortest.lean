import MessageTemplate.Binary.Shortest
import MessageTemplate.Proofs.Binary.Rounding

/-!
# Shortest texts read back

The search for the shortest text of a magnitude tries grids of decimals, each ten times finer
than the one before.  A point that is taken reads back, and with seventeen digits one of the two
points around a magnitude does, so the search never comes back without digits
(`readsBack_shortestDigits`).

The last section follows the search for whole numbers.  All grids before the one with all the
digits of the number consist of whole tens.  So the text of a whole number is that of the number
itself or of a multiple of ten with the same rounding, and below `2 ^ precision` there is no
choice.
-/

namespace MessageTemplate.Binary

open Format

variable {F : Format} {k n count : Nat} {d : Digits}

/-! ## Decimal lengths -/

/-- The length is the least power of ten above the number. -/
theorem decimalLength_le_iff {e : Nat} : decimalLength n ≤ e ↔ n < 10 ^ e := by
  unfold decimalLength
  split
  · next h =>
    have := Nat.pow_pos (n := e) (by decide : 0 < 10)
    omega
  · next h =>
    rcases Nat.eq_zero_or_pos e with rfl | he
    · have := Nat.length_toDigits_pos (b := 10) (n := n)
      omega
    · exact Nat.length_toDigits_le_iff (by decide) he

theorem lt_ten_pow_decimalLength (n : Nat) : n < 10 ^ decimalLength n :=
  decimalLength_le_iff.mp (Nat.le_refl _)

theorem decimalLength_pos (hn : 0 < n) : 0 < decimalLength n := by
  refine Nat.pos_of_ne_zero fun h => ?_
  have := decimalLength_le_iff.mp (Nat.le_of_eq h)
  omega

theorem ten_pow_le_of_decimalLength (hn : 0 < n) : 10 ^ (decimalLength n - 1) ≤ n := by
  have hpos := decimalLength_pos hn
  refine Nat.le_of_not_lt fun h => ?_
  have := decimalLength_le_iff.mpr h
  omega

/-! ## Points of a grid -/

/-- The exponent of the points of the grid with `count` digits. -/
def gridStep (F : Format) (k count : Nat) : Int :=
  leadingPlace k (2 ^ F.scale) - count

/-- The magnitude of `k` units, counted in the steps of the grid with `count` digits: the
numerator. -/
def gridNum (F : Format) (k count : Nat) : Nat :=
  if 0 ≤ gridStep F k count then k else k * 10 ^ (-gridStep F k count).toNat

/-- The denominator of the magnitude that is counted in the steps of a grid. -/
def gridDen (F : Format) (k count : Nat) : Nat :=
  if 0 ≤ gridStep F k count then 2 ^ F.scale * 10 ^ (gridStep F k count).toNat else 2 ^ F.scale

/-- The last point of a grid that is not above a magnitude. -/
def gridBelow (F : Format) (k count : Nat) : Digits :=
  ⟨gridNum F k count / gridDen F k count, gridStep F k count⟩

/-- The first point of a grid that is above a magnitude.  The power of ten at the end of the
grid has one digit. -/
def gridAbove (F : Format) (k count : Nat) : Digits :=
  if gridNum F k count / gridDen F k count + 1 = 10 ^ count then
    ⟨1, leadingPlace k (2 ^ F.scale)⟩
  else ⟨gridNum F k count / gridDen F k count + 1, gridStep F k count⟩

theorem onGrid?_eq (F : Format) (k count : Nat) :
    onGrid? F k count =
      if readsBack F k (gridBelow F k count) &&
          (decide (2 * (gridNum F k count % gridDen F k count) < gridDen F k count) ||
            !readsBack F k (gridAbove F k count)) then
        some (gridBelow F k count)
      else if readsBack F k (gridAbove F k count) then some (gridAbove F k count)
      else none := rfl

theorem gridDen_pos : 0 < gridDen F k count := by
  unfold gridDen
  split
  · exact Nat.mul_pos (Nat.two_pow_pos _) (Nat.pow_pos (by decide))
  · exact Nat.two_pow_pos _

/-- The points around a magnitude have as many digits as the grid. -/
theorem grid_bounds (hk : 0 < k) (hcount : 0 < count) :
    10 ^ (count - 1) * gridDen F k count ≤ gridNum F k count ∧
      gridNum F k count < 10 ^ count * gridDen F k count := by
  have hone := Nat.two_pow_pos F.scale
  unfold gridNum gridDen gridStep leadingPlace
  generalize 2 ^ F.scale = one at *
  rcases Nat.lt_or_ge k one with hlt | hge
  · -- A fraction: its first digit stands `length` places behind the point.
    have hquot : 0 < (one - 1) / k := Nat.div_pos (by omega) hk
    have hupper := (Nat.div_lt_iff_lt_mul hk).mp (lt_ten_pow_decimalLength ((one - 1) / k))
    have hlower := (Nat.le_div_iff_mul_le hk).mp (ten_pow_le_of_decimalLength hquot)
    have hpos := decimalLength_pos hquot
    generalize decimalLength ((one - 1) / k) = length at *
    rw [if_neg (by omega), if_neg (by omega), if_neg (by omega)]
    have hstep : (-((1 : Int) - length - count)).toNat = length + (count - 1) := by omega
    have hstep' : (-((1 : Int) - length - count)).toNat = (length - 1) + count := by omega
    constructor
    · rw [hstep, Nat.pow_add, ← Nat.mul_assoc, Nat.mul_comm (10 ^ (count - 1))]
      refine Nat.mul_le_mul_right _ ?_
      rw [Nat.mul_comm]
      omega
    · rw [hstep', Nat.pow_add, ← Nat.mul_assoc, Nat.mul_comm (10 ^ count)]
      refine Nat.mul_lt_mul_of_pos_right ?_ (Nat.pow_pos (by decide))
      rw [Nat.mul_comm]
      omega
  · have hquot : 0 < k / one := Nat.div_pos hge hone
    have hupper := (Nat.div_lt_iff_lt_mul hone).mp (lt_ten_pow_decimalLength (k / one))
    have hlower := (Nat.le_div_iff_mul_le hone).mp (ten_pow_le_of_decimalLength hquot)
    have hpos := decimalLength_pos hquot
    generalize decimalLength (k / one) = length at *
    rw [if_pos hge]
    rcases Nat.lt_or_ge length count with hfine | hcoarse
    · rw [if_neg (by omega), if_neg (by omega)]
      have hstep : (-((length : Int) - count)).toNat = count - length := by omega
      rw [hstep]
      have hsplit : count = length + (count - length) := by omega
      have hsplit' : count - 1 = (length - 1) + (count - length) := by omega
      constructor
      · calc 10 ^ (count - 1) * one = 10 ^ (length - 1) * one * 10 ^ (count - length) := by
              rw [hsplit', Nat.pow_add]
              ac_rfl
          _ ≤ k * 10 ^ (count - length) := Nat.mul_le_mul_right _ hlower
      · calc k * 10 ^ (count - length) < 10 ^ length * one * 10 ^ (count - length) :=
              Nat.mul_lt_mul_of_pos_right hupper (Nat.pow_pos (by decide))
          _ = 10 ^ (length + (count - length)) * one := by
              rw [Nat.pow_add]
              ac_rfl
          _ = 10 ^ count * one := by rw [← hsplit]
    · rw [if_pos (by omega), if_pos (by omega)]
      have hstep : ((length : Int) - count).toNat = length - count := by omega
      rw [hstep]
      constructor
      · calc 10 ^ (count - 1) * (one * 10 ^ (length - count))
            = 10 ^ (count - 1 + (length - count)) * one := by
              rw [Nat.pow_add]
              ac_rfl
          _ = 10 ^ (length - 1) * one := by
              congr 2
              omega
          _ ≤ k := hlower
      · calc k < 10 ^ length * one := hupper
          _ = 10 ^ (count + (length - count)) * one := by
              congr 2
              omega
          _ = 10 ^ count * (one * 10 ^ (length - count)) := by
              rw [Nat.pow_add]
              ac_rfl

/-- The points of a grid and the magnitude over one denominator. -/
theorem exists_ratio (F : Format) (k count : Nat) :
    ∃ q, 0 < q ∧ k * q = gridNum F k count ∧
      ∀ b, ∃ p, (Digits.mk b (gridStep F k count)).ratio = (p, q) ∧
        p * 2 ^ F.scale = b * gridDen F k count := by
  unfold Digits.ratio gridDen gridNum
  dsimp only
  split
  · refine ⟨1, Nat.one_pos, Nat.mul_one k, fun b => ⟨_, rfl, ?_⟩⟩
    rw [Nat.pow_eq, Nat.mul_assoc, Nat.mul_comm (10 ^ _)]
  · exact ⟨_, Nat.pow_pos (by decide), rfl, fun b => ⟨b, rfl, rfl⟩⟩

/-- Zeros at the end of the digits can be counted in the exponent. -/
theorem readsBack_mul_ten_pow (b c : Nat) (e : Int) :
    readsBack F k ⟨b * 10 ^ c, e⟩ = readsBack F k ⟨b, e + c⟩ := by
  unfold readsBack Digits.ratio
  congr 1
  dsimp only
  rcases Int.lt_or_le e 0 with hneg | hpos
  · rcases Int.lt_or_le (e + c) 0 with hneg' | hpos'
    · rw [if_neg (by omega), if_neg (by omega)]
      refine round_congr (Nat.pow_pos (by decide)) (Nat.pow_pos (by decide)) ?_
      have hsum : (-e).toNat = c + (-(e + c)).toNat := by omega
      rw [hsum, Nat.pow_eq, Nat.pow_eq, Nat.mul_assoc, ← Nat.pow_add]
    · rw [if_neg (by omega), if_pos hpos']
      refine round_congr (Nat.pow_pos (by decide)) Nat.one_pos ?_
      have hsum : c = (e + c).toNat + (-e).toNat := by omega
      rw [Nat.mul_one, Nat.pow_eq, Nat.pow_eq, Nat.mul_assoc, ← Nat.pow_add, ← hsum]
  · rw [if_pos hpos, if_pos (by omega)]
    have hsum : (e + c).toNat = c + e.toNat := by omega
    rw [hsum, Nat.pow_eq, Nat.pow_eq, Nat.mul_assoc, ← Nat.pow_add]

/-- The point above a magnitude reads back as the next multiple of the step does. -/
theorem readsBack_gridAbove :
    readsBack F k (gridAbove F k count) =
      readsBack F k ⟨gridNum F k count / gridDen F k count + 1, gridStep F k count⟩ := by
  unfold gridAbove
  split
  · next hend =>
    have hplace : leadingPlace k (2 ^ F.scale) = gridStep F k count + count := by
      unfold gridStep
      omega
    rw [hend, hplace, ← readsBack_mul_ten_pow, Nat.one_mul]
  · rfl

/-! ## Seventeen digits suffice -/

section Seventeen

variable {q p b : Nat}

/-- A point less than half a grain from the magnitude reads back, if the grain is the same. -/
theorem readsBack_of_near (hratio : (Digits.mk b (gridStep F k count)).ratio = (p, q))
    (hdvd : F.grain k ∣ k) (hgrain : F.grain (p * 2 ^ F.scale / q) = F.grain k)
    (hbelow : 2 * (k * q) < 2 * (p * 2 ^ F.scale) + q * F.grain k)
    (habove : 2 * (p * 2 ^ F.scale) < 2 * (k * q) + q * F.grain k) :
    readsBack F k ⟨b, gridStep F k count⟩ = true := by
  rw [readsBack, hratio, beq_iff_eq]
  refine round_eq_of_near ?_ ?_ ?_ <;> rw [hgrain]
  · exact hdvd
  · exact hbelow
  · exact habove

/-- Just above a magnitude the grain is the same: the next power of two is whole grains away. -/
theorem grain_above {a : Nat} (hq : 0 < q) (hk : 0 < k) (hdvd : F.grain k ∣ k)
    (hle : k * q ≤ a) (hlt : a < k * q + q * F.grain k) :
    F.grain (a / q) = F.grain k := by
  have hdvd' : F.grain k ∣ 2 ^ (k.log2 + 1) :=
    grain_dvd_two_pow (Nat.lt_of_lt_of_le Nat.lt_log2_self
      (Nat.pow_le_pow_right (by decide) (Nat.le_succ _)))
  have hgrain : F.grain k ≤ 2 ^ (k.log2 + 1) - k :=
    Nat.le_of_dvd (Nat.sub_pos_of_lt Nat.lt_log2_self) (Nat.dvd_sub hdvd' hdvd)
  refine grain_eq_of_log2 ?_ ((Nat.div_lt_iff_lt_mul hq).mpr ?_)
  · exact Nat.le_trans (Nat.log2_self_le (Nat.pos_iff_ne_zero.mp hk))
      ((Nat.le_div_iff_mul_le hq).mpr hle)
  · calc a < (k + F.grain k) * q := by rwa [Nat.add_mul, Nat.mul_comm (F.grain k)]
      _ ≤ 2 ^ (k.log2 + 1) * q := by
        refine Nat.mul_le_mul_right q ?_
        have := Nat.lt_log2_self (n := k)
        omega

/-- Just below a magnitude the grain is the same, unless the magnitude is a power of two or no
grain is more than a unit. -/
theorem grain_below {a : Nat} (hq : 0 < q) (hdvd : F.grain k ∣ k) (hle : a ≤ k * q)
    (hlt : k * q < a + q * F.grain k) (hpow : F.precision ≤ k.log2 → 2 ^ k.log2 < k) :
    F.grain (a / q) = F.grain k := by
  have hquot : a / q ≤ k := Nat.div_le_of_le_mul (by rwa [Nat.mul_comm])
  have hbits := Nat.lt_log2_self (n := k)
  rcases Nat.lt_or_ge k.log2 F.precision with hsmall | hlarge
  · have hk : k < 2 ^ F.precision :=
      Nat.lt_of_lt_of_le hbits (Nat.pow_le_pow_right (by decide) hsmall)
    rw [grain_eq_one hk, grain_eq_one (Nat.lt_of_le_of_lt hquot hk)]
  · have hgrain : F.grain k ≤ k - 2 ^ k.log2 :=
      Nat.le_of_dvd (Nat.sub_pos_of_lt (hpow hlarge))
        (Nat.dvd_sub hdvd (grain_dvd_two_pow hbits))
    refine grain_eq_of_log2 ((Nat.le_div_iff_mul_le hq).mpr ?_) (Nat.lt_of_le_of_lt hquot hbits)
    have hroom : (2 ^ k.log2 + F.grain k) * q ≤ k * q := by
      refine Nat.mul_le_mul_right q ?_
      have := hpow hlarge
      omega
    rw [Nat.add_mul, Nat.mul_comm (F.grain k)] at hroom
    omega

/-- With seventeen digits the distance of two points is less than a grain. -/
theorem step_lt_grain {den : Nat} (hF : 2 ^ F.precision < 10 ^ 16) (hq : 0 < q)
    (hstep : 10 ^ 16 * den ≤ k * q) : den < q * F.grain k := by
  refine Nat.lt_of_mul_lt_mul_left (a := 10 ^ 16) ?_
  calc 10 ^ 16 * den ≤ k * q := hstep
    _ ≤ 2 ^ F.precision * F.grain k * q :=
      Nat.mul_le_mul_right q (Nat.le_of_lt (F.lt_two_pow_mul_grain k))
    _ = 2 ^ F.precision * (q * F.grain k) := by ac_rfl
    _ < 10 ^ 16 * (q * F.grain k) := Nat.mul_lt_mul_of_pos_right hF (Nat.mul_pos hq grain_pos)

/-- Around a power of two it is less than half a grain. -/
theorem two_mul_step_lt_grain {den : Nat} (hF : 2 ^ F.precision < 10 ^ 16) (hq : 0 < q)
    (hstep : 10 ^ 16 * den ≤ k * q) (hlarge : F.precision ≤ k.log2) (hpow : 2 ^ k.log2 = k) :
    2 * den < q * F.grain k := by
  refine Nat.lt_of_mul_lt_mul_left (a := 10 ^ 16) ?_
  calc 10 ^ 16 * (2 * den) = 2 * (10 ^ 16 * den) := by ac_rfl
    _ ≤ 2 * (k * q) := Nat.mul_le_mul_left 2 hstep
    _ = 2 ^ (k.log2 + 1) * q := by
      rw [Nat.pow_succ, hpow]
      ac_rfl
    _ = 2 ^ F.precision * (q * F.grain k) := by
      rw [two_pow_log2_eq hlarge]
      ac_rfl
    _ < 10 ^ 16 * (q * F.grain k) := Nat.mul_lt_mul_of_pos_right hF (Nat.mul_pos hq grain_pos)

/-- With seventeen digits one of the two points around a magnitude reads back: the point above
when it is less than half a grain away, and else the point below. -/
theorem readsBack_seventeen (hF : 2 ^ F.precision < 10 ^ 16) (hk : 0 < k)
    (hdvd : F.grain k ∣ k) :
    readsBack F k (gridBelow F k 17) = true ∨ readsBack F k (gridAbove F k 17) = true := by
  obtain ⟨q, hq, hnum, hratio⟩ := exists_ratio F k 17
  obtain ⟨hstep, -⟩ := grid_bounds (F := F) hk (by decide : 0 < 17)
  rw [readsBack_gridAbove, gridBelow]
  have hdiv := Nat.div_add_mod (gridNum F k 17) (gridDen F k 17)
  have hden : 0 < gridDen F k 17 := gridDen_pos
  have hmod := Nat.mod_lt (gridNum F k 17) hden
  generalize gridNum F k 17 / gridDen F k 17 = b at *
  obtain ⟨p, hp, hbelow⟩ := hratio b
  obtain ⟨p', hp', habove⟩ := hratio (b + 1)
  rw [Nat.add_mul, Nat.one_mul] at habove
  rw [Nat.mul_comm] at hdiv
  generalize gridDen F k 17 = den at *
  rw [← hnum] at hstep
  have hdistance := step_lt_grain hF hq hstep
  by_cases hnear : 2 * (p' * 2 ^ F.scale) < 2 * (k * q) + q * F.grain k
  · right
    refine readsBack_of_near hp' hdvd (grain_above hq hk hdvd ?_ ?_) ?_ hnear <;> omega
  · have hpow (hlarge : F.precision ≤ k.log2) : 2 ^ k.log2 < k := by
      refine Nat.lt_of_le_of_ne (Nat.log2_self_le (Nat.pos_iff_ne_zero.mp hk)) fun heq => ?_
      have hhalf := two_mul_step_lt_grain hF hq hstep hlarge heq
      omega
    left
    refine readsBack_of_near hp hdvd (grain_below hq hdvd ?_ ?_ hpow) ?_ ?_ <;> omega

end Seventeen

/-! ## The search -/

/-- What the search takes on a grid is one of the two points around the magnitude. -/
theorem onGrid?_eq_some (h : onGrid? F k count = some d) :
    readsBack F k d = true ∧ (d = gridBelow F k count ∨ d = gridAbove F k count) := by
  rw [onGrid?_eq] at h
  split at h
  · next hbelow =>
    obtain rfl := Option.some.inj h
    exact ⟨(Bool.and_eq_true_iff.mp hbelow).1, .inl rfl⟩
  · split at h
    · next habove =>
      obtain rfl := Option.some.inj h
      exact ⟨habove, .inr rfl⟩
    · contradiction

theorem isSome_onGrid? (h : readsBack F k (gridBelow F k count) = true ∨
    readsBack F k (gridAbove F k count) = true) : (onGrid? F k count).isSome = true := by
  rw [onGrid?_eq]
  split
  · rfl
  · next hbelow =>
    have habove : readsBack F k (gridAbove F k count) = true := by
      rcases h with h | h
      · cases ha : readsBack F k (gridAbove F k count) with
        | true => rfl
        | false => simp [h, ha] at hbelow
      · exact h
    rw [if_pos habove]
    rfl

/-- The search stops at a grid with a point that reads back, and at no later one than any that
has such a point. -/
theorem exists_onGrid?_eq {last : Nat} (hlast : 0 < last) (hmax : last ≤ maxDigits)
    (h : (onGrid? F k last).isSome = true) :
    ∃ count, 0 < count ∧ count ≤ last ∧ onGrid? F k count = some (shortestDigits F k) := by
  have hmem : last - 1 ∈ List.range maxDigits := List.mem_range.mpr (by omega)
  have hsome : (onGrid? F k (last - 1 + 1)).isSome = true := by
    rwa [Nat.sub_add_cancel hlast]
  unfold shortestDigits
  cases hfind : (List.range maxDigits).findSome? fun count => onGrid? F k (count + 1) with
  | none =>
    rw [List.findSome?_eq_none_iff.mp hfind _ hmem] at hsome
    contradiction
  | some d =>
    obtain ⟨before, count, behind, hrange, hcount, hnone⟩ := List.findSome?_eq_some_iff.mp hfind
    refine ⟨count + 1, Nat.succ_pos _, ?_, hcount⟩
    -- The grids stand in order, and none before this one has a point.
    have hsorted := List.pairwise_lt_range (n := maxDigits)
    rw [hrange] at hsorted hmem
    rcases List.mem_append.mp hmem with hbefore | hbehind
    · rw [hnone _ hbefore] at hsome
      contradiction
    · rcases List.mem_cons.mp hbehind with heq | hbehind
      · omega
      · have := List.rel_of_pairwise_cons (List.pairwise_append.mp hsorted).2.1 hbehind
        omega

/-- The shortest digits read back. -/
theorem readsBack_shortestDigits (hF : 2 ^ F.precision < 10 ^ 16) (hk : 0 < k)
    (hdvd : F.grain k ∣ k) : readsBack F k (shortestDigits F k) = true := by
  obtain ⟨count, -, -, hcount⟩ := exists_onGrid?_eq (by decide : 0 < 17) (Nat.le_refl _)
    (isSome_onGrid? (readsBack_seventeen hF hk hdvd))
  exact (onGrid?_eq_some hcount).1

/-! ## Whole numbers -/

/-- Zeros behind the digits of a number multiply it by a power of ten. -/
theorem toDigits_append_zeros (hn : 0 < n) (e : Nat) :
    Nat.toDigits 10 n ++ List.replicate e '0' = Nat.toDigits 10 (n * 10 ^ e) := by
  induction e with
  | zero => simp
  | succ e ih =>
    have hzero : Nat.toDigits 10 0 = ['0'] := Nat.toDigits_zero 10
    have hpos : 0 < n * 10 ^ e := Nat.mul_pos hn (Nat.pow_pos (by decide))
    rw [List.replicate_succ', ← List.append_assoc, ih, ← hzero,
      Nat.toDigits_append_toDigits (by decide) hpos (by decide), Nat.pow_succ, Nat.add_zero]
    congr 1
    ac_rfl

/-- The place of the first digit of a whole number. -/
theorem leadingPlace_whole (hn : 0 < n) :
    leadingPlace (n * 2 ^ F.scale) (2 ^ F.scale) = decimalLength n := by
  have hone := Nat.two_pow_pos F.scale
  rw [leadingPlace, if_pos (Nat.le_mul_of_pos_left _ hn), Nat.mul_div_cancel _ hone]

/-- Digits without a fraction that read back as a whole number are the text of a whole number
that is rounded to it. -/
theorem positional_of_readsBack {b e : Nat} (hb : 0 < b)
    (h : readsBack F (n * 2 ^ F.scale) ⟨b, e⟩ = true) :
    (Digits.mk b e).positional = Nat.toDigits 10 (b * 10 ^ e) ∧
      F.roundWhole (b * 10 ^ e) = n := by
  have hexp : (0 : Int) ≤ e := Int.natCast_nonneg e
  constructor
  · unfold Digits.positional
    dsimp only
    rw [if_pos hexp, Int.toNat_natCast]
    exact toDigits_append_zeros hb e
  · unfold readsBack Digits.ratio at h
    dsimp only at h
    rw [if_pos hexp, Int.toNat_natCast, beq_iff_eq, round_one] at h
    exact Nat.eq_of_mul_eq_mul_right (Nat.two_pow_pos F.scale) h

/-- The grid with all digits of a whole number has the number itself. -/
theorem onGrid?_decimalLength (hn : 0 < n) (hdvd : F.grain (n * 2 ^ F.scale) ∣ n * 2 ^ F.scale) :
    onGrid? F (n * 2 ^ F.scale) (decimalLength n) = some ⟨n, 0⟩ := by
  have hone := Nat.two_pow_pos F.scale
  have hstep : gridStep F (n * 2 ^ F.scale) (decimalLength n) = 0 := by
    rw [gridStep, leadingPlace_whole hn, Int.sub_self]
  have hnum : gridNum F (n * 2 ^ F.scale) (decimalLength n) = n * 2 ^ F.scale := by
    rw [gridNum, hstep, if_pos (Int.le_refl 0)]
  have hden : gridDen F (n * 2 ^ F.scale) (decimalLength n) = 2 ^ F.scale := by
    rw [gridDen, hstep, if_pos (Int.le_refl 0), Int.toNat_zero, Nat.pow_zero, Nat.mul_one]
  have hbelow : gridBelow F (n * 2 ^ F.scale) (decimalLength n) = ⟨n, 0⟩ := by
    rw [gridBelow, hnum, hden, hstep, Nat.mul_div_cancel _ hone]
  have hback : readsBack F (n * 2 ^ F.scale) ⟨n, 0⟩ = true := by
    refine beq_iff_eq.mpr (round_of_exact Nat.one_pos ?_ hdvd)
    exact (congrArg (· * 2 ^ F.scale) (Nat.mul_one n)).trans (Nat.mul_one _).symm
  rw [onGrid?_eq, hbelow, hback, hnum, hden, Nat.mul_mod_left]
  simp [hone]

/-- A coarser grid has whole tens only. -/
theorem exists_of_onGrid?_whole (hn : 0 < n) (hcount : 0 < count)
    (hlt : count < decimalLength n) (h : onGrid? F (n * 2 ^ F.scale) count = some d) :
    ∃ b e : Nat, 0 < b ∧ d = ⟨b, (e + 1 : Nat)⟩ := by
  have hk : 0 < n * 2 ^ F.scale := Nat.mul_pos hn (Nat.two_pow_pos _)
  have hplace := leadingPlace_whole (F := F) hn
  have hstep : gridStep F (n * 2 ^ F.scale) count = (decimalLength n - count - 1 + 1 : Nat) := by
    rw [gridStep, hplace]
    omega
  have hend : (decimalLength n : Int) = (decimalLength n - 1 + 1 : Nat) := by
    omega
  have hdigits : 0 < gridNum F (n * 2 ^ F.scale) count / gridDen F (n * 2 ^ F.scale) count := by
    refine Nat.lt_of_lt_of_le (Nat.pow_pos (by decide : 0 < 10) (n := count - 1)) ?_
    exact (Nat.le_div_iff_mul_le gridDen_pos).mpr (grid_bounds hk hcount).1
  rcases (onGrid?_eq_some h).2 with rfl | rfl
  · exact ⟨_, _, hdigits, by rw [gridBelow, hstep]⟩
  · unfold gridAbove
    split
    · exact ⟨1, _, Nat.one_pos, by rw [hplace, hend]⟩
    · exact ⟨_, _, Nat.succ_pos _, by rw [hstep]⟩

/-- The text of a whole number is the text of a whole number that is rounded to it: of the
number itself or of a multiple of ten. -/
theorem exists_magnitudeText_whole (hF : 2 ^ F.precision < 10 ^ 16)
    (hdvd : F.grain (n * 2 ^ F.scale) ∣ n * 2 ^ F.scale) :
    ∃ v, magnitudeText F (n * 2 ^ F.scale) = Nat.toDigits 10 v ∧ F.roundWhole v = n ∧
      (v = n ∨ 10 ∣ v) := by
  rcases Nat.eq_zero_or_pos n with rfl | hn
  · refine ⟨0, ?_, roundWhole_zero, .inl rfl⟩
    rw [Nat.zero_mul, magnitudeText, if_pos rfl, Nat.toDigits_zero]
  · have hk : 0 < n * 2 ^ F.scale := Nat.mul_pos hn (Nat.two_pow_pos _)
    have hfound : (onGrid? F (n * 2 ^ F.scale) (min (decimalLength n) 17)).isSome = true := by
      rcases Nat.le_total (decimalLength n) 17 with hle | hge
      · rw [Nat.min_eq_left hle, onGrid?_decimalLength hn hdvd]
        rfl
      · rw [Nat.min_eq_right hge]
        exact isSome_onGrid? (readsBack_seventeen hF hk hdvd)
    have hpos := decimalLength_pos hn
    have hlast : 0 < min (decimalLength n) 17 := by omega
    obtain ⟨count, hcount, hle, hdigits⟩ :=
      exists_onGrid?_eq hlast (Nat.min_le_right _ _) hfound
    obtain ⟨hback, -⟩ := onGrid?_eq_some hdigits
    rw [magnitudeText, if_neg (Nat.pos_iff_ne_zero.mp hk)]
    rcases Nat.lt_or_ge count (decimalLength n) with hlt | hge
    · obtain ⟨b, e, hb, hd⟩ := exists_of_onGrid?_whole hn hcount hlt hdigits
      rw [hd] at hback ⊢
      obtain ⟨htext, hround⟩ := positional_of_readsBack hb hback
      refine ⟨b * 10 ^ (e + 1), htext, hround, .inr ?_⟩
      exact Nat.dvd_trans (Nat.pow_dvd_pow 10 (Nat.le_add_left 1 e)) (Nat.dvd_mul_left _ _)
    · have heq : count = decimalLength n := by omega
      rw [heq, onGrid?_decimalLength hn hdvd] at hdigits
      rw [← Option.some.inj hdigits] at hback ⊢
      obtain ⟨htext, hround⟩ := positional_of_readsBack (e := 0) hn hback
      rw [Nat.pow_zero, Nat.mul_one] at htext hround
      exact ⟨n, htext, hround, .inl rfl⟩

/-- A whole number of few bits is written with all its digits. -/
theorem magnitudeText_whole {j : Nat} (hF : 2 ^ F.precision < 10 ^ 16) (hj : 2 ^ j ∣ 10)
    (hdvd : 2 ^ j ∣ n) (hlt : n < 2 ^ (F.precision + j)) :
    magnitudeText F (n * 2 ^ F.scale) = Nat.toDigits 10 n := by
  have hself : F.roundWhole n = n := (roundWhole_eq_iff hdvd hlt).mpr rfl
  have hholds := F.grain_dvd_round n 1
  rw [round_one, hself] at hholds
  obtain ⟨v, htext, hround, hten⟩ := exists_magnitudeText_whole hF hholds
  have hv : 2 ^ j ∣ v := by
    rcases hten with rfl | hten
    · exact hdvd
    · exact Nat.dvd_trans hj hten
  rw [htext, (roundWhole_eq_iff hv hlt).mp hround]

/-- The number of units of a whole number. -/
theorem eq_mul_of_whole? {negative : Bool} {units : Nat} {holds : F.Holds units}
    (h : (finite negative units holds).whole? = some n) : units = n * 2 ^ F.scale := by
  simp only [whole?] at h
  split at h
  · next hmod =>
    rw [← Option.some.inj h]
    exact (Nat.div_mul_cancel (Nat.dvd_of_mod_eq_zero hmod)).symm
  · contradiction

/-- A whole number that is exact for its size alone is written with all its digits. -/
theorem text_abs_of_whole? {x : Binary F} (hF : 2 ^ F.precision < 10 ^ 16)
    (hwhole : x.whole? = some n) (hn : n < 2 ^ F.precision) :
    x.abs.text.toList = Nat.toDigits 10 n := by
  cases x with
  | nan | infinite => contradiction
  | finite negative units holds =>
    have htext := magnitudeText_whole (j := 0) hF (Nat.one_dvd 10) (Nat.one_dvd n) hn
    rw [← eq_mul_of_whole? hwhole] at htext
    exact String.toList_ofList.trans htext

/-- Seventeen digits suffice for double precision. -/
theorem precision_binary64 : 2 ^ binary64.precision < 10 ^ 16 := by
  decide

end MessageTemplate.Binary
