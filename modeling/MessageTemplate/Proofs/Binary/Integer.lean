import MessageTemplate.Proofs.Binary.Shortest

/-!
# Integers of 64 bits in a binary format

A 64-bit integer is rounded when it becomes a number of a format, and saturates when the number
becomes an integer again.  `roundInt64` is the integer that comes back, in integers alone.
`roundInt64_eq_self_iff` says for which ones this is the integer itself: its magnitude has no more
significant bits than the precision, or it is the largest one, where the rounding up and the
saturation undo each other.
-/

namespace MessageTemplate.Binary

open Format

variable {F : Format}

/-! ## Into the format -/

/-- The largest magnitude is a power of two, and no smaller one is rounded beyond it. -/
theorem roundWhole_natAbs_le (n : Int64) : F.roundWhole n.toInt.natAbs ≤ 2 ^ 63 := by
  have hlt := n.toInt_lt
  have hle := n.le_toInt
  rcases Nat.lt_or_eq_of_le (show n.toInt.natAbs ≤ 2 ^ 63 by omega) with hlt | heq
  · exact roundWhole_le_two_pow hlt
  · exact Nat.le_of_eq (by rw [heq, roundWhole_two_pow])

/-- A 64-bit integer is far below the infinite magnitudes. -/
theorem ofInt_eq_finite (hwidth : 63 + F.scale < F.width) (n : Int64) :
    ∃ holds, ofInt F n.toInt =
      .finite (decide (n.toInt < 0)) (F.roundWhole n.toInt.natAbs * 2 ^ F.scale) holds := by
  have hround : F.round n.toInt.natAbs 1 < 2 ^ F.width := by
    rw [round_one]
    calc F.roundWhole n.toInt.natAbs * 2 ^ F.scale ≤ 2 ^ 63 * 2 ^ F.scale :=
          Nat.mul_le_mul_right _ (roundWhole_natAbs_le n)
      _ = 2 ^ (63 + F.scale) := (Nat.pow_add 2 63 F.scale).symm
      _ < 2 ^ F.width := Nat.pow_lt_pow_right (by decide) hwidth
  obtain ⟨holds, hfinite⟩ := ofRatio_eq_finite (decide (n.toInt < 0)) hround
  simp only [round_one] at holds hfinite
  exact ⟨holds, hfinite⟩

theorem isFinite_ofInt (hwidth : 63 + F.scale < F.width) (n : Int64) :
    (ofInt F n.toInt).isFinite = true := by
  obtain ⟨holds, hfinite⟩ := ofInt_eq_finite hwidth n
  rw [hfinite, isFinite]

/-! ## Back to an integer -/

theorem toInt_saturate (n : Int) :
    (saturate n).toInt = max Int64.minValue.toInt (min n Int64.maxValue.toInt) := by
  have hmin : Int64.minValue.toInt = -2 ^ 63 := rfl
  have hmax : Int64.maxValue.toInt = 2 ^ 63 - 1 := rfl
  rw [saturate, Int64.toInt_ofInt_of_le] <;> omega

/-- The integer that comes back when an integer has been a number of the format. -/
def roundInt64 (F : Format) (n : Int64) : Int64 :=
  saturate (n.toInt.sign * F.roundWhole n.toInt.natAbs)

theorem truncate_ofInt (hwidth : 63 + F.scale < F.width) (n : Int64) :
    (ofInt F n.toInt).truncate = roundInt64 F n := by
  obtain ⟨holds, hfinite⟩ := ofInt_eq_finite hwidth n
  rw [hfinite, truncate, toInt64, roundInt64, Nat.pow_eq,
    Nat.mul_div_cancel _ (Nat.two_pow_pos F.scale)]
  congr 1
  rcases Int.lt_trichotomy n.toInt 0 with hneg | hzero | hpos
  · rw [if_pos (decide_eq_true hneg), Int.sign_eq_neg_one_of_neg hneg, Int.neg_one_mul]
  · rw [hzero]
    simp [roundWhole_zero]
  · rw [if_neg (by simpa using Int.le_of_lt hpos), Int.sign_eq_one_of_pos hpos, Int.one_mul]

/-- What comes back is the integer itself exactly when its magnitude is not changed by the
rounding or it is the largest one. -/
theorem roundInt64_eq_self_iff (hmax : F.roundWhole (2 ^ 63 - 1) = 2 ^ 63) (n : Int64) :
    roundInt64 F n = n ↔
      (∃ m e, m < 2 ^ F.precision ∧ n.toInt.natAbs = m * 2 ^ e) ∨ n = Int64.maxValue := by
  have hlt := n.toInt_lt
  have hle := n.le_toInt
  have hfirst : Int64.minValue.toInt = -2 ^ 63 := rfl
  have hlast : Int64.maxValue.toInt = 2 ^ 63 - 1 := rfl
  have hwithin := roundWhole_natAbs_le (F := F) n
  have hmax' : n.toInt.natAbs = 2 ^ 63 - 1 → F.roundWhole n.toInt.natAbs = 2 ^ 63 := fun h => by
    rw [h, hmax]
  rw [← Int64.toInt_inj, ← Int64.toInt_inj, ← roundWhole_eq_self_iff, roundInt64, toInt_saturate,
    hfirst, hlast]
  generalize hround : F.roundWhole n.toInt.natAbs = r at *
  rcases Int.lt_trichotomy n.toInt 0 with hneg | hzero | hpos
  · rw [Int.sign_eq_neg_one_of_neg hneg]
    omega
  · rw [hzero, Int.natAbs_zero, roundWhole_zero] at hround
    rw [hzero, ← hround]
    decide
  · rw [Int.sign_eq_one_of_pos hpos]
    omega

/-! ## The text of the magnitude -/

/-- The shortest text of a rounded integer is that of a whole number of 64 bits that is rounded to
the same magnitude.  It is the text of the integer when that has one bit too many at most, and
then a zero for the last one. -/
theorem exists_text_abs_ofInt (hF : 2 ^ F.precision < 10 ^ 16) (hwidth : 63 + F.scale < F.width)
    (n : Int64) :
    ∃ m : Nat, (ofInt F n.toInt).abs.text = m.repr ∧ m < 2 ^ 64 ∧
      F.roundWhole m = F.roundWhole n.toInt.natAbs ∧
      ∀ j ≤ 1, 2 ^ j ∣ n.toInt.natAbs → n.toInt.natAbs < 2 ^ (F.precision + j) →
        m = n.toInt.natAbs := by
  obtain ⟨holds, hfinite⟩ := ofInt_eq_finite hwidth n
  obtain ⟨m, htext, hround, -⟩ := exists_magnitudeText_whole hF holds.2
  refine ⟨m, ?_, ?_, hround, fun j hj hdvd hlt => ?_⟩
  · rw [hfinite, ← String.toList_inj, Nat.toList_repr]
    exact String.toList_ofList.trans htext
  · refine Nat.lt_of_not_le fun hlarge => ?_
    have hle : 2 ^ 64 ≤ F.roundWhole m := two_pow_le_roundWhole hlarge
    rw [hround] at hle
    exact absurd (Nat.le_trans hle (roundWhole_natAbs_le n)) (by decide)
  · have hten : 2 ^ j ∣ 10 := Nat.dvd_trans (Nat.pow_dvd_pow 2 hj) (by decide)
    rw [(roundWhole_eq_iff hdvd hlt).mpr rfl, magnitudeText_whole hF hten hdvd hlt] at htext
    rw [← Nat.ofDigitChars_ten_toDigits (n := m), ← htext, Nat.ofDigitChars_ten_toDigits]

end MessageTemplate.Binary
