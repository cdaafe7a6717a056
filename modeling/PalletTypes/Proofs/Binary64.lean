import PalletTypes.Binary64

/-!
# Ranks of exact numbers

A rank is a shift and a mantissa of at most 53 binary digits, and only the
numbers without a shift have a shorter mantissa.  So the rank of an exact
number is found again from the number, and rounding an exact number is exact.
-/

namespace PalletTypes

namespace Binary64

/-- The mantissa and the shift of a rank, and the numbers at the rank and at
the next one. -/
theorem exists_mantissa (rank : Nat) :
    ∃ mantissa shift, rank = shift * binade + mantissa ∧
      mantissa < 2 * binade ∧ (shift = 0 ∨ binade ≤ mantissa) ∧
      units rank = mantissa <<< shift ∧
      units (rank + 1) = (mantissa + 1) <<< shift := by
  have unitsAt : ∀ mantissa shift, mantissa < 2 * binade →
      (shift = 0 ∨ binade ≤ mantissa) →
      units (shift * binade + mantissa) = mantissa <<< shift := by
    intro mantissa shift small normal
    have shiftOf : (shift * binade + mantissa) / binade - 1 = shift := by
      unfold binade at small normal ⊢
      omega
    simp only [units, shiftOf, Nat.add_sub_cancel_left]
  obtain ⟨mantissa, shift, whole, small, normal⟩ : ∃ mantissa shift,
      rank = shift * binade + mantissa ∧ mantissa < 2 * binade ∧
        (shift = 0 ∨ binade ≤ mantissa) := by
    refine ⟨rank - (rank / binade - 1) * binade, rank / binade - 1, ?_⟩
    unfold binade
    omega
  refine ⟨mantissa, shift, whole, small, normal, ?_, ?_⟩
  · rw [whole, unitsAt mantissa shift small normal]
  · by_cases short : mantissa + 1 < 2 * binade
    · rw [whole, Nat.add_assoc, unitsAt (mantissa + 1) shift short
        (normal.imp_right Nat.le_succ_of_le)]
    · -- The mantissa overflows into the next power of two.
      have full : mantissa + 1 = 2 * binade := by omega
      have next : rank + 1 = (shift + 1) * binade + binade := by
        rw [whole, Nat.add_assoc, full, Nat.add_mul]
        omega
      rw [next, unitsAt binade (shift + 1) (by decide) (Or.inr (Nat.le_refl _)),
        full, Nat.shiftLeft_succ_inside, Nat.mul_comm]

theorem units_lt_units_succ (rank : Nat) : units rank < units (rank + 1) := by
  obtain ⟨mantissa, shift, -, -, -, here, next⟩ := exists_mantissa rank
  rw [here, next, Nat.shiftLeft_eq, Nat.shiftLeft_eq]
  exact Nat.mul_lt_mul_of_pos_right (Nat.lt_succ_self _)
    (Nat.two_pow_pos shift)

theorem units_pos {rank : Nat} (positive : 0 < rank) : 0 < units rank := by
  cases rank with
  | zero => exact absurd positive (Nat.lt_irrefl 0)
  | succ rank => exact Nat.zero_lt_of_lt (units_lt_units_succ rank)

theorem rankOf_units (rank : Nat) : rankOf (units rank) = rank := by
  obtain ⟨mantissa, shift, whole, small, normal, here, -⟩ :=
    exists_mantissa rank
  rw [here, whole, rankOf, Nat.shiftLeft_eq]
  have found : (mantissa * 2 ^ shift).log2 - 52 = shift := by
    rcases normal with rfl | normal
    · rw [Nat.pow_zero, Nat.mul_one]
      by_cases isZero : mantissa = 0
      · rw [isZero]
        decide
      · have short : mantissa.log2 < 53 := (Nat.log2_lt isZero).mpr small
        omega
    · have positive : mantissa * 2 ^ shift ≠ 0 :=
        Nat.mul_ne_zero (Nat.ne_of_gt (Nat.lt_of_lt_of_le (by decide) normal))
          (Nat.ne_of_gt (Nat.two_pow_pos shift))
      have exactLog : (mantissa * 2 ^ shift).log2 = 52 + shift := by
        rw [Nat.log2_eq_iff positive, Nat.add_right_comm, Nat.pow_add,
          Nat.pow_add 2 53]
        exact ⟨Nat.mul_le_mul_right _ normal,
          Nat.mul_lt_mul_of_pos_right small (Nat.two_pow_pos shift)⟩
      omega
  rw [found, Nat.shiftRight_eq_div_pow,
    Nat.mul_div_cancel _ (Nat.two_pow_pos shift)]

/-- An exact number is rounded to itself. -/
theorem nearestRank_units (rank : Nat) {scale : Nat} (positive : 0 < scale) :
    nearestRank (units rank * scale) scale = rank := by
  have below : 2 * (units rank * scale) <
      (units rank + units (rank + 1)) * scale := by
    rw [← Nat.mul_assoc]
    apply Nat.mul_lt_mul_of_pos_right _ positive
    have next := units_lt_units_succ rank
    omega
  rw [nearestRank, Nat.mul_div_cancel _ positive, rankOf_units, if_pos below]

end Binary64

end PalletTypes
