import Mathlib.Algebra.Group.Nat.Defs
import Mathlib.Order.Monotone.Basic
import PalletTypes.Proofs.Decimal.Shortest

/-!
# The number nearest to a decimal

Rounding finds the rank whose number is nearest to a decimal, and of two that
are equally near the even one.  A finite number is found unless the magnitude
is at least half way from the greatest finite number to the next power of two;
the tie is too large as well, since it is rounded to an even rank.
-/

namespace PalletTypes

namespace Binary64

/-! ## The numbers of neighbouring ranks -/

/-- The numbers at the rank of a mantissa and a shift and at the next one. -/
theorem units_of_mantissa {mantissa shift : Nat} (small : mantissa < 2 * binade)
    (normal : shift = 0 ∨ binade ≤ mantissa) :
    units (shift * binade + mantissa) = mantissa * 2 ^ shift ∧
      units (shift * binade + mantissa + 1) = (mantissa + 1) * 2 ^ shift := by
  obtain ⟨other, otherShift, whole, otherSmall, otherNormal, here, next⟩ :=
    exists_mantissa (shift * binade + mantissa)
  have same : otherShift = shift ∧ other = mantissa := by
    unfold binade at whole small normal otherSmall otherNormal
    omega
  rw [here, next, same.1, same.2, Nat.shiftLeft_eq, Nat.shiftLeft_eq]
  exact ⟨rfl, rfl⟩

theorem units_strictMono : StrictMono units :=
  strictMono_nat_of_lt_succ units_lt_units_succ

/-- An amount lies between the number of its rank and that of the next one. -/
theorem rankOf_spec (amount : Nat) :
    units (rankOf amount) ≤ amount ∧ amount < units (rankOf amount + 1) := by
  have split : ∃ mantissa shift, rankOf amount = shift * binade + mantissa ∧
      mantissa = amount / 2 ^ shift ∧ mantissa < 2 * binade ∧
        (shift = 0 ∨ binade ≤ mantissa) := by
    refine ⟨amount / 2 ^ (amount.log2 - 52), amount.log2 - 52, ?_, rfl, ?_, ?_⟩
    · rw [rankOf, Nat.shiftRight_eq_div_pow]
    · have digits : amount < 2 ^ (amount.log2 + 1) := Nat.lt_log2_self
      have room : amount.log2 + 1 ≤ 53 + (amount.log2 - 52) := by omega
      apply Nat.div_lt_of_lt_mul
      calc
        amount < 2 ^ (amount.log2 + 1) := digits
        _ ≤ 2 ^ (53 + (amount.log2 - 52)) :=
          Nat.pow_le_pow_right (by decide) room
        _ = 2 ^ (amount.log2 - 52) * (2 * binade) := by
          rw [Nat.pow_add, Nat.mul_comm]
          rfl
    · by_cases short : amount.log2 ≤ 52
      · exact Or.inl (Nat.sub_eq_zero_of_le short)
      · right
        have nonzero : amount ≠ 0 := by
          rintro rfl
          exact short (by decide)
        have digits : 2 ^ amount.log2 ≤ amount := Nat.log2_self_le nonzero
        rw [Nat.le_div_iff_mul_le (Nat.two_pow_pos _)]
        calc
          binade * 2 ^ (amount.log2 - 52) = 2 ^ (52 + (amount.log2 - 52)) := by
            rw [Nat.pow_add]
            rfl
          _ = 2 ^ amount.log2 := by
            congr 1
            omega
          _ ≤ amount := digits
  obtain ⟨mantissa, shift, whole, quotient, small, normal⟩ := split
  obtain ⟨here, next⟩ := units_of_mantissa small normal
  rw [whole, here, next, quotient]
  constructor
  · exact Nat.div_mul_le_self amount _
  · rw [Nat.mul_comm]
    exact Nat.lt_mul_div_succ amount (Nat.two_pow_pos shift)

/-! ## The nearest rank -/

/-- How far a fraction is from the number of a rank, as a multiple of
`2 ^ -1074` over the denominator. -/
def distance (numerator denominator rank : Nat) : Nat :=
  ((numerator : Int) - units rank * denominator).natAbs

/-- No rank is nearer to the fraction, and where another one is equally near
this one is even. -/
structure IsNearest (numerator denominator rank : Nat) : Prop where
  least : ∀ other, distance numerator denominator rank ≤
    distance numerator denominator other
  even : ∀ other, other ≠ rank →
    distance numerator denominator other =
      distance numerator denominator rank → rank % 2 = 0

theorem rankOf_div_spec (numerator : Nat) {denominator : Nat}
    (positive : 0 < denominator) :
    units (rankOf (numerator / denominator)) * denominator ≤ numerator ∧
      numerator <
        units (rankOf (numerator / denominator) + 1) * denominator := by
  obtain ⟨lower, upper⟩ := rankOf_spec (numerator / denominator)
  exact ⟨(Nat.le_div_iff_mul_le positive).mp lower,
    (Nat.div_lt_iff_lt_mul positive).mp upper⟩

section

variable {numerator denominator rank other : Nat}

/-- A fraction lies between two neighbouring ranks, and every other rank is
further away from it than one of these. -/
theorem distance_neighbours (numerator : Nat) {denominator : Nat}
    (positive : 0 < denominator) :
    let below := rankOf (numerator / denominator)
    (distance numerator denominator below : Int) =
        numerator - units below * denominator ∧
      (distance numerator denominator (below + 1) : Int) =
        units (below + 1) * denominator - numerator ∧
      ∀ other, other ≠ below → other ≠ below + 1 →
        distance numerator denominator below <
            distance numerator denominator other ∨
          distance numerator denominator (below + 1) <
            distance numerator denominator other := by
  intro below
  have between : units below * denominator ≤ numerator ∧
      numerator < units (below + 1) * denominator :=
    rankOf_div_spec numerator positive
  clear_value below
  have scaled : ∀ {left right : Nat}, left < right →
      units left * denominator < units right * denominator :=
    fun ordered => Nat.mul_lt_mul_of_pos_right (units_strictMono ordered)
      positive
  unfold distance
  simp only [← Int.natCast_mul]
  refine ⟨by omega, by omega, ?_⟩
  intro other notBelow notNext
  rcases Nat.lt_or_gt_of_ne notBelow with small | large
  · have further := scaled small
    omega
  · have beyond : below + 1 < other :=
      Nat.lt_of_le_of_ne large (Ne.symm notNext)
    have further := scaled beyond
    omega

/-- The nearer one of two neighbours is nearest, and of two that are equally
near the even one. -/
theorem isNearest_of_neighbour {sibling : Nat}
    (others : ∀ other, other ≠ rank → other ≠ sibling →
      distance numerator denominator rank <
          distance numerator denominator other ∨
        distance numerator denominator sibling <
          distance numerator denominator other)
    (near : distance numerator denominator rank ≤
      distance numerator denominator sibling)
    (even : distance numerator denominator sibling =
      distance numerator denominator rank → rank % 2 = 0) :
    IsNearest numerator denominator rank := by
  have further : ∀ other, other ≠ rank → other ≠ sibling →
      distance numerator denominator rank <
        distance numerator denominator other := by
    intro other notRank notSibling
    rcases others other notRank notSibling with less | less
    · exact less
    · exact Nat.lt_of_le_of_lt near less
  constructor
  · intro other
    by_cases isRank : other = rank
    · rw [isRank]
    · by_cases isSibling : other = sibling
      · rw [isSibling]
        exact near
      · exact Nat.le_of_lt (further other isRank isSibling)
  · intro other notRank equal
    by_cases isSibling : other = sibling
    · exact even (isSibling ▸ equal)
    · exact absurd equal (Nat.ne_of_gt (further other notRank isSibling))

theorem isNearest_nearestRank (numerator : Nat) {denominator : Nat}
    (positive : 0 < denominator) :
    IsNearest numerator denominator (nearestRank numerator denominator) := by
  obtain ⟨lower, upper, others⟩ := distance_neighbours numerator positive
  have flipped := fun other notNext notBelow =>
    (others other notBelow notNext).symm
  unfold nearestRank
  generalize rankOf (numerator / denominator) = below at *
  dsimp only
  rw [Nat.add_mul]
  simp only [← Int.natCast_mul] at lower upper
  split
  · exact isNearest_of_neighbour others (by omega) (by omega)
  · split
    · exact isNearest_of_neighbour flipped (by omega) (by omega)
    · split
      · exact isNearest_of_neighbour others (by omega) (by omega)
      · exact isNearest_of_neighbour flipped (by omega) (by omega)

theorem IsNearest.unique (positive : 0 < denominator)
    (isNearest : IsNearest numerator denominator rank)
    (same : IsNearest numerator denominator other) : rank = other := by
  obtain ⟨-, -, others⟩ := distance_neighbours numerator positive
  generalize rankOf (numerator / denominator) = below at others
  have isNeighbour : ∀ {rank}, IsNearest numerator denominator rank →
      rank = below ∨ rank = below + 1 := by
    intro rank isNearest
    by_contra elsewhere
    rw [not_or] at elsewhere
    rcases others rank elsewhere.1 elsewhere.2 with less | less
    · exact Nat.not_le.mpr less (isNearest.least below)
    · exact Nat.not_le.mpr less (isNearest.least (below + 1))
  by_contra apart
  have equal := Nat.le_antisymm (isNearest.least other) (same.least rank)
  have evenRank := isNearest.even other (Ne.symm apart) equal.symm
  have evenOther := same.even rank apart equal
  have near := isNeighbour isNearest
  have nearOther := isNeighbour same
  omega

/-- Less than half of the smallest positive number is rounded to zero. -/
theorem nearestRank_eq_zero (small : 2 * numerator < denominator) :
    nearestRank numerator denominator = 0 := by
  have noUnits : numerator / denominator = 0 := Nat.div_eq_of_lt (by omega)
  have first : rankOf 0 = 0 := rfl
  have middle : units 0 + units (0 + 1) = 1 := rfl
  rw [nearestRank, noUnits, first]
  simp only [middle, Nat.one_mul, if_pos small]

/-- Rounding finds the nearest rank. -/
theorem nearestRank_eq_iff (positive : 0 < denominator) :
    nearestRank numerator denominator = rank ↔
      IsNearest numerator denominator rank := by
  have isNearest := isNearest_nearestRank numerator positive
  constructor
  · rintro rfl
    exact isNearest
  · exact isNearest.unique positive

end

/-! ## Where the finite numbers end -/

/-- A number is rounded beyond an odd rank if it is half way to the next rank
or more. -/
theorem lt_nearestRank_iff {rank numerator denominator : Nat}
    (odd : rank % 2 = 1) (positive : 0 < denominator) :
    rank < nearestRank numerator denominator ↔
      (units rank + units (rank + 1)) * denominator ≤ 2 * numerator := by
  have between := rankOf_div_spec numerator positive
  unfold nearestRank
  generalize rankOf (numerator / denominator) = below at between
  dsimp only
  have scaled : ∀ {left right : Nat}, left ≤ right →
      units left * denominator ≤ units right * denominator :=
    fun ordered => Nat.mul_le_mul_right _ (units_strictMono.monotone ordered)
  rw [Nat.add_mul, Nat.add_mul]
  rcases Nat.lt_trichotomy below rank with small | rfl | large
  · have here : units (below + 1) * denominator ≤ units rank * denominator :=
      scaled small
    have next : units rank * denominator ≤ units (rank + 1) * denominator :=
      scaled (Nat.le_succ rank)
    constructor
    · intro beyond
      split at beyond
      · omega
      · split at beyond
        · omega
        · split at beyond <;> omega
    · intro half
      omega
  · constructor
    · intro beyond
      split at beyond
      · omega
      · omega
    · intro half
      rw [if_neg (Nat.not_lt.mpr half)]
      split
      · omega
      · rw [if_neg (by omega)]
        omega
  · have here : units rank * denominator ≤ units below * denominator :=
      scaled (Nat.le_of_lt large)
    have next : units (rank + 1) * denominator ≤ units below * denominator :=
      scaled large
    constructor
    · intro
      omega
    · intro
      split
      · exact large
      · split
        · omega
        · split <;> omega

/-- The numbers at a rank with the greatest mantissa and at the next one. -/
theorem units_of_full_mantissa (shift : Nat) :
    units (shift * binade + (2 * binade - 1)) +
        units (shift * binade + (2 * binade - 1) + 1) =
      (2 ^ 54 - 1) * 2 ^ shift := by
  have bounds : 2 * binade - 1 < 2 * binade ∧ binade ≤ 2 * binade - 1 := by
    decide
  have twice : 2 * binade - 1 + (2 * binade - 1 + 1) = 2 ^ 54 - 1 := by decide
  have levels : units (shift * binade + (2 * binade - 1)) =
        (2 * binade - 1) * 2 ^ shift ∧
      units (shift * binade + (2 * binade - 1) + 1) =
        (2 * binade - 1 + 1) * 2 ^ shift :=
    units_of_mantissa bounds.1 (Or.inr bounds.2)
  rw [levels.1, levels.2, ← Nat.add_mul, twice]

/-- Where the finite numbers end; the number half way to the next power of two
is rounded beyond them. -/
theorem infiniteRank_le_nearestRank_iff {numerator denominator : Nat}
    (positive : 0 < denominator) :
    infiniteRank ≤ nearestRank numerator denominator ↔
      (2 ^ 54 - 1) * 2 ^ 2045 * denominator ≤ 2 * numerator := by
  have top : infiniteRank = 2045 * binade + (2 * binade - 1) + 1 := by decide
  rw [← units_of_full_mantissa 2045, top, Nat.succ_le_iff]
  exact lt_nearestRank_iff (by decide) positive

theorem ofRank?_eq_some_iff {negative : Bool} {rank : Nat}
    {number : Binary64} :
    ofRank? negative rank = some number ↔
      number.IsFinite ∧ number.negative = negative ∧
        number.rank.val = rank := by
  unfold ofRank?
  constructor
  · intro found
    split at found
    case isTrue bound =>
      cases found
      exact ⟨bound, rfl, rfl⟩
    case isFalse => exact nomatch found
  · rintro ⟨finite, rfl, rfl⟩
    exact dif_pos finite

-- The powers are too large to be computed, so their exponents are kept from
-- being taken as literals.
theorem exists_unitsOfOne : ∃ places, places = 1074 ∧
    unitsOfOne = 2 ^ places := by
  unfold unitsOfOne
  generalize 1074 = places
  exact ⟨places, rfl, Nat.one_shiftLeft places⟩

theorem unitsOfOne_pos : 0 < unitsOfOne := by
  obtain ⟨places, -, power⟩ := exists_unitsOfOne
  rw [power]
  exact Nat.two_pow_pos places

end Binary64

namespace Decimal

/-! ## Decimals that are too large -/

/-- Half way from the greatest finite number to the next power of two. -/
def overflowBound : Nat := (2 ^ 54 - 1) * 2 ^ 970

/-- The magnitude reaches the bound from which on it is rounded to infinity. -/
def Overflows (decimal : Decimal) : Prop :=
  overflowBound * 10 ^ (-decimal.exponent).toNat ≤
    decimal.digits * 10 ^ decimal.exponent.toNat

theorem overflowBound_le {places : Nat} (large : 1024 ≤ places) :
    overflowBound ≤ 2 ^ places := by
  have split : places = 54 + 970 + (places - 1024) := by omega
  unfold overflowBound
  generalize 970 = behind at split
  rw [split, Nat.pow_add, Nat.pow_add]
  calc
    (2 ^ 54 - 1) * 2 ^ behind ≤ 2 ^ 54 * 2 ^ behind :=
      Nat.mul_le_mul_right _ (Nat.sub_le _ 1)
    _ ≤ 2 ^ 54 * 2 ^ behind * 2 ^ (places - 1024) :=
      Nat.le_mul_of_pos_right _ (Nat.two_pow_pos _)

theorem overflowBound_mul_unitsOfOne :
    overflowBound * (Binary64.unitsOfOne * 2) = (2 ^ 54 - 1) * 2 ^ 2045 := by
  have split : 2045 = 970 + (1074 + 1) := rfl
  unfold overflowBound Binary64.unitsOfOne
  rw [split]
  generalize 970 = behind
  generalize 1074 = places
  rw [Nat.one_shiftLeft, ← Nat.pow_succ, Nat.mul_assoc, ← Nat.pow_add]

theorem two_pow_three_mul_le (places : Nat) : 2 ^ (3 * places) ≤ 10 ^ places := by
  rw [Nat.pow_mul]
  exact Nat.pow_le_pow_left (by decide) places

/-- Powers of ten that are shown to be too large by their exponent alone. -/
theorem overflows_of_le {decimal : Decimal} (nonzero : decimal.digits ≠ 0)
    (large : 1024 ≤ 3 * decimal.exponent) : decimal.Overflows := by
  have whole : (-decimal.exponent).toNat = 0 := by omega
  have places : 1024 ≤ 3 * decimal.exponent.toNat := by omega
  rw [Overflows, whole, Nat.pow_zero, Nat.mul_one]
  calc
    overflowBound ≤ 2 ^ (3 * decimal.exponent.toNat) := overflowBound_le places
    _ ≤ 10 ^ decimal.exponent.toNat := two_pow_three_mul_le _
    _ ≤ decimal.digits * 10 ^ decimal.exponent.toNat :=
      Nat.le_mul_of_pos_left _ (Nat.pos_of_ne_zero nonzero)

/-- The fraction of a decimal, with the power of ten on one side only. -/
theorem fraction_eq (decimal : Decimal) :
    decimal.fraction =
      (decimal.digits * Binary64.unitsOfOne * 10 ^ decimal.exponent.toNat,
        10 ^ (-decimal.exponent).toNat) := by
  by_cases whole : 0 ≤ decimal.exponent
  · have noPlaces : (-decimal.exponent).toNat = 0 := by omega
    rw [fraction, if_pos whole, noPlaces, Nat.pow_zero, Nat.pow_eq]
  · have noPlaces : decimal.exponent.toNat = 0 := by omega
    rw [fraction, if_neg whole, noPlaces, Nat.pow_zero, Nat.mul_one,
      Nat.pow_eq]

theorem fraction_pos (decimal : Decimal) : 0 < decimal.fraction.2 := by
  rw [fraction_eq]
  exact Nat.pow_pos (by decide)

/-- A fraction is rounded beyond the finite numbers if its decimal
overflows. -/
theorem infiniteRank_le_nearestRank_fraction_iff (decimal : Decimal) :
    Binary64.infiniteRank ≤
        Binary64.nearestRank decimal.fraction.1 decimal.fraction.2 ↔
      decimal.Overflows := by
  have doubled : 2 * (decimal.digits * Binary64.unitsOfOne *
        10 ^ decimal.exponent.toNat) =
      decimal.digits * 10 ^ decimal.exponent.toNat *
        (Binary64.unitsOfOne * 2) := by
    rw [Nat.mul_right_comm, Nat.mul_comm 2, Nat.mul_assoc]
  have bound : overflowBound * (Binary64.unitsOfOne * 2) *
        10 ^ (-decimal.exponent).toNat =
      overflowBound * 10 ^ (-decimal.exponent).toNat *
        (Binary64.unitsOfOne * 2) :=
    Nat.mul_right_comm _ _ _
  have positive : 0 < Binary64.unitsOfOne * 2 :=
    Nat.mul_pos Binary64.unitsOfOne_pos (by decide)
  rw [Binary64.infiniteRank_le_nearestRank_iff decimal.fraction_pos,
    fraction_eq, ← overflowBound_mul_unitsOfOne, doubled, bound, Overflows]
  exact Nat.mul_le_mul_right_iff positive

/-! ## The rounding of decimals -/

/-- Powers of ten that are shown to be too small by their exponent alone. -/
theorem nearestRank_fraction_of_le {decimal : Decimal}
    (small : decimal.digits = 0 ∨
      decimal.digits.log2 + 1 + 3 * decimal.exponent ≤ -1075) :
    Binary64.nearestRank decimal.fraction.1 decimal.fraction.2 = 0 := by
  apply Binary64.nearestRank_eq_zero
  rw [fraction_eq]
  rcases small with isZero | small
  · rw [isZero, Nat.zero_mul, Nat.zero_mul]
    exact Nat.pow_pos (by decide)
  · have noPlaces : decimal.exponent.toNat = 0 := by omega
    rw [noPlaces, Nat.pow_zero, Nat.mul_one]
    obtain ⟨places, count, unitsOfOne⟩ := Binary64.exists_unitsOfOne
    have room : decimal.digits.log2 + 1 + (places + 1) ≤
        3 * (-decimal.exponent).toNat := by omega
    calc
      2 * (decimal.digits * Binary64.unitsOfOne) =
          decimal.digits * 2 ^ (places + 1) := by
        rw [unitsOfOne, Nat.pow_succ, Nat.mul_left_comm,
          Nat.mul_comm 2]
      _ < 2 ^ (decimal.digits.log2 + 1) * 2 ^ (places + 1) :=
        Nat.mul_lt_mul_of_pos_right Nat.lt_log2_self (Nat.two_pow_pos _)
      _ = 2 ^ (decimal.digits.log2 + 1 + (places + 1)) := (Nat.pow_add ..).symm
      _ ≤ 2 ^ (3 * (-decimal.exponent).toNat) :=
        Nat.pow_le_pow_right (by decide) room
      _ ≤ 10 ^ (-decimal.exponent).toNat := two_pow_three_mul_le _

/-- The comparisons of magnitudes agree with the exact arithmetic that they
avoid. -/
theorem rank_cases (decimal : Decimal) :
    decimal.rank =
        Binary64.nearestRank decimal.fraction.1 decimal.fraction.2 ∨
      decimal.rank = Binary64.infiniteRank ∧ decimal.Overflows := by
  unfold rank
  split
  case isTrue isZero =>
    exact Or.inl (nearestRank_fraction_of_le (Or.inl isZero)).symm
  case isFalse nonzero =>
    split
    case isTrue large => exact Or.inr ⟨rfl, overflows_of_le nonzero large⟩
    case isFalse =>
      split
      case isTrue small =>
        exact Or.inl (nearestRank_fraction_of_le (Or.inr small)).symm
      case isFalse => exact Or.inl rfl

/-- The number is the finite one that the decimal is rounded to: it has the
sign of the decimal, no number of any rank is nearer to the magnitude, and
where another one is equally near the rank is even. -/
structure RoundsTo (decimal : Decimal) (number : Binary64) : Prop where
  finite : number.IsFinite
  sign : number.negative = decimal.negative
  nearest : Binary64.IsNearest
    (decimal.digits * Binary64.unitsOfOne * 10 ^ decimal.exponent.toNat)
    (10 ^ (-decimal.exponent).toNat) number.rank

/-- The nearest number of a decimal is the one that it is rounded to. -/
theorem nearest?_eq_some_iff {decimal : Decimal} {number : Binary64} :
    decimal.nearest? = some number ↔ decimal.RoundsTo number := by
  have nearestRank_iff : Binary64.nearestRank decimal.fraction.1
        decimal.fraction.2 = number.rank ↔ _ :=
    Binary64.nearestRank_eq_iff decimal.fraction_pos
  rw [fraction_eq] at nearestRank_iff
  constructor
  · intro found
    obtain ⟨finite, sign, rank⟩ := Binary64.ofRank?_eq_some_iff.mp found
    refine ⟨finite, sign, nearestRank_iff.mp ?_⟩
    rcases decimal.rank_cases with exactly | ⟨infinite, -⟩
    · rw [rank, exactly, fraction_eq]
    · rw [Binary64.IsFinite, rank, infinite] at finite
      exact absurd finite (Nat.lt_irrefl _)
  · rintro ⟨finite, sign, nearest⟩
    refine nearest?_eq_some finite sign.symm ?_
    have rounded := nearestRank_iff.mpr nearest
    rcases decimal.rank_cases with exactly | ⟨-, overflows⟩
    · rw [exactly, fraction_eq, rounded]
    · have beyond := (infiniteRank_le_nearestRank_fraction_iff decimal).mpr
        overflows
      rw [fraction_eq, rounded] at beyond
      exact absurd finite (Nat.not_lt.mpr beyond)

end Decimal

end PalletTypes
