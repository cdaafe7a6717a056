import PalletTypes.Decimal.Shortest
import PalletTypes.Proofs.Binary64
import PalletTypes.Proofs.Numeral

/-!
# The text of a number is read back as the number

A text that was found on a grid was read back before it was taken.  The exact
expansion, which closes the search, is rounded to the number it expands.
-/

namespace PalletTypes

theorem five_pow_shiftLeft (places : Nat) :
    Nat.pow 5 places <<< places = Nat.pow 10 places := by
  rw [Nat.shiftLeft_eq]
  exact (Nat.mul_pow 5 2 places).symm

/-- Five is more than two binary digits. -/
theorem le_log2_mul_five_pow {number : Nat} (positive : 0 < number)
    (places : Nat) : 2 * places ≤ (number * Nat.pow 5 places).log2 := by
  have fives : 0 < Nat.pow 5 places := Nat.pow_pos (by decide)
  have nonzero : number * Nat.pow 5 places ≠ 0 :=
    Nat.ne_of_gt (Nat.mul_pos positive fives)
  rw [Nat.le_log2 nonzero, Nat.pow_mul]
  calc
    (2 ^ 2) ^ places ≤ 5 ^ places := Nat.pow_le_pow_left (by decide) places
    _ ≤ number * 5 ^ places := Nat.le_mul_of_pos_left _ positive

namespace Binary64

/-- The expansion has 1074 places, a number that is kept from being taken as a
literal: its powers are too large to be computed. -/
theorem expansion_eq (number : Binary64) :
    ∃ places, places = 1074 ∧
      number.expansion = units number.rank * Nat.pow 5 places ∧
      unitsOfOne = 1 <<< places := by
  unfold expansion unitsOfOne
  generalize 1074 = places
  exact ⟨places, rfl, rfl, rfl⟩

end Binary64

namespace Decimal

theorem fraction_of_neg (negative : Bool) (digits : Nat) {exponent : Int}
    (places : Nat) (behind : exponent = -(places : Int))
    (positive : 0 < places) :
    fraction ⟨negative, digits, exponent⟩ =
      (digits * Binary64.unitsOfOne, Nat.pow 10 places) := by
  have isNeg : ¬0 ≤ exponent := by omega
  have whole : (-exponent).toNat = places := by omega
  simp only [fraction, isNeg, if_false, whole]

theorem rank_expansion (number : Binary64) :
    rank ⟨number.negative, number.expansion, -1074⟩ = number.rank := by
  obtain ⟨places, count, expansion, unitsOfOne⟩ := number.expansion_eq
  rcases Nat.eq_zero_or_pos number.rank.val with isZero | positive
  · have noUnits : Binary64.units 0 = 0 := rfl
    rw [isZero, noUnits, Nat.zero_mul] at expansion
    rw [rank, if_pos expansion, isZero]
  · have digits : 2 * places ≤ number.expansion.log2 := by
      rw [expansion]
      exact le_log2_mul_five_pow (Binary64.units_pos positive) places
    have nonzero : number.expansion ≠ 0 := by
      intro isZero
      rw [isZero, Nat.log2_zero] at digits
      omega
    have notTiny : ¬(number.expansion.log2 : Int) + 1 + 3 * -1074 ≤ -1075 := by
      omega
    have quotient : fraction ⟨number.negative, number.expansion, -1074⟩ =
        (Binary64.units number.rank * Nat.pow 10 places,
          Nat.pow 10 places) := by
      rw [fraction_of_neg _ _ places (by omega) (by omega),
        expansion, unitsOfOne, Nat.shiftLeft_eq, Nat.one_mul, Nat.mul_assoc,
        ← Nat.shiftLeft_eq, five_pow_shiftLeft]
    rw [rank, if_neg nonzero, if_neg (by simp), if_neg notTiny, quotient]
    exact Binary64.nearestRank_units _ (Nat.pow_pos (by decide))

theorem nearest?_eq_some {decimal : Decimal} {number : Binary64}
    (finite : number.IsFinite) (sign : decimal.negative = number.negative)
    (rank : decimal.rank = number.rank) :
    decimal.nearest? = some number := by
  have bound : number.rank.val < Binary64.infiniteRank := finite
  simp [nearest?, rank, sign, Binary64.ofRank?, bound]

end Decimal

namespace Binary64

theorem ofChars?_exactText {number : Binary64} (finite : number.IsFinite) :
    ofChars? number.exactText = some number := by
  have exponent : Numeral.exponent? ['-', '1', '0', '7', '4'] =
      some (true, ['1', '0', '7', '4']) := by decide
  have numeral : Numeral.ofChars? number.exactText =
      some ⟨number.negative, Nat.toDigits 10 number.expansion, none,
        some (true, ['1', '0', '7', '4'])⟩ := by
    have unsigned := Numeral.unsigned?_toDigits_exponent number.negative
      number.expansion ['-', '1', '0', '7', '4']
    rw [exponent] at unsigned
    cases sign : number.negative with
    | true =>
        rw [sign] at unsigned
        simpa [exactText, signed, sign, Numeral.ofChars?] using unsigned
    | false =>
        rw [sign] at unsigned
        simpa [exactText, signed, sign, Numeral.ofChars?_toDigits_append]
          using unsigned
  rw [ofChars?, numeral, Option.bind_some]
  apply Decimal.nearest?_eq_some finite rfl
  have decimal : Numeral.decimal ⟨number.negative,
      Nat.toDigits 10 number.expansion, none,
      some (true, ['1', '0', '7', '4'])⟩ =
        ⟨number.negative, number.expansion, -1074⟩ := by
    simp only [Numeral.decimal, Option.getD_none, List.append_nil,
      Numeral.natOfDigits_toDigits]
    rfl
  rw [decimal, Decimal.rank_expansion]

/-- A text on a grid was read back before it was taken. -/
theorem ofChars?_of_onGrid? {style : NumberStyle} {number : Binary64}
    {dropped : Nat} {chars : List Char}
    (found : onGrid? style number dropped = some chars) :
    ofChars? chars = some number := by
  simp only [onGrid?] at found
  split at found
  case isTrue readsLower =>
    split at found
    case isTrue both => exact Option.some.inj found ▸ both.1
    case isFalse => exact Option.some.inj found ▸ readsLower
  case isFalse =>
    split at found
    case isTrue readsUpper => exact Option.some.inj found ▸ readsUpper
    case isFalse => exact nomatch found

theorem shortest_cases (style : NumberStyle) (number : Binary64) :
    shortest style number = number.exactText ∨
      ∃ dropped, onGrid? style number dropped =
        some (shortest style number) := by
  let width := (Nat.toDigits 10 number.expansion).length
  let onCount : Nat → Option (List Char) := fun count =>
    if count < width then onGrid? style number (width - 1 - count) else none
  have searched : shortest style number =
      ((List.range 17).findSome? onCount).getD number.exactText := rfl
  rw [searched]
  cases found : (List.range 17).findSome? onCount with
  | none => exact Or.inl rfl
  | some chars =>
      right
      obtain ⟨count, -, onGrid⟩ := List.exists_of_findSome?_eq_some found
      by_cases inside : count < width
      · exact ⟨width - 1 - count, by simpa [onCount, inside] using onGrid⟩
      · simp [onCount, inside] at onGrid

/-- The text of a finite number is read back as the number. -/
theorem ofChars?_text (style : NumberStyle) {number : Binary64}
    (finite : number.IsFinite) :
    ofChars? (text style number) = some number := by
  unfold text
  split
  case isTrue isZero =>
    obtain ⟨negative, rank⟩ := number
    have rankZero : rank = ⟨0, by decide⟩ := Fin.ext isZero
    subst rankZero
    cases negative <;> rfl
  case isFalse =>
    rcases shortest_cases style number with exactly | ⟨dropped, onGrid⟩
    · rw [exactly, ofChars?_exactText finite]
    · exact ofChars?_of_onGrid? onGrid

/-! ## The text of a number is not taken for an integer -/

theorem mem_scientific (exponentWidth : Nat) (digits : List Char)
    (place : Int) : 'e' ∈ scientific exponentWidth digits place := by
  have mark : 'e' ∈ if place < 0 then ['e', '-'] else ['e', '+'] := by
    split <;> simp
  simp [scientific, mark]

theorem isMarked_layout (style : NumberStyle) (digits : Nat) (exponent : Int) :
    '.' ∈ layout style digits exponent ∨
      'e' ∈ layout style digits exponent := by
  simp only [layout]
  split
  · left
    unfold positional
    split
    · simp
    · dsimp only
      split <;> simp
  · exact Or.inr (mem_scientific _ _ _)

theorem mem_signed {number : Binary64} {char : Char} {magnitude : List Char}
    (member : char ∈ magnitude) : char ∈ number.signed magnitude := by
  unfold signed
  split
  · exact List.mem_cons_of_mem _ member
  · exact member

theorem isMarked_signed {number : Binary64} {magnitude : List Char}
    (marked : '.' ∈ magnitude ∨ 'e' ∈ magnitude) :
    '.' ∈ number.signed magnitude ∨ 'e' ∈ number.signed magnitude :=
  marked.imp mem_signed mem_signed

theorem isMarked_of_onGrid? {style : NumberStyle} {number : Binary64}
    {dropped : Nat} {chars : List Char}
    (found : onGrid? style number dropped = some chars) :
    '.' ∈ chars ∨ 'e' ∈ chars := by
  simp only [onGrid?] at found
  split at found
  · split at found <;> exact Option.some.inj found ▸
      isMarked_signed (isMarked_layout _ _ _)
  · split at found
    · exact Option.some.inj found ▸ isMarked_signed (isMarked_layout _ _ _)
    · exact nomatch found

/-- A point or an exponent mark is written in every number. -/
theorem isMarked_text (style : NumberStyle) (number : Binary64) :
    '.' ∈ text style number ∨ 'e' ∈ text style number := by
  unfold text
  split
  · exact isMarked_signed (Or.inl (by simp))
  · rcases shortest_cases style number with exactly | ⟨dropped, onGrid⟩
    · rw [exactly, exactText]
      exact isMarked_signed (Or.inr (by simp))
    · exact isMarked_of_onGrid? onGrid

end Binary64

end PalletTypes
