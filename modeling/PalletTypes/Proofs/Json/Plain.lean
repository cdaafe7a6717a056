import PalletTypes.Json.Reader
import PalletTypes.Proofs.Decimal.Shortest
import PalletTypes.Proofs.Json.Layout

/-!
# Integers and floating-point numbers are told apart

An integer is written in digits only and read back as the integer.  The text
of a floating-point number has a point or an exponent mark, so that it is read
back as a floating-point number also where an integer would do.
-/

namespace PalletTypes.Json

theorem numeral_integerLayout (number : Int) :
    Numeral.ofChars? (integerLayout number) =
      some ⟨decide (number < 0), Nat.toDigits 10 number.natAbs, none, none⟩ := by
  unfold integerLayout
  by_cases negative : number < 0
  · simp only [negative, if_true, decide_true, Numeral.ofChars?]
    exact Numeral.unsigned?_toDigits true number.natAbs
  · simp only [negative, if_false, decide_false]
    have unsigned := Numeral.ofChars?_toDigits_append number.natAbs []
    rw [List.append_nil] at unsigned
    rw [unsigned]
    exact Numeral.unsigned?_toDigits false number.natAbs

theorem isNumber_integerLayout (number : Int) :
    IsNumber (integerLayout number) :=
  Numeral.isNumber_of_ofChars? (numeral_integerLayout number)

/-- An integer of a word is read back as the integer. -/
theorem plainValue?_integerLayout {number : Int}
    (isWord : isWordInteger number = true) :
    plainValue? (.number (integerLayout number)) = some (.int number) := by
  have integer : Numeral.integer ⟨decide (number < 0),
      Nat.toDigits 10 number.natAbs, none, none⟩ = number := by
    simp only [Numeral.integer, Numeral.natOfDigits_toDigits]
    by_cases negative : number < 0
    · simp only [negative, decide_true, if_true]
      omega
    · simp only [negative, decide_false]
      simp only [Bool.false_eq_true, if_false]
      omega
  simp [plainValue?, numeral_integerLayout, numeralValue?, integer, isWord,
    Numeral.isInteger]

theorem exists_numeral_text {number : Binary64} (finite : number.IsFinite) :
    ∃ numeral, Numeral.ofChars? (Binary64.text numberStyle number) = some numeral ∧
      numeral.decimal.nearest? = some number :=
  Option.bind_eq_some_iff.mp (Binary64.ofChars?_text numberStyle finite)

theorem isNumber_text {number : Binary64} (finite : number.IsFinite) :
    IsNumber (Binary64.text numberStyle number) := by
  obtain ⟨numeral, read, -⟩ := exists_numeral_text finite
  exact Numeral.isNumber_of_ofChars? read

/-- A finite number is read back as the number, and never as an integer. -/
theorem plainValue?_text {number : Binary64} (finite : number.IsFinite) :
    plainValue? (.number (Binary64.text numberStyle number)) =
      some (.float number) := by
  obtain ⟨numeral, read, nearest⟩ := exists_numeral_text finite
  have noInteger : numeral.isInteger = false :=
    Numeral.isInteger_eq_false read (Binary64.isMarked_text numberStyle number)
  simp [plainValue?, read, numeralValue?, noInteger, nearest]

end PalletTypes.Json
