import PalletTypes.Proofs.Json.Grammar
import PalletTypes.Proofs.Numeral

/-!
# The grammar of numbers is the one that is read

A numeral is read exactly if it is spelled by the rules: cutting at the
exponent mark and at the point finds the pieces that were put together.
-/

namespace PalletTypes

namespace Numeral

variable {chars : List Char}

theorem all_isDigit_of_isDigits (areDigits : isDigits chars = true) :
    ∀ char ∈ chars, char.isDigit = true := by
  rw [isDigits, Bool.and_eq_true] at areDigits
  exact List.all_eq_true.mp areDigits.2

theorem isDigits_of_isWhole (whole : isWhole chars = true) :
    isDigits chars = true := by
  rw [isWhole, Bool.and_eq_true] at whole
  exact whole.1

/-- A numeral starts with a digit or with its sign. -/
theorem exists_digit_of_isDigits (areDigits : isDigits chars = true) :
    ∃ first rest, chars = first :: rest ∧ first.isDigit = true := by
  cases chars with
  | nil => exact absurd areDigits (by decide)
  | cons first rest =>
      exact ⟨first, rest, rfl,
        all_isDigit_of_isDigits areDigits first List.mem_cons_self⟩

/-! ## Exponents -/

/-- What stands behind the mark of an exponent. -/
theorem exponent?_eq_some_iff {exponent : Bool × List Char} {mark : Char}
    (isMark : mark = 'e' ∨ mark = 'E') :
    exponent? chars = some exponent ↔
      SpellsExponent (mark :: chars) (some exponent) := by
  constructor
  · intro read
    unfold exponent? at read
    split at read <;> split at read
    case h_1.isTrue digits areDigits =>
      cases read
      exact .negative isMark areDigits
    case h_2.isTrue digits areDigits =>
      cases read
      exact .positive isMark areDigits
    case h_3.isTrue areDigits =>
      cases read
      exact .unsigned isMark areDigits
    all_goals exact nomatch read
  · intro spelled
    cases spelled with
    | unsigned _ areDigits =>
        obtain ⟨first, rest, rfl, digit⟩ := exists_digit_of_isDigits areDigits
        unfold exponent?
        split
        · exact absurd digit (by simp_all)
        · exact absurd digit (by simp_all)
        · rw [if_pos areDigits]
    | positive _ areDigits => simp [exponent?, areDigits]
    | negative _ areDigits => simp [exponent?, areDigits]

/-! ## Unsigned numerals -/

theorem isExponentMark_iff {char : Char} :
    isExponentMark char = true ↔ char = 'e' ∨ char = 'E' := by
  simp [isExponentMark]

/-- A fraction is cut off at its point. -/
theorem cutAt_fraction {whole : List Char} {fraction : Option (List Char)}
    (areDigits : isDigits whole = true) (spelled : SpellsFraction chars fraction) :
    cutAt (· == '.') (whole ++ chars) = (whole, fraction) := by
  have unmarked : ∀ char ∈ whole, (char == '.') = false := fun char member =>
    isPoint_of_isDigit char (all_isDigit_of_isDigits areDigits char member)
  cases spelled with
  | absent =>
      rw [List.append_nil]
      exact cutAt_of_forall_not unmarked
  | digits _ => exact cutAt_append unmarked (beq_self_eq_true '.')

theorem all_isDigits_of_spellsFraction {fraction : Option (List Char)}
    (spelled : SpellsFraction chars fraction) :
    fraction.all isDigits = true := by
  cases spelled with
  | absent => rfl
  | digits areDigits => exact areDigits

theorem isExponentMark_of_mem_mantissa {whole : List Char}
    {fraction : Option (List Char)} (areDigits : isDigits whole = true)
    (spelled : SpellsFraction chars fraction) :
    ∀ char ∈ whole ++ chars, isExponentMark char = false := by
  have unmarked : ∀ {digits : List Char}, isDigits digits = true →
      ∀ char ∈ digits, isExponentMark char = false :=
    fun areDigits char member => isExponentMark_of_isDigit char
      (all_isDigit_of_isDigits areDigits char member)
  intro char member
  rcases List.mem_append.mp member with inWhole | inFraction
  · exact unmarked areDigits char inWhole
  · cases spelled with
    | absent => exact nomatch inFraction
    | digits fractionDigits =>
        rcases List.mem_cons.mp inFraction with rfl | inDigits
        · decide
        · exact unmarked fractionDigits char inDigits

/-- A spelled exponent that is not absent stands behind a mark. -/
theorem exists_mark_of_spellsExponent {exponent : Bool × List Char}
    (spelled : SpellsExponent chars (some exponent)) :
    ∃ mark text, chars = mark :: text ∧ isExponentMark mark = true ∧
      exponent? text = some exponent := by
  have behind : ∀ {mark text}, chars = mark :: text →
      (mark = 'e' ∨ mark = 'E') → ∃ mark text, chars = mark :: text ∧
        isExponentMark mark = true ∧ exponent? text = some exponent := by
    intro mark text same isMark
    rw [same] at spelled
    exact ⟨mark, text, same, isExponentMark_iff.mpr isMark,
      (exponent?_eq_some_iff isMark).mpr spelled⟩
  cases spelled with
  | unsigned isMark _ => exact behind rfl isMark
  | positive isMark _ => exact behind rfl isMark
  | negative isMark _ => exact behind rfl isMark

/-- An exponent is cut off at its mark. -/
theorem cutAt_exponent {mantissa : List Char}
    {exponent : Option (Bool × List Char)}
    (unmarked : ∀ char ∈ mantissa, isExponentMark char = false)
    (spelled : SpellsExponent chars exponent) :
    ∃ text, cutAt isExponentMark (mantissa ++ chars) = (mantissa, text) ∧
      ∀ isNegative {whole fraction},
        (isWhole whole && fraction.all isDigits) = true →
          ofPieces? isNegative whole fraction text =
            some ⟨isNegative, whole, fraction, exponent⟩ := by
  cases exponent with
  | none =>
      cases spelled
      refine ⟨none, ?_, ?_⟩
      · rw [List.append_nil]
        exact cutAt_of_forall_not unmarked
      · intro isNegative whole fraction good
        rw [ofPieces?, if_pos good]
  | some exponent =>
      obtain ⟨mark, text, rfl, isMark, read⟩ :=
        exists_mark_of_spellsExponent spelled
      refine ⟨some text, cutAt_append unmarked isMark, ?_⟩
      intro isNegative whole fraction good
      rw [ofPieces?, if_pos good]
      simp only [read, Option.bind_some]

/-- A spelled numeral is cut into its pieces again. -/
theorem unsigned?_of_spells {isNegative : Bool} {numeral : Numeral}
    (spelled : SpellsUnsigned isNegative chars numeral) :
    unsigned? isNegative chars = some numeral := by
  obtain ⟨wholePart, fractionPart, exponentPart⟩ := spelled
  have areDigits := isDigits_of_isWhole wholePart
  obtain ⟨text, cut, made⟩ := cutAt_exponent
    (isExponentMark_of_mem_mantissa areDigits fractionPart) exponentPart
  rw [unsigned?_eq, cut, cutAt_fraction areDigits fractionPart]
  apply made
  rw [wholePart, all_isDigits_of_spellsFraction fractionPart]
  rfl

/-- The pieces that a numeral is cut into spell it. -/
theorem spells_of_unsigned? {isNegative : Bool} {numeral : Numeral}
    (read : unsigned? isNegative chars = some numeral) :
    SpellsUnsigned isNegative chars numeral := by
  rw [unsigned?_eq] at read
  have mantissaSplit := cutAt_spec isExponentMark chars
  generalize cutAt isExponentMark chars = cut at read mantissaSplit
  obtain ⟨mantissa, exponentText⟩ := cut
  have wholeSplit := cutAt_spec (· == '.') mantissa
  generalize cutAt (· == '.') mantissa = parts at read wholeSplit
  obtain ⟨whole, fraction⟩ := parts
  simp only [ofPieces?] at read
  split at read
  case isFalse => cases read
  case isTrue good =>
    obtain ⟨wholePart, fractionDigits⟩ := Bool.and_eq_true_iff.mp good
    have fractionPart : ∃ fractionChars, mantissa = whole ++ fractionChars ∧
        SpellsFraction fractionChars fraction := by
      rcases wholeSplit with ⟨uncut, same, -⟩ | ⟨mark, rest, isPoint, cut, split⟩
      · dsimp only at uncut same
        subst uncut same
        exact ⟨[], (List.append_nil _).symm, .absent⟩
      · dsimp only at cut split
        subst cut
        rw [beq_iff_eq] at isPoint
        subst isPoint
        exact ⟨_, split, .digits fractionDigits⟩
    obtain ⟨fractionChars, rfl, fractionPart⟩ := fractionPart
    rcases mantissaSplit with ⟨uncut, same, -⟩ | ⟨mark, rest, isMark, cut, split⟩
    · dsimp only at uncut same
      subst uncut same
      cases read
      rw [← List.append_nil (whole ++ fractionChars)]
      exact .pieces wholePart fractionPart .absent
    · dsimp only at cut split
      subst cut split
      obtain ⟨exponent, readExponent, made⟩ := Option.bind_eq_some_iff.mp read
      cases made
      exact .pieces wholePart fractionPart
        ((exponent?_eq_some_iff (isExponentMark_iff.mp isMark)).mp readExponent)

/-! ## Numerals with their sign -/

theorem ne_minus_of_spells {isNegative : Bool} {numeral : Numeral}
    (spelled : SpellsUnsigned isNegative chars numeral) :
    ∀ rest, chars ≠ '-' :: rest := by
  obtain ⟨wholePart, -, -⟩ := spelled
  obtain ⟨first, others, rfl, digit⟩ :=
    exists_digit_of_isDigits (isDigits_of_isWhole wholePart)
  intro rest same
  cases same
  exact absurd digit (by decide)

/-- The numerals that are read are those of the grammar. -/
theorem ofChars?_eq_some_iff {numeral : Numeral} :
    ofChars? chars = some numeral ↔ Spells chars numeral := by
  constructor
  · intro read
    unfold ofChars? at read
    split at read
    · exact .negative (spells_of_unsigned? read)
    · exact .positive (spells_of_unsigned? read)
  · intro spelled
    cases spelled with
    | negative spelled => exact unsigned?_of_spells spelled
    | positive spelled =>
        unfold ofChars?
        split
        · exact absurd rfl (ne_minus_of_spells spelled _)
        · exact unsigned?_of_spells spelled

end Numeral

namespace Json

/-- The values of numerals are those of the grammar. -/
theorem plainValue?_number_eq_some_iff {chars : List Char} {value : Value} :
    plainValue? (.number chars) = some value ↔ IsNumeric chars value := by
  constructor
  · intro read
    obtain ⟨numeral, readNumeral, valued⟩ := Option.bind_eq_some_iff.mp read
    have spelled := Numeral.ofChars?_eq_some_iff.mp readNumeral
    unfold numeralValue? at valued
    split at valued
    case isTrue isWord =>
      cases valued
      rw [Bool.and_eq_true] at isWord
      exact .int spelled isWord.1 isWord.2
    case isFalse noWord =>
      obtain ⟨number, rounded, rfl⟩ := Option.map_eq_some_iff.mp valued
      apply IsNumeric.float spelled _ (Decimal.nearest?_eq_some_iff.mp rounded)
      simpa using noWord
  · intro numeric
    cases numeric with
    | int spelled integer isWord =>
        simp [plainValue?, Numeral.ofChars?_eq_some_iff.mpr spelled,
          numeralValue?, integer, isWord]
    | float spelled noWord rounded =>
        rw [plainValue?, Numeral.ofChars?_eq_some_iff.mpr spelled,
          Option.bind_some, numeralValue?, if_neg (by simpa using noWord),
          Decimal.nearest?_eq_some_iff.mpr rounded, Option.map_some]

end Json

end PalletTypes
