import PalletTypes.Json.Lexeme
import PalletTypes.Numeral

/-!
# What the grammar of numbers takes

Every numeral is a longest run of number characters, so the scanner takes it
whole.  A numeral with a point or an exponent mark is no integer, and decimal
digits behind an optional sign are the integer they spell.
-/

namespace PalletTypes

namespace Json

/-- A character that a number starts with, and characters it goes on with. -/
def IsNumber (chars : List Char) : Prop :=
  ∃ first rest, chars = first :: rest ∧ startsNumber first = true ∧
    ∀ char ∈ rest, continuesNumber char = true

theorem continuesNumber_of_isDigit {char : Char}
    (digit : char.isDigit = true) : continuesNumber char = true := by
  simp [continuesNumber, digit]

end Json

namespace Numeral

open Json (IsNumber startsNumber continuesNumber)

/-- What is cut at a mark has no mark before it and the mark between. -/
theorem cutAt_spec (test : Char → Bool) (chars : List Char) :
    ((cutAt test chars).2 = none ∧ (cutAt test chars).1 = chars ∧
        ∀ char ∈ chars, test char = false) ∨
      ∃ mark rest, test mark = true ∧ (cutAt test chars).2 = some rest ∧
        chars = (cutAt test chars).1 ++ mark :: rest := by
  induction chars with
  | nil => exact Or.inl ⟨rfl, rfl, by simp⟩
  | cons char others ih =>
      by_cases marked : test char = true
      · right
        exact ⟨char, others, marked, by simp [cutAt, marked],
          by simp [cutAt, marked]⟩
      · rw [Bool.not_eq_true] at marked
        have cut : cutAt test (char :: others) =
            (char :: (cutAt test others).1, (cutAt test others).2) := by
          simp [cutAt, marked]
        rw [cut]
        rcases ih with ⟨uncut, whole, unmarked⟩ | ⟨mark, rest, isMark, cutRest,
          split⟩
        · left
          refine ⟨uncut, by rw [whole], ?_⟩
          simpa [marked] using unmarked
        · right
          exact ⟨mark, rest, isMark, cutRest, by rw [List.cons_append, ← split]⟩

theorem cutAt_of_forall_not {test : Char → Bool} {chars : List Char}
    (unmarked : ∀ char ∈ chars, test char = false) :
    cutAt test chars = (chars, none) := by
  rcases cutAt_spec test chars with ⟨uncut, whole, _⟩ | ⟨mark, rest, isMark, _,
    split⟩
  · exact Prod.ext whole uncut
  · have member : mark ∈ chars := by
      rw [split]
      simp
    simp [unmarked mark member] at isMark

theorem cutAt_append {test : Char → Bool} {chars : List Char} {mark : Char}
    {rest : List Char} (unmarked : ∀ char ∈ chars, test char = false)
    (isMark : test mark = true) :
    cutAt test (chars ++ mark :: rest) = (chars, some rest) := by
  induction chars with
  | nil => simp [cutAt, isMark]
  | cons char others ih =>
      have kept := ih fun char member =>
        unmarked char (List.mem_cons_of_mem _ member)
      have noMark := unmarked char List.mem_cons_self
      simp only [cutAt, Prod.mk.injEq] at kept ⊢
      simp [noMark, kept]

/-- A character that introduces an exponent. -/
def isExponentMark (char : Char) : Bool := char == 'e' || char == 'E'

/-- The numeral of pieces that have been cut. -/
def ofPieces? (negative : Bool) (whole : List Char)
    (fraction exponentText : Option (List Char)) : Option Numeral :=
  if isWhole whole && fraction.all isDigits then
    match exponentText with
    | none => some ⟨negative, whole, fraction, none⟩
    | some text => (exponent? text).bind fun exponent =>
        some ⟨negative, whole, fraction, some exponent⟩
  else none

/-- An unsigned numeral is cut at the exponent mark and at the point. -/
theorem unsigned?_eq (negative : Bool) (chars : List Char) :
    unsigned? negative chars =
      ofPieces? negative
        (cutAt (· == '.') (cutAt isExponentMark chars).1).1
        (cutAt (· == '.') (cutAt isExponentMark chars).1).2
        (cutAt isExponentMark chars).2 := by
  have sameMark : cutAt (fun char => char == 'e' || char == 'E') chars =
      cutAt isExponentMark chars := rfl
  rw [unsigned?, sameMark]
  unfold ofPieces?
  cases cutAt isExponentMark chars with
  | mk mantissa exponentText =>
      dsimp only
      cases cutAt (· == '.') mantissa with
      | mk whole fraction =>
          dsimp only
          cases isWhole whole && fraction.all isDigits with
          | false => rfl
          | true =>
              cases exponentText with
              | none => rfl
              | some text => rfl

theorem unsigned?_eq_some {negative : Bool} {chars : List Char}
    {numeral : Numeral} (read : unsigned? negative chars = some numeral) :
    let cut := cutAt isExponentMark chars
    let parts := cutAt (· == '.') cut.1
    isWhole parts.1 = true ∧ parts.2.all isDigits = true ∧
      numeral.fraction = parts.2 ∧
      (cut.2 = none ∧ numeral.exponent = none ∨
        ∃ text exponent, cut.2 = some text ∧
          exponent? text = some exponent ∧
          numeral.exponent = some exponent) := by
  intro cut parts
  rw [unsigned?_eq] at read
  unfold ofPieces? at read
  split at read
  case isFalse => exact nomatch read
  case isTrue good =>
    rw [Bool.and_eq_true] at good
    refine ⟨good.1, good.2, ?_⟩
    split at read
    case h_1 uncut =>
      cases read
      exact ⟨rfl, Or.inl ⟨uncut, rfl⟩⟩
    case h_2 text isText =>
      obtain ⟨exponent, readExponent, made⟩ := Option.bind_eq_some_iff.mp read
      cases made
      exact ⟨rfl, Or.inr ⟨text, exponent, isText, readExponent, rfl⟩⟩

theorem continuesNumber_of_isDigits {chars : List Char}
    (digits : isDigits chars = true) :
    ∀ char ∈ chars, continuesNumber char = true := by
  intro char member
  rw [isDigits, Bool.and_eq_true, List.all_eq_true] at digits
  exact Json.continuesNumber_of_isDigit (digits.2 char member)

theorem continuesNumber_of_exponent? {chars : List Char}
    {exponent : Bool × List Char} (read : exponent? chars = some exponent) :
    ∀ char ∈ chars, continuesNumber char = true := by
  unfold exponent? at read
  split at read <;> split at read
  case h_1.isTrue digits good =>
    simpa [continuesNumber] using continuesNumber_of_isDigits good
  case h_2.isTrue digits good =>
    simpa [continuesNumber] using continuesNumber_of_isDigits good
  case h_3.isTrue good => exact continuesNumber_of_isDigits good
  all_goals exact nomatch read

theorem continuesNumber_of_unsigned? {negative : Bool} {chars : List Char}
    {numeral : Numeral} (read : unsigned? negative chars = some numeral) :
    ∀ char ∈ chars, continuesNumber char = true := by
  obtain ⟨whole, fraction, -, ending⟩ := unsigned?_eq_some read
  have wholeDigits : isDigits (cutAt (· == '.')
      (cutAt isExponentMark chars).1).1 = true := by
    rw [isWhole, Bool.and_eq_true] at whole
    exact whole.1
  -- The mantissa is the whole part, with a point and the fraction behind it
  -- if there is one.
  have mantissa : ∀ char ∈ (cutAt isExponentMark chars).1,
      continuesNumber char = true := by
    intro char member
    rcases cutAt_spec (· == '.') (cutAt isExponentMark chars).1 with
      ⟨-, uncut, -⟩ | ⟨mark, rest, isMark, cutRest, split⟩
    · rw [uncut] at wholeDigits
      exact continuesNumber_of_isDigits wholeDigits char member
    · rw [cutRest, Option.all_some] at fraction
      rw [split, List.mem_append, List.mem_cons] at member
      rcases member with inWhole | rfl | inFraction
      · exact continuesNumber_of_isDigits wholeDigits char inWhole
      · simp only [beq_iff_eq] at isMark
        simp [continuesNumber, isMark]
      · exact continuesNumber_of_isDigits fraction char inFraction
  intro char member
  rcases cutAt_spec isExponentMark chars with
    ⟨-, uncut, -⟩ | ⟨mark, rest, isMark, cutRest, split⟩
  · rw [uncut] at mantissa
    exact mantissa char member
  · rw [split, List.mem_append, List.mem_cons] at member
    rcases member with inMantissa | rfl | inExponent
    · exact mantissa char inMantissa
    · rw [isExponentMark, Bool.or_eq_true] at isMark
      rcases isMark with small | large
      · simp [continuesNumber, eq_of_beq small]
      · simp [continuesNumber, eq_of_beq large]
    · rcases ending with ⟨uncut, -⟩ | ⟨text, exponent, isText, readExponent, -⟩
      · rw [cutRest] at uncut
        exact nomatch uncut
      · rw [cutRest, Option.some.injEq] at isText
        subst rest
        exact continuesNumber_of_exponent? readExponent char inExponent

theorem head_of_unsigned? {negative : Bool} {chars : List Char}
    {numeral : Numeral} (read : unsigned? negative chars = some numeral) :
    ∃ first rest, chars = first :: rest ∧ first.isDigit = true := by
  obtain ⟨whole, -, -, -⟩ := unsigned?_eq_some read
  cases chars with
  | nil => exact absurd whole (by decide)
  | cons first rest =>
      refine ⟨first, rest, rfl, ?_⟩
      cases digit : first.isDigit with
      | true => rfl
      | false =>
          have noDigit : ∀ others : List Char,
              isWhole (first :: others) = false := by
            simp [isWhole, isDigits, digit]
          -- A first character that is no digit would be the first one of the
          -- whole part, or would leave it empty.
          by_cases marked : isExponentMark first = true
          · have empty : (cutAt isExponentMark (first :: rest)).1 = [] := by
              simp [cutAt, marked]
            rw [empty] at whole
            exact absurd whole (by decide)
          · have kept : (cutAt isExponentMark (first :: rest)).1 =
                first :: (cutAt isExponentMark rest).1 := by
              simp [cutAt, marked]
            rw [kept] at whole
            by_cases point : (first == '.') = true
            · simp [cutAt, point, isWhole, isDigits] at whole
            · simp [cutAt, point, noDigit] at whole

/-- A numeral is a number from its first character to its last. -/
theorem isNumber_of_ofChars? {chars : List Char} {numeral : Numeral}
    (read : ofChars? chars = some numeral) : IsNumber chars := by
  unfold ofChars? at read
  split at read
  · exact ⟨'-', _, rfl, rfl, continuesNumber_of_unsigned? read⟩
  · obtain ⟨first, rest, rfl, digit⟩ := head_of_unsigned? read
    refine ⟨first, rest, rfl, by simp [startsNumber, digit], ?_⟩
    intro char member
    exact continuesNumber_of_unsigned? read char (List.mem_cons_of_mem _ member)

theorem not_mem_of_isInteger {negative : Bool} {chars : List Char}
    {numeral : Numeral} (read : unsigned? negative chars = some numeral)
    (integer : numeral.isInteger = true) :
    '.' ∉ chars ∧ 'e' ∉ chars := by
  obtain ⟨-, -, fraction, ending⟩ := unsigned?_eq_some read
  simp only [isInteger, Bool.and_eq_true, Option.isNone_iff_eq_none] at integer
  rw [integer.1] at fraction
  rcases ending with ⟨noMark, -⟩ | ⟨text, exponent, -, -, written⟩
  · rcases cutAt_spec isExponentMark chars with
      ⟨-, uncut, noExponent⟩ | ⟨mark, rest, -, cutRest, -⟩
    · rw [uncut] at fraction
      rcases cutAt_spec (· == '.') chars with
        ⟨-, -, noPoint⟩ | ⟨mark, rest, -, cutRest, -⟩
      · exact ⟨fun member => absurd (noPoint _ member) (by decide),
          fun member => absurd (noExponent _ member) (by decide)⟩
      · rw [← fraction] at cutRest
        exact nomatch cutRest
    · rw [noMark] at cutRest
      exact nomatch cutRest
  · rw [integer.2] at written
    exact nomatch written

/-- A numeral with a point or an exponent mark is no integer. -/
theorem isInteger_eq_false {chars : List Char} {numeral : Numeral}
    (read : ofChars? chars = some numeral)
    (marked : '.' ∈ chars ∨ 'e' ∈ chars) : numeral.isInteger = false := by
  cases integer : numeral.isInteger with
  | false => rfl
  | true =>
      unfold ofChars? at read
      split at read
      · have unmarked := not_mem_of_isInteger read integer
        simp_all
      · have unmarked := not_mem_of_isInteger read integer
        simp_all

/-! ## Digits that spell a natural number -/

theorem head?_toDigits_ne {number : Nat} (positive : 0 < number) :
    (Nat.toDigits 10 number).head? ≠ some '0' := by
  induction number using Nat.strongRecOn with
  | ind number ih =>
      by_cases small : number < 10
      · have noZero : ∀ digit < 10, 0 < digit → Nat.digitChar digit ≠ '0' := by
          decide
        rw [Nat.toDigits_of_lt_base small]
        simpa using noZero number small positive
      · have larger := Nat.le_of_not_lt small
        have first := ih (number / 10) (by omega) (by omega)
        have some_first : (Nat.toDigits 10 (number / 10)).head?.isSome := by
          simp [Nat.toDigits_ne_nil]
        rw [Nat.toDigits_of_base_le (by decide) larger, List.head?_append,
          Option.or_of_isSome some_first]
        exact first

theorem isWhole_toDigits (number : Nat) :
    isWhole (Nat.toDigits 10 number) = true := by
  have digits : isDigits (Nat.toDigits 10 number) = true := by
    simp only [isDigits, Bool.and_eq_true, List.all_eq_true]
    exact ⟨by simp [Nat.toDigits_ne_nil], fun char member =>
      Nat.isDigit_of_mem_toDigits (by decide) (by decide) member⟩
  rw [isWhole, digits, Bool.true_and]
  rcases Nat.eq_zero_or_pos number with rfl | positive
  · decide
  · simp [head?_toDigits_ne positive]

theorem natOfDigits_toDigits (number : Nat) :
    natOfDigits (Nat.toDigits 10 number) = number :=
  Nat.ofDigitChars_ten_toDigits

theorem unmarked_toDigits {test : Char → Bool} (number : Nat)
    (noDigit : ∀ char, char.isDigit = true → test char = false) :
    ∀ char ∈ Nat.toDigits 10 number, test char = false :=
  fun char member => noDigit char
    (Nat.isDigit_of_mem_toDigits (by decide) (by decide) member)

theorem isExponentMark_of_isDigit (char : Char)
    (digit : char.isDigit = true) : isExponentMark char = false := by
  simp only [isExponentMark, Bool.or_eq_false_iff, beq_eq_false_iff_ne]
  constructor <;> rintro rfl <;> exact absurd digit (by decide)

theorem isPoint_of_isDigit (char : Char) (digit : char.isDigit = true) :
    (char == '.') = false := by
  rw [beq_eq_false_iff_ne]
  rintro rfl
  exact absurd digit (by decide)

/-- Digits on their own, or in front of an exponent, are a whole part. -/
theorem unsigned?_of_cutAt {negative : Bool} {chars : List Char}
    {number : Nat} {exponentText : Option (List Char)}
    (cut : cutAt isExponentMark chars =
      (Nat.toDigits 10 number, exponentText)) :
    unsigned? negative chars = exponentText.elim
      (some ⟨negative, Nat.toDigits 10 number, none, none⟩)
      (fun text => (exponent? text).bind fun exponent =>
        some ⟨negative, Nat.toDigits 10 number, none, some exponent⟩) := by
  have uncut := cutAt_of_forall_not (unmarked_toDigits number
    isPoint_of_isDigit)
  rw [unsigned?_eq, cut]
  simp only [uncut, ofPieces?, isWhole_toDigits, Option.all_none,
    Bool.and_true, if_true]
  cases exponentText <;> rfl

theorem unsigned?_toDigits (negative : Bool) (number : Nat) :
    unsigned? negative (Nat.toDigits 10 number) =
      some ⟨negative, Nat.toDigits 10 number, none, none⟩ :=
  unsigned?_of_cutAt (cutAt_of_forall_not
    (unmarked_toDigits number isExponentMark_of_isDigit))

theorem unsigned?_toDigits_exponent (negative : Bool) (number : Nat)
    (text : List Char) :
    unsigned? negative (Nat.toDigits 10 number ++ 'e' :: text) =
      (exponent? text).bind fun exponent =>
        some ⟨negative, Nat.toDigits 10 number, none, some exponent⟩ :=
  unsigned?_of_cutAt (cutAt_append
    (unmarked_toDigits number isExponentMark_of_isDigit) rfl)

theorem ofChars?_toDigits_append (number : Nat) (rest : List Char) :
    ofChars? (Nat.toDigits 10 number ++ rest) =
      unsigned? false (Nat.toDigits 10 number ++ rest) := by
  cases digits : Nat.toDigits 10 number with
  | nil => exact absurd digits Nat.toDigits_ne_nil
  | cons first others =>
      have digit : first.isDigit = true :=
        Nat.isDigit_of_mem_toDigits (by decide) (by decide)
          (digits ▸ List.mem_cons_self)
      rw [List.cons_append]
      unfold ofChars?
      split
      · next same =>
          cases same
          exact absurd digit (by decide)
      · rfl

end Numeral

end PalletTypes
