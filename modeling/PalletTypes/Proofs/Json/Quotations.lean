import PalletTypes.Json.Lexeme
import PalletTypes.Proofs.Json.Grammar

/-!
# The grammar of texts is the one that is read

The scanner finds the end of a text in quotes without resolving its escapes,
and the escapes are resolved without regard for what the scanner leaves out.
The two together take what the rules for a text allow.
-/

namespace PalletTypes.Json

theorem isControl_eq_false_iff {char : Char} :
    isControl char = false ↔ 0x20 ≤ char.toNat := by
  simp [isControl, UInt32.lt_iff_toNat_lt]

/-- What the scanner takes between two quotes: a backslash goes with the
character behind it. -/
inductive Closed : List Char → Prop where
  | nil : Closed []
  | plain {char : Char} {raw : List Char} (visible : isControl char = false)
      (noQuote : char ≠ '"') (noEscape : char ≠ '\\') (rest : Closed raw) :
      Closed (char :: raw)
  | escaped {mark : Char} {raw : List Char} (visible : isControl mark = false)
      (rest : Closed raw) : Closed ('\\' :: mark :: raw)

theorem closed_cons_iff {char : Char} {raw : List Char}
    (noEscape : char ≠ '\\') :
    Closed (char :: raw) ↔
      isControl char = false ∧ char ≠ '"' ∧ Closed raw := by
  constructor
  · intro closed
    cases closed with
    | plain visible noQuote _ rest => exact ⟨visible, noQuote, rest⟩
    | escaped => exact absurd rfl noEscape
  · rintro ⟨visible, noQuote, rest⟩
    exact .plain visible noQuote noEscape rest

theorem closed_escape_iff {mark : Char} {raw : List Char} :
    Closed ('\\' :: mark :: raw) ↔ isControl mark = false ∧ Closed raw := by
  constructor
  · intro closed
    cases closed with
    | plain _ _ noEscape => exact absurd rfl noEscape
    | escaped visible rest => exact ⟨visible, rest⟩
  · rintro ⟨visible, rest⟩
    exact .escaped visible rest

/-! ## Escapes with a number -/

theorem plain_of_hexDigit? {char : Char} {digit : Nat}
    (isDigit : hexDigit? char = some digit) :
    isControl char = false ∧ char ≠ '"' ∧ char ≠ '\\' := by
  have visible : 0x30 ≤ char.toNat := by
    unfold hexDigit? at isDigit
    repeat' split at isDigit
    case isTrue range => exact range.1
    case isFalse.isTrue range => exact Nat.le_trans (by decide) range.1
    case isFalse.isFalse.isTrue range => exact Nat.le_trans (by decide) range.1
    case isFalse.isFalse.isFalse => exact nomatch isDigit
  refine ⟨isControl_eq_false_iff.mpr (by omega), ?_, ?_⟩
  · rintro rfl
    exact absurd visible (by decide)
  · rintro rfl
    have noDigit : hexDigit? '\\' = none := by decide
    rw [noDigit] at isDigit
    exact nomatch isDigit

/-- The four digits of a number are taken as they are. -/
theorem closed_unit_iff {a b c d : Char} {unit : Nat} {raw : List Char}
    (number : unit? a b c d = some unit) :
    Closed ('\\' :: 'u' :: a :: b :: c :: d :: raw) ↔ Closed raw := by
  simp only [unit?, Option.bind_eq_bind, Option.bind_eq_some_iff] at number
  obtain ⟨_, first, _, second, _, third, _, fourth, -⟩ := number
  have visible : isControl 'u' = false := by decide
  rw [closed_escape_iff, closed_cons_iff (plain_of_hexDigit? first).2.2,
    closed_cons_iff (plain_of_hexDigit? second).2.2,
    closed_cons_iff (plain_of_hexDigit? third).2.2,
    closed_cons_iff (plain_of_hexDigit? fourth).2.2]
  simp only [visible, plain_of_hexDigit? first, plain_of_hexDigit? second,
    plain_of_hexDigit? third, plain_of_hexDigit? fourth, ne_eq,
    not_false_eq_true, true_and]

/-! ## What a text stands for -/

theorem shortEscape?_eq_some_iff {mark char : Char} :
    shortEscape? mark = some char ↔ (mark, char) ∈ shortEscapes := by
  constructor
  · intro known
    unfold shortEscape? at known
    split at known <;> cases known <;> decide
  · intro known
    simp only [shortEscapes, List.mem_cons, List.not_mem_nil, or_false,
      Prod.mk.injEq] at known
    rcases known with ⟨rfl, rfl⟩ | ⟨rfl, rfl⟩ | ⟨rfl, rfl⟩ | ⟨rfl, rfl⟩ |
      ⟨rfl, rfl⟩ | ⟨rfl, rfl⟩ | ⟨rfl, rfl⟩ | ⟨rfl, rfl⟩ <;> rfl

theorem plain_of_shortEscape {mark char : Char}
    (known : (mark, char) ∈ shortEscapes) :
    isControl mark = false ∧ mark ≠ 'u' := by
  have all : ∀ escape ∈ shortEscapes,
      isControl escape.1 = false ∧ escape.1 ≠ 'u' := by decide
  exact all _ known

theorem closed_of_standsFor {raw chars : List Char}
    (standsFor : StandsFor raw chars) : Closed raw := by
  induction standsFor with
  | nil => exact .nil
  | plain visible noQuote noEscape _ ih =>
      exact .plain (isControl_eq_false_iff.mpr visible) noQuote noEscape ih
  | short known _ ih => exact .escaped (plain_of_shortEscape known).1 ih
  | unit number _ ih => exact (closed_unit_iff number).mpr ih
  | pair first second _ _ _ _ ih =>
      exact (closed_unit_iff first).mpr ((closed_unit_iff second).mpr ih)

/-- No character has the number of a surrogate. -/
theorem not_surrogate (char : Char) :
    isHighSurrogate char.toNat = false ∧ isLowSurrogate char.toNat = false := by
  have valid := char.valid
  simp only [UInt32.isValidChar, Nat.isValidChar] at valid
  simp only [isHighSurrogate, isLowSurrogate, Bool.and_eq_false_iff,
    decide_eq_false_iff_not, Char.toNat]
  omega

theorem pairChar_of_toNat {high low : Nat} {char : Char}
    (number : char.toNat = 0x10000 + high * 0x400 + low) :
    pairChar (0xD800 + high) (0xDC00 + low) = char := by
  rw [pairChar, Nat.add_sub_cancel_left, Nat.add_sub_cancel_left, ← number,
    Char.ofNat_toNat]

theorem unquoteOnto_of_standsFor {raw chars : List Char}
    (standsFor : StandsFor raw chars) (done : List Char) :
    unquoteOnto done raw = some (done.reverse ++ chars) := by
  induction standsFor generalizing done with
  | nil => simp [unquoteOnto]
  | plain visible noQuote noEscape _ ih =>
      simp [unquoteOnto, noEscape, ih]
  | short known _ ih =>
      have isKnown := shortEscape?_eq_some_iff.mpr known
      have noUnit := (plain_of_shortEscape known).2
      simp [unquoteOnto, isKnown, noUnit, ih]
  | unit number _ ih =>
      simp [unquoteOnto, number, not_surrogate, ih]
  | pair first second highPart lowPart number _ ih =>
      rename_i high low _ _ _
      have isHigh : isHighSurrogate (0xD800 + high) = true := by
        simp [isHighSurrogate]
        omega
      have isLow : isLowSurrogate (0xDC00 + low) = true := by
        simp [isLowSurrogate]
        omega
      simp [unquoteOnto, first, second, isHigh, isLow,
        pairChar_of_toNat number, ih]

theorem lt_of_hexDigit? {char : Char} {digit : Nat}
    (isDigit : hexDigit? char = some digit) : digit < 16 := by
  have code : ∀ {other : Char}, char ≤ other → char.toNat ≤ other.toNat := id
  unfold hexDigit? at isDigit
  repeat' split at isDigit
  case isTrue range =>
    cases isDigit
    exact Nat.lt_of_le_of_lt (Nat.sub_le_sub_right (code range.2) _) (by decide)
  case isFalse.isTrue range =>
    cases isDigit
    exact Nat.add_lt_of_lt_sub (Nat.lt_of_le_of_lt
      (Nat.sub_le_sub_right (code range.2) _) (by decide))
  case isFalse.isFalse.isTrue range =>
    cases isDigit
    exact Nat.add_lt_of_lt_sub (Nat.lt_of_le_of_lt
      (Nat.sub_le_sub_right (code range.2) _) (by decide))
  case isFalse.isFalse.isFalse => exact nomatch isDigit

theorem toNat_ofNat {number : Nat} (valid : number.isValidChar) :
    (Char.ofNat number).toNat = number := by
  rw [Char.ofNat, dif_pos valid]
  rfl

/-- A number of four digits that is no surrogate is that of a character. -/
theorem toNat_ofNat_of_unit? {a b c d : Char} {unit : Nat}
    (number : unit? a b c d = some unit)
    (noHigh : ¬isHighSurrogate unit = true)
    (noLow : ¬isLowSurrogate unit = true) : (Char.ofNat unit).toNat = unit := by
  simp only [unit?, Option.bind_eq_bind, Option.bind_eq_some_iff,
    Option.pure_def, Option.some.injEq] at number
  obtain ⟨first, isFirst, second, isSecond, third, isThird, fourth, isFourth,
    whole⟩ := number
  have firstBound := lt_of_hexDigit? isFirst
  have secondBound := lt_of_hexDigit? isSecond
  have thirdBound := lt_of_hexDigit? isThird
  have fourthBound := lt_of_hexDigit? isFourth
  have valid : unit.isValidChar := by
    simp only [isHighSurrogate, isLowSurrogate, Bool.and_eq_true,
      decide_eq_true_eq] at noHigh noLow
    unfold Nat.isValidChar
    omega
  exact toNat_ofNat valid

/-- Two surrogates make the character that their parts say. -/
theorem toNat_pairChar {high low : Nat} (isHigh : isHighSurrogate high = true)
    (isLow : isLowSurrogate low = true) :
    (pairChar high low).toNat =
      0x10000 + (high - 0xD800) * 0x400 + (low - 0xDC00) := by
  simp only [isHighSurrogate, isLowSurrogate, Bool.and_eq_true,
    decide_eq_true_eq] at isHigh isLow
  have valid : (0x10000 + (high - 0xD800) * 0x400 +
      (low - 0xDC00)).isValidChar := by
    unfold Nat.isValidChar
    omega
  exact toNat_ofNat valid

/-- Escapes that can be resolved are those of the rules, if the scanner has
found the end of the text. -/
theorem standsFor_of_unquoteOnto {raw done result : List Char}
    (closed : Closed raw) (resolved : unquoteOnto done raw = some result) :
    ∃ chars, result = done.reverse ++ chars ∧ StandsFor raw chars := by
  fun_induction unquoteOnto done raw
  case case1 done =>
    cases resolved
    exact ⟨[], (List.append_nil _).symm, .nil⟩
  case case4 done a b c d high first isHigh e f g h rest low second isLow ih =>
    rw [closed_unit_iff first, closed_unit_iff second] at closed
    obtain ⟨chars, rfl, standsFor⟩ := ih closed resolved
    have ofHigh : high = 0xD800 + (high - 0xD800) ∧ high - 0xD800 < 0x400 := by
      simp only [isHighSurrogate, Bool.and_eq_true, decide_eq_true_eq] at isHigh
      omega
    have ofLow : low = 0xDC00 + (low - 0xDC00) ∧ low - 0xDC00 < 0x400 := by
      simp only [isLowSurrogate, Bool.and_eq_true, decide_eq_true_eq] at isLow
      omega
    rw [ofHigh.1] at first
    rw [ofLow.1] at second
    exact ⟨pairChar high low :: chars, by simp, .pair first second ofHigh.2
      ofLow.2 (toNat_pairChar isHigh isLow) standsFor⟩
  case case8 done a b c d rest unit number noHigh noLow ih =>
    rw [closed_unit_iff number] at closed
    obtain ⟨chars, rfl, standsFor⟩ := ih closed resolved
    rw [← toNat_ofNat_of_unit? number noHigh noLow] at number
    exact ⟨Char.ofNat unit :: chars, by simp, .unit number standsFor⟩
  case case10 done mark rest _ char known ih =>
    rw [closed_escape_iff] at closed
    obtain ⟨chars, rfl, standsFor⟩ := ih closed.2 resolved
    exact ⟨char :: chars, by simp,
      .short (shortEscape?_eq_some_iff.mp known) standsFor⟩
  case case12 done char rest _ _ noEscape ih =>
    rw [closed_cons_iff noEscape] at closed
    obtain ⟨visible, noQuote, closed⟩ := closed
    obtain ⟨chars, rfl, standsFor⟩ := ih closed resolved
    exact ⟨char :: chars, by simp,
      .plain (isControl_eq_false_iff.mp visible) noQuote noEscape standsFor⟩
  all_goals exact nomatch resolved

/-- A text that the scanner takes and whose escapes can be resolved is one of
the grammar. -/
theorem standsFor_iff {raw chars : List Char} :
    StandsFor raw chars ↔ Closed raw ∧ unquote? raw = some chars := by
  constructor
  · intro standsFor
    exact ⟨closed_of_standsFor standsFor, unquoteOnto_of_standsFor standsFor []⟩
  · rintro ⟨closed, resolved⟩
    obtain ⟨_, rfl, standsFor⟩ := standsFor_of_unquoteOnto closed resolved
    exact standsFor

end PalletTypes.Json
