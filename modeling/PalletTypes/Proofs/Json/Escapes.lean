import PalletTypes.Proofs.Json.Layout

/-!
# Escapes undo themselves

The written form of a text between quotes stands for its characters, and the
scanner takes it whole: no quote inside it ends the text too early, and no
control character is left in it.
-/

namespace PalletTypes.Json

theorem hexDigit?_hexChar (digit : Nat) (small : digit < 16) :
    hexDigit? (hexChar digit) = some digit := by
  have all : ∀ digit < 16, hexDigit? (hexChar digit) = some digit := by
    decide
  exact all digit small

theorem unit?_hexChar {number : Nat} (control : number < 0x20) :
    unit? '0' '0' (hexChar (number / 16)) (hexChar (number % 16)) =
      some number := by
  have zero : hexDigit? '0' = some 0 := by decide
  have high := hexDigit?_hexChar (number / 16) (by omega)
  have low := hexDigit?_hexChar (number % 16) (by omega)
  have whole : number / 16 * 16 + number % 16 = number := by omega
  simp [unit?, zero, high, low, whole]

/-- A character that is neither a quote nor a backslash nor a control character
is written as it is. -/
theorem quoteChar_plain {char : Char} (noQuote : char ≠ '"')
    (noEscape : char ≠ '\\') (noControl : 0x20 ≤ char.toNat) :
    quoteChar char = [char] := by
  have different : ∀ other : Char, other.toNat < 0x20 → char ≠ other := by
    rintro other control rfl
    omega
  simp [quoteChar, noQuote, noEscape, Nat.not_lt.mpr noControl,
    different '\x08' (by decide), different '\t' (by decide),
    different '\n' (by decide), different '\x0c' (by decide),
    different '\r' (by decide)]

/-- The control characters with an escape of one letter. -/
def HasShortEscape (char : Char) : Prop :=
  char = '\x08' ∨ char = '\t' ∨ char = '\n' ∨ char = '\x0c' ∨ char = '\r'

theorem quoteChar_control {char : Char} (control : char.toNat < 0x20)
    (long : ¬HasShortEscape char) :
    quoteChar char = ['\\', 'u', '0', '0', hexChar (char.toNat / 16),
      hexChar (char.toNat % 16)] := by
  have noQuote : char ≠ '"' := by
    rintro rfl
    exact absurd control (by decide)
  have noEscape : char ≠ '\\' := by
    rintro rfl
    exact absurd control (by decide)
  simp only [HasShortEscape, not_or] at long
  simp [quoteChar, noQuote, noEscape, long, control]

/-- Resolving the escapes of a written character gives the character. -/
theorem unquoteOnto_quoteChar (done : List Char) (char : Char)
    (rest : List Char) :
    unquoteOnto done (quoteChar char ++ rest) =
      unquoteOnto (char :: done) rest := by
  by_cases noControl : 0x20 ≤ char.toNat
  · by_cases isQuote : char = '"'
    · subst char
      simp [quoteChar, unquoteOnto, shortEscape?]
    · by_cases isEscape : char = '\\'
      · subst char
        simp [quoteChar, unquoteOnto, shortEscape?]
      · rw [quoteChar_plain isQuote isEscape noControl]
        simp [unquoteOnto, isEscape]
  · have control : char.toNat < 0x20 := Nat.lt_of_not_le noControl
    by_cases short : HasShortEscape char
    · rcases short with rfl | rfl | rfl | rfl | rfl <;>
        simp [quoteChar, unquoteOnto, shortEscape?]
    · have noHigh : isHighSurrogate char.toNat = false := by
        simp [isHighSurrogate]
        omega
      have noLow : isLowSurrogate char.toNat = false := by
        simp [isLowSurrogate]
        omega
      rw [quoteChar_control control short]
      simp [unquoteOnto, unit?_hexChar control, noHigh, noLow]

/-- A text without surrogates is given back by its written form. -/
theorem unquote?_escaped {text : Text} (sound : textDefect? text = none) :
    ∃ chars, unquote? (escaped text) = some chars ∧
      Text.ofChars chars = text := by
  have general : ∀ done, ∃ chars,
      unquoteOnto done (escaped text) = some (done.reverse ++ chars) ∧
        Text.ofChars chars = text := by
    induction text with
    | nil => exact fun done => ⟨[], by simp [escaped, unquoteOnto], rfl⟩
    | cons point rest ih =>
        cases point with
        | surrogate offset =>
            simp [textDefect?, CodePoint.isSurrogate] at sound
        | scalar char =>
            have soundRest : textDefect? rest = none := by
              simpa [textDefect?, CodePoint.isSurrogate] using sound
            intro done
            obtain ⟨chars, unquoted, whole⟩ := ih soundRest (char :: done)
            refine ⟨char :: chars, ?_, ?_⟩
            · rw [escaped, unquoteOnto_quoteChar, unquoted]
              simp
            · rw [← whole]
              rfl
  exact general []

/-! ## Scanning what stands between quotes -/

theorem hexChar_plain (digit : Nat) (small : digit < 16) :
    hexChar digit ≠ '"' ∧ hexChar digit ≠ '\\' ∧
      isControl (hexChar digit) = false := by
  have all : ∀ digit < 16, hexChar digit ≠ '"' ∧ hexChar digit ≠ '\\' ∧
      isControl (hexChar digit) = false := by
    decide
  exact all digit small

theorem scan_quoteChar (char : Char) (raw : List Char)
    (finished : List Lexeme) :
    (quoteChar char).foldlM Scanner.step ⟨.quoted raw, finished⟩ =
      some ⟨.quoted ((quoteChar char).reverse ++ raw), finished⟩ := by
  by_cases noControl : 0x20 ≤ char.toNat
  · by_cases isQuote : char = '"'
    · subst char
      rfl
    · by_cases isEscape : char = '\\'
      · subst char
        rfl
      · rw [quoteChar_plain isQuote isEscape noControl]
        have visible : isControl char = false := by
          simpa [isControl, UInt32.lt_iff_toNat_lt] using noControl
        simp [Scanner.step, isQuote, isEscape, visible]
  · have control : char.toNat < 0x20 := Nat.lt_of_not_le noControl
    by_cases short : HasShortEscape char
    · rcases short with rfl | rfl | rfl | rfl | rfl <;> rfl
    · have high := hexChar_plain (char.toNat / 16) (by omega)
      have low := hexChar_plain (char.toNat % 16) (by omega)
      have visibleU : isControl 'u' = false := by decide
      have visibleZero : isControl '0' = false := by decide
      rw [quoteChar_control control short]
      simp [Scanner.step, visibleU, visibleZero, high, low]

theorem scan_escaped (text : Text) (raw : List Char)
    (finished : List Lexeme) :
    (escaped text).foldlM Scanner.step ⟨.quoted raw, finished⟩ =
      some ⟨.quoted ((escaped text).reverse ++ raw), finished⟩ := by
  induction text generalizing raw with
  | nil => rfl
  | cons point rest ih =>
      cases point with
      | surrogate offset => exact ih raw
      | scalar char =>
          rw [escaped, List.foldlM_append, scan_quoteChar]
          simp [ih]

/-- The scanner takes a text in quotes as one lexeme. -/
theorem scan_quotedLayout (text : Text) (finished : List Lexeme) :
    (quotedLayout text).foldlM Scanner.step ⟨.between, finished⟩ =
      some ⟨.between, .quoted (escaped text) :: finished⟩ := by
  have opened : Scanner.step ⟨.between, finished⟩ '"' =
      some ⟨.quoted [], finished⟩ := by
    simp [Scanner.step, Scanner.enter, isBlank]
  rw [quotedLayout, List.foldlM_cons, opened]
  simp [scan_escaped, Scanner.step]

end PalletTypes.Json
