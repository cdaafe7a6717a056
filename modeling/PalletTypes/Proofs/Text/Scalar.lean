import PalletTypes.Text.Encoding

/-!
# Texts without surrogates

A text without surrogates is a text of characters.  It has an encoding, what is
put together from such texts is one too, and the encodings are put together
with them.
-/

namespace PalletTypes.Text

theorem chars?_eq_some_iff {text : Text} {chars : List Char} :
    chars? text = some chars ↔ text = ofChars chars := by
  constructor
  · intro given
    induction text generalizing chars with
    | nil =>
        cases given
        rfl
    | cons point rest ih =>
        cases point with
        | surrogate offset => exact absurd given (by simp [chars?])
        | scalar char =>
            obtain ⟨others, tail, rfl⟩ := Option.map_eq_some_iff.mp given
            rw [ih tail]
            rfl
  · rintro rfl
    exact chars?_ofChars chars

theorem exists_chars_of_isScalar {text : Text} (scalar : IsScalar text) :
    ∃ chars, text = ofChars chars := by
  induction text with
  | nil => exact ⟨[], rfl⟩
  | cons point rest ih =>
      rw [IsScalar, List.forall_mem_cons] at scalar
      obtain ⟨⟨char, rfl⟩, later⟩ := scalar
      obtain ⟨chars, rfl⟩ := ih later
      exact ⟨char :: chars, rfl⟩

/-- A text without surrogates has an encoding. -/
theorem exists_utf8?_of_isScalar {text : Text} (scalar : IsScalar text) :
    ∃ bytes, utf8? text = some bytes := by
  obtain ⟨chars, rfl⟩ := exists_chars_of_isScalar scalar
  exact ⟨_, by rw [utf8?, chars?_ofChars, Option.map_some]⟩

theorem utf8?_append {first second : Text} {bytes later : ByteArray}
    (encoded : utf8? first = some bytes)
    (encodedLater : utf8? second = some later) :
    utf8? (first ++ second) = some (bytes ++ later) := by
  obtain ⟨chars, given, rfl⟩ := Option.map_eq_some_iff.mp encoded
  obtain ⟨others, givenLater, rfl⟩ := Option.map_eq_some_iff.mp encodedLater
  rw [chars?_eq_some_iff.mp given, chars?_eq_some_iff.mp givenLater]
  have joined : ofChars chars ++ ofChars others = ofChars (chars ++ others) :=
    List.map_append.symm
  rw [joined, utf8?, chars?_ofChars, Option.map_some, String.ofList_append]
  simp

/-- The encoding has as many bytes as the text stands for. -/
theorem size_of_utf8? {text : Text} {bytes : ByteArray}
    (encoded : utf8? text = some bytes) : bytes.size = text.byteSize := by
  obtain ⟨chars, given, rfl⟩ := Option.map_eq_some_iff.mp encoded
  rw [chars?_eq_some_iff.mp given]
  clear given encoded
  induction chars with
  | nil => rfl
  | cons char rest ih =>
      calc (String.ofList (char :: rest)).toUTF8.size
        _ = (String.singleton char ++ String.ofList rest).utf8ByteSize := by
          rw [String.ofList_cons]
          rfl
        _ = char.utf8Size + (String.ofList rest).toUTF8.size := by
          rw [String.utf8ByteSize_append, String.utf8ByteSize_singleton]
          rfl
        _ = char.utf8Size + byteSize (ofChars rest) := by rw [ih]

theorem length_le_byteSize (text : Text) : text.length ≤ text.byteSize := by
  induction text with
  | nil => exact Nat.le_refl 0
  | cons point rest ih =>
      have positive : 0 < point.byteSize := by
        cases point with
        | scalar char => exact char.utf8Size_pos
        | surrogate offset => exact Nat.one_pos
      rw [List.length_cons, byteSize]
      omega

/-! ## Parts of texts -/

@[simp] theorem isScalar_append {first second : Text} :
    IsScalar (first ++ second) ↔ IsScalar first ∧ IsScalar second :=
  List.forall_mem_append

@[simp] theorem isScalar_ofString (string : String) :
    IsScalar (ofString string) :=
  isScalar_ofChars _

theorem isScalar_replicate (count : Nat) (char : Char) :
    IsScalar (List.replicate count (.scalar char)) :=
  fun _ member => ⟨char, List.eq_of_mem_replicate member⟩

@[simp] theorem isScalar_ofNat (number : Nat) : IsScalar (ofNat number) :=
  isScalar_ofChars _

theorem not_mem_ofNat {char : Char} (noDigit : char.isDigit = false)
    (number : Nat) : CodePoint.scalar char ∉ ofNat number := by
  intro member
  obtain ⟨digit, inDigits, same⟩ := List.mem_map.mp member
  have isDigit := Nat.isDigit_of_mem_toDigits (by decide) (by decide) inDigits
  cases same
  exact nomatch noDigit.symm.trans isDigit

theorem ofNat_ne_nil (number : Nat) : ofNat number ≠ [] := by
  simp [ofNat, ofChars, Nat.toDigits_ne_nil]

/-- A number is told by its digits. -/
theorem ofNat_injective {number other : Nat}
    (same : ofNat number = ofNat other) : number = other := by
  have digits := ofChars_injective same
  calc number
    _ = Nat.ofDigitChars 10 (Nat.toDigits 10 number) 0 :=
      (Nat.ofDigitChars_toDigits (by decide) (by decide)).symm
    _ = Nat.ofDigitChars 10 (Nat.toDigits 10 other) 0 := by rw [digits]
    _ = other := Nat.ofDigitChars_toDigits (by decide) (by decide)

@[simp] theorem isScalar_ofInt (number : Int) : IsScalar (ofInt number) := by
  unfold ofInt
  split
  · exact List.forall_mem_cons.mpr ⟨⟨'-', rfl⟩, isScalar_ofNat _⟩
  · exact isScalar_ofNat _

@[simp] theorem isScalar_zeroPadded (width : Nat) (number : Int) :
    IsScalar (zeroPadded width number) := by
  have sign : IsScalar (if number < 0 then [.scalar '-'] else []) := by
    split
    · exact isScalar_replicate 1 '-'
    · exact isScalar_replicate 0 '-'
  rw [zeroPadded, isScalar_append, isScalar_append]
  exact ⟨⟨sign, isScalar_replicate _ _⟩, isScalar_ofNat _⟩

@[simp] theorem isScalar_padded {width : Nat} {text : Text} :
    IsScalar (text.padded width) ↔ IsScalar text := by
  rw [padded, filling, isScalar_append]
  exact and_iff_left (isScalar_replicate _ _)

end PalletTypes.Text
