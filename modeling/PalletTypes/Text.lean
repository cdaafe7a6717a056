/-!
# In-memory texts

A text is a sequence of code points.  Almost all are characters; a surrogate
can stand alone, and then the text has no encoding in UTF-8.  Texts that were
read from a file hold characters only, texts that a caller hands over can hold
anything.
-/

namespace PalletTypes

/-- One position of a text: a Unicode character, or a surrogate without its
partner, whose code point is `0xD800 + offset`. -/
inductive CodePoint where
  | scalar (char : Char)
  | surrogate (offset : Fin 0x800)
deriving DecidableEq, Repr

namespace CodePoint

def number : CodePoint → Nat
  | .scalar char => char.toNat
  | .surrogate offset => 0xD800 + offset.val

/-- The code point with a number below `0x110000`. -/
def ofNumber (number : Nat) : CodePoint :=
  if inRange : number - 0xD800 < 0x800 then
    if 0xD800 ≤ number then .surrogate ⟨number - 0xD800, inRange⟩
    else .scalar (Char.ofNat number)
  else .scalar (Char.ofNat number)

def digit? : CodePoint → Option Nat
  | .scalar char =>
      if char.isDigit then some (char.toNat - '0'.toNat) else none
  | .surrogate _ => none

def isSurrogate : CodePoint → Bool
  | .scalar _ => false
  | .surrogate _ => true

end CodePoint

abbrev Text := List CodePoint

namespace Text

def ofChars (chars : List Char) : Text := chars.map .scalar

/-- The text of a string, which never holds a surrogate. -/
def ofString (string : String) : Text := ofChars string.toList

instance : Coe String Text := ⟨ofString⟩

/-- The characters of a text, provided that no surrogate occurs in it. -/
def chars? : Text → Option (List Char)
  | [] => some []
  | .scalar char :: rest => (chars? rest).map (char :: ·)
  | .surrogate _ :: _ => none

/-- The text in UTF-8, provided that no surrogate occurs in it. -/
def utf8? (text : Text) : Option ByteArray :=
  (chars? text).map fun chars => (String.ofList chars).toUTF8

def ofNat (number : Nat) : Text := ofChars (Nat.toDigits 10 number)

def ofInt (number : Int) : Text :=
  if number < 0 then .scalar '-' :: ofNat number.natAbs
  else ofNat number.natAbs

/-- A number with zeros behind its sign up to a width. -/
def zeroPadded (width : Nat) (number : Int) : Text :=
  let sign : Text := if number < 0 then [.scalar '-'] else []
  let digits := ofNat number.natAbs
  let zeros := List.replicate (width - sign.length - digits.length)
    (CodePoint.scalar '0')
  sign ++ zeros ++ digits

/-- Blanks that fill a text up to a width. -/
def filling (width : Nat) (text : Text) : Text :=
  List.replicate (width - text.length) (.scalar ' ')

/-- A text with blanks behind it up to a width. -/
def padded (width : Nat) (text : Text) : Text := text ++ filling width text

/-- No surrogate occurs in the text. -/
def IsScalar (text : Text) : Prop :=
  ∀ point ∈ text, ∃ char, point = .scalar char

@[simp] theorem chars?_ofChars (chars : List Char) :
    chars? (ofChars chars) = some chars := by
  induction chars with
  | nil => rfl
  | cons char rest ih =>
      have tail : chars? (List.map .scalar rest) = some rest := ih
      simp [ofChars, chars?, tail]

theorem ofChars_injective {left right : List Char}
    (equality : ofChars left = ofChars right) : left = right := by
  have mapped := congrArg chars? equality
  simpa using mapped

theorem isScalar_ofChars (chars : List Char) : IsScalar (ofChars chars) := by
  intro point member
  obtain ⟨char, _, rfl⟩ := List.mem_map.mp member
  exact ⟨char, rfl⟩

end Text

end PalletTypes
