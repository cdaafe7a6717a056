import PalletTypes.Json.Reader
import PalletTypes.Proofs.Decimal.Nearest
import PalletTypes.Proofs.Entries

/-!
# The grammar of documents

A document is described by rules, without a scanner and without a stack: which
characters are a numeral, a text in quotes or a value, and what they stand
for.  The rules for lists and mappings carry the number of containers that may
still be opened, the rule for a mapping drops repeated keys, and the rule for
a numeral leaves out what would be rounded to infinity.
-/

namespace PalletTypes

/-! ## Numerals -/

namespace Numeral

/-- The spellings of an exponent: nothing, or a mark, an optional sign and
digits. -/
inductive SpellsExponent : List Char → Option (Bool × List Char) → Prop where
  | absent : SpellsExponent [] none
  | unsigned {mark : Char} {digits : List Char}
      (isMark : mark = 'e' ∨ mark = 'E') (areDigits : isDigits digits = true) :
      SpellsExponent (mark :: digits) (some (false, digits))
  | positive {mark : Char} {digits : List Char}
      (isMark : mark = 'e' ∨ mark = 'E') (areDigits : isDigits digits = true) :
      SpellsExponent (mark :: '+' :: digits) (some (false, digits))
  | negative {mark : Char} {digits : List Char}
      (isMark : mark = 'e' ∨ mark = 'E') (areDigits : isDigits digits = true) :
      SpellsExponent (mark :: '-' :: digits) (some (true, digits))

/-- The spellings of a fraction: nothing, or a point and digits. -/
inductive SpellsFraction : List Char → Option (List Char) → Prop where
  | absent : SpellsFraction [] none
  | digits {digits : List Char} (areDigits : isDigits digits = true) :
      SpellsFraction ('.' :: digits) (some digits)

/-- The spellings of a numeral without its sign. -/
inductive SpellsUnsigned (isNegative : Bool) : List Char → Numeral → Prop where
  | pieces {whole fractionChars exponentChars : List Char}
      {fraction : Option (List Char)} {exponent : Option (Bool × List Char)}
      (wholePart : isWhole whole = true)
      (fractionPart : SpellsFraction fractionChars fraction)
      (exponentPart : SpellsExponent exponentChars exponent) :
      SpellsUnsigned isNegative (whole ++ fractionChars ++ exponentChars)
        ⟨isNegative, whole, fraction, exponent⟩

/-- The spellings of a numeral. -/
inductive Spells : List Char → Numeral → Prop where
  | negative {chars : List Char} {numeral : Numeral}
      (spelled : SpellsUnsigned true chars numeral) :
      Spells ('-' :: chars) numeral
  | positive {chars : List Char} {numeral : Numeral}
      (spelled : SpellsUnsigned false chars numeral) : Spells chars numeral

end Numeral

namespace Json

/-- The values that numerals are read as: an integer that a word holds, and
otherwise the nearest number, if that is finite. -/
inductive IsNumeric : List Char → Value → Prop where
  | int {chars : List Char} {numeral : Numeral}
      (spelled : Numeral.Spells chars numeral)
      (integer : numeral.isInteger = true)
      (isWord : isWordInteger numeral.integer = true) :
      IsNumeric chars (.int numeral.integer)
  | float {chars : List Char} {numeral : Numeral} {number : Binary64}
      (spelled : Numeral.Spells chars numeral)
      (noWord : numeral.isInteger = true →
        isWordInteger numeral.integer = false)
      (rounded : numeral.decimal.RoundsTo number) :
      IsNumeric chars (.float number)

/-! ## Texts in quotes -/

/-- The marks behind a backslash, each with the character it stands for. -/
def shortEscapes : List (Char × Char) :=
  [('"', '"'), ('\\', '\\'), ('/', '/'), ('b', '\x08'), ('f', '\x0c'),
    ('n', '\n'), ('r', '\r'), ('t', '\t')]

/-- What may stand between two quotes, and the characters it stands for. -/
inductive StandsFor : List Char → List Char → Prop where
  | nil : StandsFor [] []
  | plain {char : Char} {raw chars : List Char} (visible : 0x20 ≤ char.toNat)
      (noQuote : char ≠ '"') (noEscape : char ≠ '\\')
      (rest : StandsFor raw chars) : StandsFor (char :: raw) (char :: chars)
  | short {mark char : Char} {raw chars : List Char}
      (known : (mark, char) ∈ shortEscapes) (rest : StandsFor raw chars) :
      StandsFor ('\\' :: mark :: raw) (char :: chars)
  /-- The number of a character; that of a surrogate is none. -/
  | unit {a b c d char : Char} {raw chars : List Char}
      (number : unit? a b c d = some char.toNat)
      (rest : StandsFor raw chars) :
      StandsFor ('\\' :: 'u' :: a :: b :: c :: d :: raw) (char :: chars)
  /-- A high surrogate and a low one. -/
  | pair {a b c d e f g h char : Char} {high low : Nat}
      {raw chars : List Char} (first : unit? a b c d = some (0xD800 + high))
      (second : unit? e f g h = some (0xDC00 + low))
      (highPart : high < 0x400) (lowPart : low < 0x400)
      (number : char.toNat = 0x10000 + high * 0x400 + low)
      (rest : StandsFor raw chars) :
      StandsFor ('\\' :: 'u' :: a :: b :: c :: d ::
        '\\' :: 'u' :: e :: f :: g :: h :: raw) (char :: chars)

/-! ## Values -/

def AreBlanks (chars : List Char) : Prop :=
  ∀ char ∈ chars, isBlank char = true

/-- The entries that are left of pairs with repeated keys: a key has the place
of its first occurrence and the value of its last one. -/
structure Leaves (pairs entries : List (Text × Value)) : Prop where
  places : Entries.keys entries = firstOccurrences (Entries.keys pairs)
  values : ∀ key, Entries.get? key entries = Entries.get? key pairs.reverse

mutual

/-- The characters spell the value, with at most `depth` containers around each
other. -/
inductive IsValue : Nat → List Char → Value → Prop where
  | null {depth : Nat} : IsValue depth ['n', 'u', 'l', 'l'] .null
  | true {depth : Nat} : IsValue depth ['t', 'r', 'u', 'e'] (.bool true)
  | false {depth : Nat} : IsValue depth ['f', 'a', 'l', 's', 'e'] (.bool false)
  | number {depth : Nat} {chars : List Char} {value : Value}
      (numeric : IsNumeric chars value) : IsValue depth chars value
  | text {depth : Nat} {raw chars : List Char}
      (standsFor : StandsFor raw chars) :
      IsValue depth ('"' :: raw ++ ['"']) (.text (Text.ofChars chars))
  | emptyList {depth : Nat} {blanks : List Char} (blank : AreBlanks blanks) :
      IsValue (depth + 1) ('[' :: blanks ++ [']']) (.list [])
  | list {depth : Nat} {chars : List Char} {items : List Value}
      (spelled : IsItems depth chars items) :
      IsValue (depth + 1) ('[' :: chars ++ [']']) (.list items)
  | emptyMapping {depth : Nat} {blanks : List Char}
      (blank : AreBlanks blanks) :
      IsValue (depth + 1) ('\x7b' :: blanks ++ ['\x7d']) (.mapping [])
  | mapping {depth : Nat} {chars : List Char}
      {pairs entries : List (Text × Value)}
      (spelled : IsMembers depth chars pairs) (left : Leaves pairs entries) :
      IsValue (depth + 1) ('\x7b' :: chars ++ ['\x7d']) (.mapping entries)

/-- A value with blanks around it. -/
inductive IsItem : Nat → List Char → Value → Prop where
  | padded {depth : Nat} {before chars after : List Char} {value : Value}
      (blankBefore : AreBlanks before) (spelled : IsValue depth chars value)
      (blankAfter : AreBlanks after) :
      IsItem depth (before ++ chars ++ after) value

/-- One item or more, with commas between them. -/
inductive IsItems : Nat → List Char → List Value → Prop where
  | last {depth : Nat} {chars : List Char} {item : Value}
      (spelled : IsItem depth chars item) : IsItems depth chars [item]
  | cons {depth : Nat} {chars rest : List Char} {item : Value}
      {items : List Value} (spelled : IsItem depth chars item)
      (others : IsItems depth rest items) :
      IsItems depth (chars ++ ',' :: rest) (item :: items)

/-- A text in quotes with blanks around it, a colon and an item. -/
inductive IsMember : Nat → List Char → Text × Value → Prop where
  | named {depth : Nat} {before raw key after chars : List Char}
      {value : Value} (blankBefore : AreBlanks before)
      (standsFor : StandsFor raw key) (blankAfter : AreBlanks after)
      (spelled : IsItem depth chars value) :
      IsMember depth (before ++ ('"' :: raw ++ ['"']) ++ after ++ ':' :: chars)
        (Text.ofChars key, value)

/-- One member or more, with commas between them. -/
inductive IsMembers : Nat → List Char → List (Text × Value) → Prop where
  | last {depth : Nat} {chars : List Char} {pair : Text × Value}
      (spelled : IsMember depth chars pair) : IsMembers depth chars [pair]
  | cons {depth : Nat} {chars rest : List Char} {pair : Text × Value}
      {pairs : List (Text × Value)} (spelled : IsMember depth chars pair)
      (others : IsMembers depth rest pairs) :
      IsMembers depth (chars ++ ',' :: rest) (pair :: pairs)

end

/-- The bytes are a document with this value: characters in UTF-8 that spell
the value with at most 1024 containers around each other, and blanks. -/
def IsDocument (bytes : ByteArray) (value : Value) : Prop :=
  ∃ chars, bytes = (String.ofList chars).toUTF8 ∧ IsItem 1024 chars value

/-- The bytes are a document that is a mapping with these members in this
order, repeated keys included. -/
def IsObject (bytes : ByteArray) (pairs : List (Text × Value)) : Prop :=
  ∃ before chars after, AreBlanks before ∧ AreBlanks after ∧
    (AreBlanks chars ∧ pairs = [] ∨ IsMembers 1023 chars pairs) ∧
    bytes = (String.ofList
      (before ++ ('\x7b' :: chars ++ ['\x7d']) ++ after)).toUTF8

theorem isDocument_mapping_iff {bytes : ByteArray}
    {entries : List (Text × Value)} :
    IsDocument bytes (.mapping entries) ↔
      ∃ pairs, IsObject bytes pairs ∧ Leaves pairs entries := by
  constructor
  · rintro ⟨_, rfl, spelled⟩
    cases spelled with
    | padded blankBefore spelled blankAfter =>
        cases spelled with
        | number numeric => exact nomatch numeric
        | emptyMapping blank =>
            exact ⟨[], ⟨_, _, _, blankBefore, blankAfter, .inl ⟨blank, rfl⟩,
              rfl⟩, ⟨rfl, fun _ => rfl⟩⟩
        | mapping spelled left =>
            exact ⟨_, ⟨_, _, _, blankBefore, blankAfter, .inr spelled, rfl⟩,
              left⟩
  · rintro ⟨pairs, ⟨before, chars, after, blankBefore, blankAfter, spelled,
      rfl⟩, left⟩
    refine ⟨_, rfl, .padded blankBefore ?_ blankAfter⟩
    rcases spelled with ⟨blank, rfl⟩ | spelled
    · have empty : entries = [] := List.map_eq_nil_iff.mp left.places
      rw [empty]
      exact .emptyMapping blank
    · exact .mapping spelled left

end Json

end PalletTypes
