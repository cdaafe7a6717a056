import PalletTypes.Text.Quoted
import PalletTypes.Text.Utf8

/-!
# Texts as names

The system takes names as bytes.  A character stands for its bytes in UTF-8.
The surrogates from `0xDC80` to `0xDCFF` stand for single bytes; every other
surrogate stands for nothing, and a text with one cannot be handed to the
system.

Two texts can stand for the same bytes, because single bytes in a row can make
up a character.  The system shows a name by the text in which every character
that its bytes make up is written as one.
-/

namespace PalletTypes

namespace CodePoint

/-- The byte that a surrogate stands for. -/
def rawByte? : CodePoint → Option UInt8
  | .scalar _ => none
  | .surrogate offset =>
      if 0x480 ≤ offset.val ∧ offset.val ≤ 0x4FF then
        some (offset.val - 0x400).toUInt8
      else none

/-- The surrogate that stands for a byte outside of any character. -/
def ofRawByte (byte : UInt8) : CodePoint :=
  .surrogate ⟨0x400 + byte.toNat, by have := byte.toNat_lt; omega⟩

/-- The number of bytes that a code point stands for. -/
def byteSize : CodePoint → Nat
  | .scalar char => char.utf8Size
  | .surrogate _ => 1

end CodePoint

/-- Surrogates in a row, the first of which stands for nothing, and where they
begin. -/
structure SurrogateRun where
  first : CodePoint
  position : Nat
  length : Nat
deriving DecidableEq, Repr

namespace Text

/-- The number of bytes that a text stands for. -/
def byteSize : Text → Nat
  | [] => 0
  | point :: rest => point.byteSize + byteSize rest

/-- The first surrogates that the test does not accept, counting from a
position. -/
def surrogatesFrom? (accepted : CodePoint → Bool) (position : Nat) :
    Text → Option SurrogateRun
  | [] => none
  | point :: rest =>
      if point.isSurrogate && !accepted point then
        some ⟨point, position, 1 + (rest.takeWhile (·.isSurrogate)).length⟩
      else surrogatesFrom? accepted (position + 1) rest

/-- The first surrogates in a name that stand for nothing. -/
def unencodable? (name : Text) : Option SurrogateRun :=
  surrogatesFrom? (·.rawByte?.isSome) 0 name

/-- The first surrogates in a document, where each of them stands for
nothing. -/
def surrogates? (document : Text) : Option SurrogateRun :=
  surrogatesFrom? (fun _ => false) 0 document

def ofPiece : Utf8.Piece → Text
  | .character char => [.scalar char]
  | .broken bytes _ => bytes.map CodePoint.ofRawByte

/-- The rest of a name as the system shows it. -/
def shownNameFrom (pending : Option Utf8.Pending) : Text → Text
  | [] => (Utf8.Pending.finish pending).flatMap ofPiece
  | point :: rest =>
      match point.rawByte? with
      | some byte =>
          let (pending, pieces) := Utf8.Pending.take byte pending
          pieces.flatMap ofPiece ++ shownNameFrom pending rest
      | none =>
          (Utf8.Pending.finish pending).flatMap ofPiece ++
            point :: shownNameFrom none rest

/-- A name as the system shows it.  Texts stand for the same bytes if they are
shown in the same way. -/
def shownName (name : Text) : Text := shownNameFrom none name

/-- A name without surrogates is shown as it is. -/
theorem shownName_of_isScalar {name : Text} (scalar : IsScalar name) :
    shownName name = name := by
  unfold shownName
  induction name with
  | nil => rfl
  | cons point rest ih =>
      obtain ⟨char, rfl⟩ := scalar point List.mem_cons_self
      have tail := ih fun other member =>
        scalar other (List.mem_cons_of_mem _ member)
      simp [shownNameFrom, CodePoint.rawByte?, Utf8.Pending.finish, tail]

end Text

/-- The message about what an operation does not take: the one code point that
is to blame, or everything between two positions. -/
def Text.unfitMessage (operation : Text) (culprit : Option CodePoint)
    (first last : Int) (reason : Text) : Text :=
  let whereabouts : Text :=
    match culprit with
    | some point =>
        " '" ++ Text.ofChars (Text.numericEscape point.number) ++
          "' in position " ++ Text.ofInt first
    | none =>
        "s in position " ++ Text.ofInt first ++ "-" ++ Text.ofInt last
  operation ++ " character" ++ whereabouts ++ ": " ++ reason

namespace SurrogateRun

def message (run : SurrogateRun) : Text :=
  Text.unfitMessage "'utf-8' codec can't encode"
    (if run.length = 1 then some run.first else none)
    run.position (run.position + run.length - 1 : Nat)
    "surrogates not allowed"

def className : String := "UnicodeEncodeError"

end SurrogateRun

namespace Utf8.Defect

def message (defect : Utf8.Defect) : Text :=
  let whereabouts : Text :=
    match defect.bytes with
    | [byte] =>
        " 0x" ++ Text.ofChars (Text.hexPadded 2 byte.toNat) ++
          " in position " ++ Text.ofNat defect.position
    | bytes =>
        "s in position " ++ Text.ofNat defect.position ++ "-" ++
          Text.ofNat (defect.position + bytes.length - 1)
  "'utf-8' codec can't decode byte" ++ whereabouts ++ ": " ++
    defect.flaw.message

def className : String := "UnicodeDecodeError"

end Utf8.Defect

end PalletTypes
