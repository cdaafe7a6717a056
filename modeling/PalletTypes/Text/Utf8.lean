/-!
# Bytes as characters

A sequence of bytes is read one byte at a time.  A first byte says how many
more belong to its character, and bounds the next one, so that no character
has a second form and no surrogate has any.  Where a byte does not fit, the
bytes before it stand for no character, and reading starts again with it.
-/

namespace PalletTypes.Utf8

inductive Flaw where
  /-- No character starts with the byte. -/
  | start
  /-- The byte that follows does not go on with the character. -/
  | continuation
  /-- The bytes end inside the character. -/
  | ending
deriving DecidableEq, Repr

def Flaw.message : Flaw → String
  | .start => "invalid start byte"
  | .continuation => "invalid continuation byte"
  | .ending => "unexpected end of data"

/-- A piece of a sequence of bytes: a character, or bytes that stand for
none. -/
inductive Piece where
  | character (char : Char)
  | broken (bytes : List UInt8) (flaw : Flaw)
deriving DecidableEq, Repr

def Piece.size : Piece → Nat
  | .character char => char.utf8Size
  | .broken bytes _ => bytes.length

/-- A character whose first bytes have been read: their bits, the number of
bytes that are still to come, and the bounds of the next one. -/
structure Pending where
  bytes : List UInt8
  bits : Nat
  owed : Nat
  lowest : Nat := 0x80
  highest : Nat := 0xBF
deriving DecidableEq, Repr

namespace Pending

/-- The character that a first byte starts, unless it is complete or none. -/
def start (byte : UInt8) : Option Pending × List Piece :=
  let number := byte.toNat
  if number < 0x80 then (none, [.character (Char.ofNat number)])
  else if number < 0xC2 then (none, [.broken [byte] .start])
  else if number < 0xE0 then
    (some { bytes := [byte], bits := number - 0xC0, owed := 1 }, [])
  else if number < 0xF0 then
    (some
      { bytes := [byte]
        bits := number - 0xE0
        owed := 2
        lowest := if number = 0xE0 then 0xA0 else 0x80
        highest := if number = 0xED then 0x9F else 0xBF }, [])
  else if number < 0xF5 then
    (some
      { bytes := [byte]
        bits := number - 0xF0
        owed := 3
        lowest := if number = 0xF0 then 0x90 else 0x80
        highest := if number = 0xF4 then 0x8F else 0xBF }, [])
  else (none, [.broken [byte] .start])

def next (pending : Pending) (byte : UInt8) : Option Pending × List Piece :=
  let number := byte.toNat
  if pending.lowest ≤ number ∧ number ≤ pending.highest then
    let bits := pending.bits * 0x40 + (number - 0x80)
    if pending.owed ≤ 1 then (none, [.character (Char.ofNat bits)])
    else
      (some
        { bytes := pending.bytes ++ [byte]
          bits := bits
          owed := pending.owed - 1 }, [])
  else
    let (started, pieces) := start byte
    (started, .broken pending.bytes .continuation :: pieces)

/-- Take a byte where a character may have been started. -/
def take (byte : UInt8) : Option Pending → Option Pending × List Piece
  | none => start byte
  | some pending => pending.next byte

def finish : Option Pending → List Piece
  | none => []
  | some pending => [.broken pending.bytes .ending]

end Pending

/-- The pieces of the rest of a sequence of bytes. -/
def piecesFrom (pending : Option Pending) : List UInt8 → List Piece
  | [] => Pending.finish pending
  | byte :: rest =>
      let (pending, pieces) := Pending.take byte pending
      pieces ++ piecesFrom pending rest

def pieces (bytes : List UInt8) : List Piece := piecesFrom none bytes

/-- Bytes that stand for no character, and where they begin. -/
structure Defect where
  position : Nat
  bytes : List UInt8
  flaw : Flaw
deriving DecidableEq, Repr

/-- The first bytes that stand for no character, counting from a position. -/
def defectFrom? (position : Nat) : List Piece → Option Defect
  | [] => none
  | .broken bytes flaw :: _ => some ⟨position, bytes, flaw⟩
  | piece :: rest => defectFrom? (position + piece.size) rest

/-- The first bytes in a sequence that stand for no character. -/
def defect? (bytes : List UInt8) : Option Defect :=
  defectFrom? 0 (pieces bytes)

end PalletTypes.Utf8
