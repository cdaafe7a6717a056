import PalletTypes.Json.Reader

/-!
# Places in a document

Where a document stops making sense is told by a place: a line, a column and
the number of characters in front of it.  The place is behind the longest
beginning whose lexemes can be read, be it at the end.  Bytes that are not
UTF-8 have no characters, so their place is the start.
-/

namespace PalletTypes.Json

/-- A place behind some characters; lines and columns count from one. -/
structure Place where
  line : Nat
  column : Nat
  characters : Nat
deriving DecidableEq, Repr

namespace Place

def start : Place := ⟨1, 1, 0⟩

def next (place : Place) (char : Char) : Place :=
  if char = '\n' then ⟨place.line + 1, 1, place.characters + 1⟩
  else ⟨place.line, place.column + 1, place.characters + 1⟩

def text (place : Place) : String :=
  "line " ++ toString place.line ++ " column " ++ toString place.column ++
    " (char " ++ toString place.characters ++ ")"

end Place

/-- A scanner, and the reader of the lexemes it has finished. -/
structure Progress where
  scan : Scan
  reader : Reader

namespace Progress

def start : Progress := ⟨.between, .start⟩

def step (progress : Progress) (char : Char) : Option Progress := do
  let scanner ← Scanner.step ⟨progress.scan, []⟩ char
  let reader ← scanner.finished.reverse.foldlM Reader.step progress.reader
  return ⟨scanner.scan, reader⟩

/-- The place of the first character that cannot be taken. -/
def stop (progress : Progress) (place : Place) : List Char → Place
  | [] => place
  | char :: rest =>
      match progress.step char with
      | some progress => progress.stop (place.next char) rest
      | none => place

end Progress

/-- Where the bytes stop being the beginning of a document. -/
def defectPlace (bytes : ByteArray) : Place :=
  match String.fromUTF8? bytes with
  | some string => Progress.start.stop .start string.toList
  | none => .start

end PalletTypes.Json
