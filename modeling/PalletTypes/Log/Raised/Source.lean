import PalletTypes.Log.Fault
import PalletTypes.Text.Blank
import PalletTypes.Value.Shown

/-!
# Places in sources

An error about a source tells a place: a file, a line with its number and its
text, and the positions in it of what is to blame, which count from one.  The
report shows the text without the blanks in front of it, and marks below it
from the first position up to the last.  If only one position is given, it is
marked alone.

The parts of a place can be any values.  A text that is none and positions
that are no integers are faults.
-/

namespace PalletTypes.Log

/-- A place in a source, as far as it is known. -/
structure SourceSpot where
  file : Value
  line : Value
  text : Value
  first : Value
  last : Value

inductive Position where
  | whole (number : Int)
  | real (number : Binary64)

namespace Position

/-- The position that a value gives, or the fault of its kind. -/
def ofValue (misfit : ValueKind → Fault) : Value → Except Fault Position
  | .int number => .ok (.whole number)
  | .bool truth => .ok (.whole truth.toInt)
  | .float number => .ok (.real number)
  | value => .error (misfit value.kind)

/-- A value is a number and equal to an integer. -/
def isInteger (number : Int) : Value → Bool
  | .int other => number == other
  | .bool truth => number == truth.toInt
  | .float other =>
      decide other.IsFinite &&
        other.signedUnits == number * Binary64.unitsOfOne
  | _ => false

/-- Two values give the same position.  Between floating-point numbers no
difference is made. -/
def areSame (first last : Value) : Bool :=
  match first with
  | .int number => isInteger number last
  | .bool truth => isInteger truth.toInt last
  | .text content =>
      match last with
      | .text other => content == other
      | _ => false
  | _ => false

end Position

namespace SourceSpot

/-- The last position, if it is another one than the first. -/
def stop? (spot : SourceSpot) : Except Fault (Option Value) :=
  match spot.last with
  | .null => .ok none
  | .list _ | .mapping _ => .error (.notHashable spot.last.kind)
  | last =>
      if Position.isInteger 0 last || Position.isInteger (-1) last ||
          Position.areSame spot.first last then .ok none
      else .ok (some last)

/-- The marks below a line from a column on, so many of them. -/
def marks (line : Text) (column : Nat) (count : Int) : Except Fault Text :=
  let blanks : Text := (line.take column).map fun point =>
    if Text.isBlankPoint point then point else .scalar ' '
  if !isSignedWord count then .error .countBeyondWord
  else if lengthLimit ≤ count.toNat then .error .beyondMemory
  else
    let carets : Text := List.replicate count.toNat (.scalar '^')
    return "    " ++ blanks ++ carets ++ "\n"

/-- The marks below a line from one position up to another; the line starts
behind so many blanks. -/
def marksBetween (line : Text) (blanks : Nat) :
    Position → Position → Except Fault Text
  | .real first, _ =>
      let start : Int := (blanks + 1 : Nat) * Binary64.unitsOfOne
      if first.isUndefined || first.signedUnits < start then .ok []
      else .error .fractionalPosition
  | .whole first, last =>
      let column := first - 1 - blanks
      if column < 0 then .ok []
      else
        match last with
        | .whole last => marks line column.toNat (last - first)
        | .real _ => do
            let _ ← realOfInt column
            .error .fractionalCount

/-- The marks at what is to blame, if its position is known. -/
def markLine (spot : SourceSpot) (line : Text) (blanks : Nat) :
    Except Fault Text :=
  match spot.first with
  | .null => .ok []
  | first => do
      match ← spot.stop? with
      | none =>
          let first ← Position.ofValue .noNextPosition first
          let next := match first with
            | .whole number => .whole (number + 1)
            | .real number => .real number
          marksBetween line blanks first next
      | some last =>
          let first ← Position.ofValue .noPreviousPosition first
          let last ← Position.ofValue .noPreviousPosition last
          marksBetween line blanks first last

/-- A line of a source without its end and without the blanks in front of it,
and the number of these blanks. -/
def strippedLine (text : Text) : Text × Nat :=
  let line := (text.reverse.dropWhile (· == .scalar '\n')).reverse
  let indent : Text := " \n\x0c"
  let stripped := line.dropWhile (indent.contains ·)
  (stripped, line.length - stripped.length)

/-- The line of a source, and below it the marks at what is to blame. -/
def markedLine (spot : SourceSpot) : Except Fault Text :=
  match spot.text with
  | .null => .ok []
  | .text text =>
      let (line, blanks) := strippedLine text
      (spot.markLine line blanks).map fun marks =>
        "    " ++ line ++ "\n" ++ marks
  | text => .error (.notLine text.kind)

/-- What stands in front of the report about a source, and behind it. -/
def frame (spot : SourceSpot) : Except Fault (Text × Text) := do
  let line ← spot.markedLine
  match spot.line, spot.file with
  | .null, .null => return (line, [])
  | .null, file => return (line, " (" ++ file.shown ++ ")")
  | number, file =>
      let name : Text := if file.isTruthy then file.shown else "<string>"
      return ("  File \"" ++ name ++ "\", line " ++ number.shown ++ "\n" ++
        line, [])

end SourceSpot

end PalletTypes.Log
