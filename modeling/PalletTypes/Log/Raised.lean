import PalletTypes.Failure
import PalletTypes.Log.Raised.Source

/-!
# Exceptions in the log

An entry of the log can carry an exception that was raised elsewhere.  Most
exceptions show their arguments as they are.  A failed look-up spells its key,
an error about a types file shows reason and path, a system error its number,
its reason and its files, an error about a text the place in it, and an error
about a source also the line that is to blame.  Only the last can have a
fault.
-/

namespace PalletTypes.Log

inductive Raised where
  | plain (className : Text) (arguments : List Value)
  | lookup (className : Text) (key : Value)
  | types (className : Text) (path : Path) (reason : Value)
  /-- The system refuses an operation on some files. -/
  | system (className : Text) (number reason : Value) (files : List Value)
  /-- An operation does not take a part of a text, up to a position. -/
  | unfit (className operation content : Text) (first stop : Int)
      (reason : Text)
  /-- A source cannot be understood. -/
  | source (className : Text) (detail : Option Value)
      (spot : Option SourceSpot)

namespace Raised

/-- Arguments as an exception shows them. -/
def argumentsText : List Value → Text
  | [] => []
  | [argument] => argument.shown
  | arguments => "(" ++ Value.spellItems true arguments ++ ")"

/-- The spelling of a file behind a mark, unless there is none. -/
def fileText (mark : String) : Option Value → Text
  | none => []
  | some .null => []
  | some file => mark ++ file.spelling

/-- A system error shows its second file only behind a first. -/
def systemMessage (number reason : Value) (files : List Value) : Text :=
  let first := fileText ": " files.head?
  "[Errno " ++ number.shown ++ "] " ++ reason.shown ++ first ++
    (if first = [] then [] else fileText " -> " files[1]?)

/-- The one code point between two positions, if it is one. -/
def culprit? (content : Text) (first stop : Int) : Option CodePoint :=
  if first + 1 = stop ∧ 0 ≤ first then content[first.toNat]? else none

/-- An exception as the log shows it. -/
def report : Raised → Except Fault Text
  | .plain className arguments =>
      .ok (Failure.report className (argumentsText arguments))
  | .lookup className key => .ok (Failure.report className key.spelling)
  | .types className path reason =>
      .ok (Failure.report (TypesError.package ++ className)
        (TypesError.describe reason.shown path))
  | .system className number reason files =>
      .ok (Failure.report className (systemMessage number reason files))
  | .unfit className operation content first stop reason =>
      .ok (Failure.report className
        (Text.unfitMessage operation (culprit? content first stop) first
          (stop - 1) reason))
  | .source className detail spot => do
      let (front, back) ← match spot with
        | some spot => spot.frame
        | none => .ok ([], [])
      let detail : Text := match detail.filter Value.isTruthy with
        | some detail => detail.shown
        | none => "<no detail available>"
      return front ++ className ++ ": " ++ detail ++ back

end Raised

end PalletTypes.Log
