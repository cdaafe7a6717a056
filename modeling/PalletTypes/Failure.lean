import PalletTypes.FileError
import PalletTypes.Json.Place
import PalletTypes.Json.Writer
import PalletTypes.Text.Quoted
import PalletTypes.Value

/-!
# Failures of a run

A types file fails to be read, to be understood or to be written; the error
names its path and the reason.  Beside these there are failures outside the
files themselves: a path that the system does not take, a working directory
that is gone, a question that the file system does not answer, and a setting
that cannot take the value it is given.
-/

namespace PalletTypes

inductive ErrorFamily where
  | read
  | parse
  | write
deriving DecidableEq, Repr

def ErrorFamily.className : ErrorFamily → String
  | .read => "TypesReadError"
  | .parse => "TypesParseError"
  | .write => "TypesWriteError"

inductive Reason where
  | unreadable (cause : FileError)
  | malformed (place : Json.Place)
  | notMapping (kind : ValueKind)
  | unserializable (defect : Json.Defect)
  | notCreated (cause : FileError)
  | notWritten (cause : FileError)
deriving DecidableEq, Repr

namespace Reason

def family : Reason → ErrorFamily
  | .unreadable _ => .read
  | .malformed _ => .parse
  | .notMapping _ => .parse
  | .unserializable _ => .write
  | .notCreated _ => .write
  | .notWritten _ => .write

def message : Reason → String
  | .unreadable cause => "Cannot read types file (" ++ cause.message ++ ")"
  | .malformed place =>
      "Invalid JSON in types file (malformed document: " ++ place.text ++ ")"
  | .notMapping kind =>
      "Types file must contain a JSON object, got " ++ kind.name
  | .unserializable defect =>
      "Cannot serialize types (" ++ defect.message ++ ")"
  | .notCreated cause => "Cannot create types file (" ++ cause.message ++ ")"
  | .notWritten cause => "Cannot write types file (" ++ cause.message ++ ")"

/-- The class of the underlying error, if there is one. -/
def causeClass : Reason → Option String
  | .unreadable cause => some cause.className
  | .malformed _ => some "JSONDecodeError"
  | .notMapping _ => none
  | .unserializable _ => some "TypeError"
  | .notCreated cause => some cause.className
  | .notWritten cause => some cause.className

end Reason

structure TypesError where
  path : Path
  reason : Reason
deriving DecidableEq

namespace TypesError

/-- The message of an error with a reason about a path. -/
def describe (reason : Text) (path : Path) : Text :=
  reason ++ ": " ++ path.text

def message (error : TypesError) : Text :=
  describe error.reason.message error.path

/-- The package that the classes of these errors belong to. -/
def package : String := "subsocial_types.aggregation.errors."

end TypesError

/-- Why a run does not come to its end. -/
inductive Failure where
  | types (error : TypesError)
  /-- A path cannot be handed to the system. -/
  | defective (defect : PathDefect)
  /-- The working directory is gone. -/
  | noWorkingDirectory
  /-- The file system refuses to answer for a path. -/
  | refused (cause : FileError) (path : Path)
  /-- A level was given as something else than a text. -/
  | notLevel (kind : ValueKind)
  /-- A path was given as something else than a text. -/
  | notPath (kind : ValueKind)
  /-- A property of an object was assigned that only follows from others. -/
  | fixed (property : Text) (owner : String)
deriving DecidableEq

namespace Failure

/-- The failure of a path that gives no access. -/
def ofAccess (path : Path) : AccessError → Failure
  | .defective defect => .defective defect
  | .refused cause => .refused cause path

def message : Failure → Text
  | .types error => error.message
  | .defective defect => defect.message
  | .noWorkingDirectory => FileError.missing.numbered
  | .refused cause path => cause.numbered ++ ": " ++ Text.quoted path.text
  | .notLevel kind => "'" ++ kind.name ++ "' object has no attribute 'upper'"
  | .notPath kind =>
      "expected str, bytes or os.PathLike object, not " ++ kind.name
  | .fixed property owner =>
      "property '" ++ property ++ "' of '" ++ owner ++
        "' object has no setter"

def className : Failure → String
  | .types error => error.reason.family.className
  | .defective defect => defect.className
  | .noWorkingDirectory => FileError.missing.className
  | .refused cause _ => cause.className
  | .notLevel _ => "AttributeError"
  | .notPath _ => "TypeError"
  | .fixed _ _ => "AttributeError"

/-- The failure as a log shows it: its class, and its message unless that is
empty. -/
def report (className message : Text) : Text :=
  if message = [] then className else className ++ ": " ++ message

def logEntry (failure : Failure) : Text :=
  match failure with
  | .types _ =>
      report (TypesError.package ++ failure.className) failure.message
  | _ => report failure.className failure.message

end Failure

end PalletTypes
