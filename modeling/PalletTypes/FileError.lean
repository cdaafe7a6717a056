import PalletTypes.Path

/-!
# Refusals of the file system

The file system refuses an operation for one of a few causes, each with its
number and message.  A path can also be turned down before the file system
sees it: if it has no encoding, or if it holds the character that ends a path
on its way to the system.
-/

namespace PalletTypes

/-- Why the file system refuses an operation. -/
inductive FileError where
  | missing
  | alreadyExists
  | notDirectory
  | isDirectory
  | nameTooLong
  | busy
deriving DecidableEq, Repr

namespace FileError

def number : FileError → Nat
  | .missing => 2
  | .busy => 16
  | .alreadyExists => 17
  | .notDirectory => 20
  | .isDirectory => 21
  | .nameTooLong => 36

def message : FileError → String
  | .missing => "No such file or directory"
  | .busy => "Device or resource busy"
  | .alreadyExists => "File exists"
  | .notDirectory => "Not a directory"
  | .isDirectory => "Is a directory"
  | .nameTooLong => "File name too long"

/-- The class that reports give to a refusal. -/
def className : FileError → String
  | .missing => "FileNotFoundError"
  | .alreadyExists => "FileExistsError"
  | .notDirectory => "NotADirectoryError"
  | .isDirectory => "IsADirectoryError"
  | .nameTooLong => "OSError"
  | .busy => "OSError"

def numbered (error : FileError) : String :=
  "[Errno " ++ toString error.number ++ "] " ++ error.message

end FileError

/-- What keeps a path from being handed to the system. -/
inductive PathDefect where
  | nul
  | unencodable (run : SurrogateRun)
deriving DecidableEq, Repr

namespace PathDefect

def message : PathDefect → Text
  | .nul => "embedded null byte"
  | .unencodable run => run.message

/-- The class that reports give to a defect. -/
def className : PathDefect → String
  | .nul => "ValueError"
  | .unencodable _ => SurrogateRun.className

end PathDefect

/-- The defect of a path, if it has one; a missing encoding is noticed
first. -/
def Path.defect? (path : Path) : Option PathDefect :=
  match path.text.unencodable? with
  | some run => some (.unencodable run)
  | none => if .scalar '\x00' ∈ path.text then some .nul else none

/-- Why a path gives no access: it has a defect, or the system refuses. -/
inductive AccessError where
  | defective (defect : PathDefect)
  | refused (cause : FileError)
deriving DecidableEq, Repr

/-- Why a path gives no access, as far as that is known without looking at any
directory. -/
def Path.refusal? (path : Path) : Option AccessError :=
  match path.defect? with
  | some defect => some (.defective defect)
  | none => if path.isTooLong then some (.refused .nameTooLong) else none

end PalletTypes
