import PalletTypes.Failure
import PalletTypes.FileSystem
import PalletTypes.Settings
import PalletTypes.Text.Blank

/-!
# Validation of settings

Validation reports errors, which make a run pointless, and warnings.  An empty
list of pallets is an error, and so is every pallet name that is blank or
holds a path separator.  Warnings go to every pallet that was listed before
and to an output directory that does not exist.
-/

namespace PalletTypes

/-- The outcome of a validation. -/
structure Validation where
  isValid : Bool
  errors : List Text
  warnings : List Text
deriving DecidableEq, Repr

namespace Validation

/-- The characters that separate the names of a path on some system. -/
def isSeparator (point : CodePoint) : Bool :=
  point == .scalar '/' || point == .scalar '\\'

/-- What is wrong with a pallet name. -/
def nameError? (name : Text) : Option Text :=
  if name.isBlank then some "Pallet name must not be blank"
  else if name.any isSeparator then
    some ("Pallet name must not contain path separators: " ++ name)
  else none

/-- A warning for every name that was seen before. -/
def repetitions (seen : List Text) : List Text → List Text
  | [] => []
  | name :: rest =>
      if name ∈ seen then
        ("Pallet listed more than once: " ++ name) ::
          repetitions (name :: seen) rest
      else repetitions (name :: seen) rest

/-- What is wrong with a list of pallets. -/
def palletErrors (pallets : List Text) : List Text :=
  if pallets = [] then ["No pallets configured"]
  else pallets.filterMap nameError?

/-- The warning about an output directory. -/
def directoryWarning (directory : Path) : Text :=
  "Output directory does not exist: " ++ directory.text

end Validation

def Settings.validate (settings : Settings) (files : FileSystem)
    (place : Place) : Except Failure Validation :=
  let directory := settings.outputPath.parent
  let errors := Validation.palletErrors settings.pallets
  match files.isDirectory place directory with
  | .error cause => .error (.refused cause directory)
  | .ok isDirectory =>
      .ok
        { isValid := errors.isEmpty
          errors := errors
          warnings := Validation.repetitions [] settings.pallets ++
            (if isDirectory then []
              else [Validation.directoryWarning directory]) }

end PalletTypes
