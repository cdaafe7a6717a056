import PalletTypes.Failure
import PalletTypes.FileSystem.Update
import PalletTypes.Log.Record

/-!
# Writing a types file

A types file is replaced as a whole.  The document goes to a temporary file
in the directory of the target, which is then opened to readers and moved over
the target; if the move is refused, the temporary file is removed.  So the
target holds its old content or all of the new one.
-/

namespace PalletTypes.TypesFile

/-- What a writing leads to: the file system, what is said, and the result. -/
structure Outcome (α : Type) where
  files : FileSystem
  records : List Log.Record
  result : Except Failure α

def temporaryName (mark : Text) : Text := ".tmp_" ++ mark ++ ".json"

def encode (table : TypeTable) : Except Json.Defect ByteArray :=
  (Json.ofTable table).map String.toUTF8

/-- The directory of the temporary file as an absolute path: the parent of the
target with each `..` cancelled.  A relative one needs the working
directory. -/
def stagingDirectory? (place : Place) (path : Path) : Option Path :=
  if path.root = .relative then
    place.path?.map fun base => base.absolute path.parent
  else some (path.absolute path.parent)

def writtenRecord (bytes : ByteArray) (path : Path) : Log.Record :=
  { level := .debug
    logger := Log.Logger.writer
    message :=
      "Wrote " ++ Text.ofNat bytes.size ++ " bytes to " ++ path.text }

/-- The record of a temporary file that stays behind. -/
def leftoverRecord (path : Path) : Log.Record :=
  { level := .warning
    logger := Log.Logger.cleanup
    message := "Could not remove temporary file " ++ path.text }

def failed (files : FileSystem) (records : List Log.Record) (path : Path)
    (reason : Reason) : Outcome Nat :=
  ⟨files, records, .error (.types ⟨path, reason⟩)⟩

/-- Move a filled temporary file over the target, or remove it if the move is
refused.  Whether it can be removed is up to the system. -/
def settle (staged : FileSystem) (place : Place) (location : Location)
    (leftover : Path) (removable : Bool) (bytes : ByteArray) (path : Path) :
    Outcome Nat :=
  match staged.rename location place path with
  | .ok files => ⟨files, [writtenRecord bytes path], .ok bytes.size⟩
  | .error (.defective defect) => ⟨staged, [], .error (.defective defect)⟩
  | .error (.refused cause) =>
      if removable then
        failed (staged.erase location) [] path (.notWritten cause)
      else failed staged [leftoverRecord leftover] path (.notWritten cause)

/-- Write bytes to a path by way of a temporary file in the directory. -/
def replace (files : FileSystem) (place : Place) (directory : Path)
    (temporary : Text) (removable : Bool) (bytes : ByteArray) (path : Path) :
    Outcome Nat :=
  match files.create .top directory temporary with
  | .error (.defective defect) => ⟨files, [], .error (.defective defect)⟩
  | .error (.refused cause) => failed files [] path (.notCreated cause)
  | .ok (location, created) =>
      let staged :=
        (created.fill location bytes).setMode location FileSystem.publicMode
      settle staged place location (directory.join (.ofText temporary))
        removable bytes path

/-- Write a table to a path by way of a temporary file with a free name, and
give the number of bytes. -/
def write (files : FileSystem) (place : Place) (temporary : Text)
    (removable : Bool) (table : TypeTable) (path : Path) : Outcome Nat :=
  match encode table with
  | .error defect => failed files [] path (.unserializable defect)
  | .ok bytes =>
      match stagingDirectory? place path with
      | none => failed files [] path (.notCreated .missing)
      | some directory =>
          replace files place directory temporary removable bytes path

/-- A temporary name that is free in the directory of the target. -/
def freeName (files : FileSystem) (place : Place) (path : Path) : Text :=
  let directory := ((stagingDirectory? place path).map Path.names).getD []
  files.freshName (directory.map Text.shownName) fun index =>
    temporaryName (Text.zeroPadded 8 index)

end PalletTypes.TypesFile
