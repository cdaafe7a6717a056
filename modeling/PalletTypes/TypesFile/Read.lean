import PalletTypes.Failure
import PalletTypes.FileSystem
import PalletTypes.Json.Reader
import PalletTypes.Log.Record

/-!
# Reading a types file

A types file holds one document, a mapping from type names to definitions.
Reading fails if the file cannot be read, if it holds no document, or if the
document is not a mapping.
-/

namespace PalletTypes.TypesFile

/-- What a reading or writing says, and what it leads to. -/
abbrev Report (α : Type) := List Log.Record × Except Failure α

/-- The record of a loader that is ready. -/
def readyRecord : Log.Record :=
  { level := .debug
    logger := Log.Logger.loader
    message := "TypesFileLoader initialized" }

/-- The record of a file that has been read. -/
def readRecord (table : TypeTable) (path : Path) : Log.Record :=
  { level := .debug
    logger := Log.Logger.loader
    message :=
      "Read " ++ Text.ofNat table.size ++ " types from " ++ path.text }

/-- The table of a document given by its bytes. -/
def decode (bytes : ByteArray) : Except Reason TypeTable :=
  match Json.ofBytes? bytes with
  | none => .error (.malformed (Json.defectPlace bytes))
  | some (.mapping entries) => .ok (.ofPairs entries)
  | some value => .error (.notMapping value.kind)

/-- The table in the types file at a path. -/
def load (files : FileSystem) (place : Place) (path : Path) :
    Except Failure TypeTable :=
  match files.read place path with
  | .error (.defective defect) => .error (.defective defect)
  | .error (.refused cause) => .error (.types ⟨path, .unreadable cause⟩)
  | .ok bytes =>
      match decode bytes with
      | .error reason => .error (.types ⟨path, reason⟩)
      | .ok table => .ok table

/-- Read a types file and say so. -/
def read (files : FileSystem) (place : Place) (path : Path) :
    Report TypeTable :=
  match load files place path with
  | .error failure => ([], .error failure)
  | .ok table => ([readRecord table path], .ok table)

end PalletTypes.TypesFile
