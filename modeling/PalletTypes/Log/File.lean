import PalletTypes.FileSystem.Update
import PalletTypes.Log.Fault

/-!
# Log files

An open log file takes rows.  A row that would bring it to its limit goes to a
new file: the log file is set aside under the number 1, those set aside before
move up by one number, and the last of them goes.  The limit is compared with
the bytes of the file and the code points of the row.

A file that has been removed or replaced since it was opened still takes rows,
which are lost with it.  Where the log file cannot be set aside or opened again
it is closed and the row is lost; the next row opens it again.
-/

namespace PalletTypes.Log

/-- Where the rows of a log file go. -/
inductive Stream where
  /-- To the file that stands at the location. -/
  | attached
  /-- To a file of so many bytes that has been removed or replaced. -/
  | detached (size : Nat)
  | closed
deriving DecidableEq

/-- A log file; its path is absolute. -/
structure LogFile where
  path : Path
  location : Location
  stream : Stream := .attached
deriving DecidableEq

namespace LogFile

/-- The limit at which a log file is set aside. -/
def maxBytes : Nat := 10 * 1024 * 1024

/-- The number of log files that are kept aside. -/
def backups : Nat := 5

/-- The name of the file with a number; that of the log file itself is 0. -/
def numberedName (name : Text) : Nat → Text
  | 0 => name
  | number + 1 => name ++ "." ++ Text.ofNat (number + 1)

def numbered (path : Path) : Nat → Path
  | 0 => path
  | number + 1 =>
      .ofNames path.root (path.names.dropLast ++
        [numberedName (path.names.getLastD []) (number + 1)])

/-- Something stands at the path. -/
def stands (files : FileSystem) (path : Path) : Bool :=
  match files.probe .top path with
  | .ok (some _) => true
  | _ => false

/-- Move the file with a number up by one, in place of the file there. -/
def moveUp (path : Path) (files : FileSystem) (number : Nat) :
    Except AccessError FileSystem :=
  let source := numbered path number
  let target := numbered path (number + 1)
  if stands files source then
    if stands files target then
      match files.unlink .top target with
      | .error error => .error error
      | .ok files => files.relocate .top source target
    else files.relocate .top source target
  else .ok files

/-- Move the files with the numbers below a bound up by one, the last first. -/
def moveUpBelow (path : Path) : Nat → FileSystem →
    Except AccessError FileSystem
  | 0, files => .ok files
  | number + 1, files =>
      match moveUp path files number with
      | .error error => .error error
      | .ok files => moveUpBelow path number files

/-- The bytes of the file that takes the rows. -/
def size (log : LogFile) (files : FileSystem) : Nat :=
  match log.stream with
  | .attached =>
      match files.node? log.location with
      | some (.file _ content) => content.size
      | _ => 0
  | .detached size => size
  | .closed => 0

/-- Detach the log file if it has gone from its location in these files. -/
def detach (gone : Location → Bool) (files : FileSystem) (log : LogFile) :
    LogFile :=
  if log.stream = .attached ∧ gone log.location then
    { log with stream := .detached (log.size files) }
  else log

/-- Open the file at the path of the log file, which may be a new one. -/
def reopen (log : LogFile) (files : FileSystem) : FileSystem × LogFile :=
  match files.openFile .top log.path with
  | .error _ => (files, { log with stream := .closed })
  | .ok (location, files) =>
      (files, { log with location := location, stream := .attached })

/-- Set the log file aside and go on with a new one.  A move can only fail as
long as no file has been moved, so a failure has changed nothing. -/
def rotate (log : LogFile) (files : FileSystem) : FileSystem × LogFile :=
  match moveUpBelow log.path backups files with
  | .error _ => (files, { log with stream := .closed })
  | .ok files => log.reopen files

/-- A line would bring the log file to its limit.  A directory that has taken
the place of the file is never set aside. -/
def IsFull (log : LogFile) (files : FileSystem) (line : Text) : Prop :=
  log.stream ≠ .closed ∧
    (files.isDirectory .top log.path).toOption ≠ some true ∧
    maxBytes ≤ log.size files + line.length

instance (log : LogFile) (files : FileSystem) (line : Text) :
    Decidable (log.IsFull files line) :=
  inferInstanceAs (Decidable (_ ∧ _ ∧ _))

def write (log : LogFile) (files : FileSystem) (bytes : ByteArray) :
    FileSystem × LogFile :=
  match log.stream with
  | .attached => (files.append log.location bytes, log)
  | .detached size =>
      (files, { log with stream := .detached (size + bytes.size) })
  | .closed => (files, log)

/-- Write a line, to a new file if the old one is full.  A line without an
encoding is lost. -/
def writeLine (log : LogFile) (files : FileSystem) (line : Text) :
    FileSystem × LogFile :=
  let (files, log) :=
    if log.IsFull files line then log.rotate files else (files, log)
  match line.utf8? with
  | none => (files, log)
  | some bytes => log.write files bytes

/-- Append a row.  A log file that is closed is opened first, and a row with a
fault is lost. -/
def append (log : LogFile) (files : FileSystem) (row : Except Fault Text) :
    FileSystem × LogFile :=
  let (files, log) :=
    if log.stream = .closed then log.reopen files else (files, log)
  match row with
  | .error _ => (files, log)
  | .ok row => log.writeLine files (row ++ "\n")

end LogFile

end PalletTypes.Log
