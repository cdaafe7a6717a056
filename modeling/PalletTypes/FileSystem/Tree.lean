import PalletTypes.Failure
import PalletTypes.FileSystem.Update

/-!
# Trees of a file system

Directories are made together with those above them, files are written
together with the directories above them, and directories are removed with
everything below them.  These operations take several steps, so what the steps
before a refusal have done stays.
-/

namespace PalletTypes.FileSystem

/-- Make a directory in a directory that exists. -/
def makeDirectory (files : FileSystem) (place : Place) (path : Path) :
    Except AccessError FileSystem :=
  match path.refusal? with
  | some error => .error error
  | none =>
      match files.enter place path.parent, path.names.getLast? with
      | .error cause, _ => .error (.refused cause)
      | .ok _, none => .error (.refused .alreadyExists)
      | .ok directory, some name =>
          match files.vacancy directory name with
          | .error cause => .error (.refused cause)
          | .ok location => .ok (files.put location .directory)

/-- Make a directory in a directory that exists, unless the path leads to a
directory already. -/
def ensureDirectory (files : FileSystem) (place : Place) (path : Path) :
    FileSystem × Except Failure Unit :=
  match files.makeDirectory place path with
  | .ok files => (files, .ok ())
  | .error (.defective defect) => (files, .error (.defective defect))
  | .error (.refused cause) =>
      match files.isDirectory place path with
      | .ok true => (files, .ok ())
      | .ok false => (files, .error (.refused cause path))
      | .error cause => (files, .error (.refused cause path))

/-- Make a directory and the directories above it, as far as they are
missing. -/
def makeDirectories (files : FileSystem) (place : Place) (path : Path) :
    FileSystem × Except Failure Unit :=
  match files.ensureDirectory place path with
  | (unchanged, .error (.refused .missing other)) =>
      if _ : path.names = [] then
        (unchanged, .error (.refused .missing other))
      else
        match files.makeDirectories place path.parent with
        | (files, .ok ()) => files.ensureDirectory place path
        | (files, .error failure) => (files, .error failure)
  | done => done
termination_by path.names.length
decreasing_by
  have positive := List.length_pos_iff.mpr ‹¬path.names = []›
  simp only [Path.parent, List.length_dropLast]
  omega

/-- Write a file in place, and make the directories above it. -/
def writeFile (files : FileSystem) (place : Place) (path : Path)
    (content : ByteArray) : FileSystem × Except Failure Unit :=
  match files.makeDirectories place path.parent with
  | (files, .error failure) => (files, .error failure)
  | (files, .ok ()) =>
      match files.openFile place path with
      | .error error => (files, .error (.ofAccess path error))
      | .ok (location, files) => (files.fill location content, .ok ())

/-- Remove a directory with everything below it.  The directory itself goes
last, so the path must still lead to it then. -/
def removeDirectory (files : FileSystem) (place : Place) (path : Path)
    (directory : Place) : FileSystem × Except Failure Unit :=
  let emptied :=
    if directory.removed = 0 then files.eraseBelow directory.location
    else files
  match emptied.enter place path with
  | .error cause => (emptied, .error (.refused cause path))
  | .ok directory =>
      if directory.removed = 0 then
        (emptied.erase directory.location, .ok ())
      else (emptied, .error (.refused .missing path))

/-- Remove the file or the directory that a path leads to. -/
def remove (files : FileSystem) (place : Place) (path : Path) :
    FileSystem × Except Failure Unit :=
  match path.refusal? with
  | some error => (files, .error (.ofAccess path error))
  | none =>
      match files.walk place path with
      | .error cause => (files, .error (.refused cause path))
      | .ok (.file location _ _) => (files.erase location, .ok ())
      | .ok (.directory directory) =>
          files.removeDirectory place path directory

end PalletTypes.FileSystem
