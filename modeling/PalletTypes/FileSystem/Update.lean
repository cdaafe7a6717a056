import PalletTypes.FileSystem

/-!
# Changes of a file system

Files are created under a free name, filled, opened to readers, moved over
other files and removed.  Directories are moved with everything below them.  An
operation that is refused changes nothing.
-/

namespace PalletTypes.FileSystem

/-- The mode of a file that its owner alone may read. -/
def privateMode : Nat := 0o600

/-- The mode of a file that everyone may read. -/
def publicMode : Nat := 0o644

/-- The location of a name in a directory, where a new file may be created. -/
def vacancy (files : FileSystem) (place : Place) (name : Text) :
    Except FileError Location :=
  match files.find place name with
  | .ok _ => .error .alreadyExists
  | .error .missing =>
      if place.removed = 0 then .ok (place.child name) else .error .missing
  | .error cause => .error cause

/-- Create an empty private file under a free name of a directory. -/
def create (files : FileSystem) (place : Place) (directory : Path)
    (name : Text) : Except AccessError (Location × FileSystem) :=
  match (directory.join (.ofText name)).refusal? with
  | some error => .error error
  | none =>
      match files.enter place directory with
      | .error cause => .error (.refused cause)
      | .ok place =>
          match files.vacancy place name with
          | .error cause => .error (.refused cause)
          | .ok location =>
              .ok (location,
                files.put location (.file privateMode ByteArray.empty))

def fill (files : FileSystem) (location : Location) (content : ByteArray) :
    FileSystem :=
  match files.node? location with
  | some (.file mode _) => files.put location (.file mode content)
  | _ => files

def append (files : FileSystem) (location : Location) (content : ByteArray) :
    FileSystem :=
  match files.node? location with
  | some (.file mode old) => files.put location (.file mode (old ++ content))
  | _ => files

def setMode (files : FileSystem) (location : Location) (mode : Nat) :
    FileSystem :=
  match files.node? location with
  | some (.file _ content) => files.put location (.file mode content)
  | _ => files

/-- Where a file that is moved to the path comes to stand: in place of a file
or under a free name, but never in place of a directory. -/
def landing (files : FileSystem) (place : Place) (path : Path) :
    Except AccessError Location :=
  match path.refusal? with
  | some error => .error error
  | none =>
      match files.enter place path.parent with
      | .error cause => .error (.refused cause)
      | .ok directory =>
          match path.names.getLast? with
          | none => .error (.refused .busy)
          | some name =>
              if name = upward then .error (.refused .busy)
              else
                match files.find directory name with
                | .ok (.directory _) => .error (.refused .isDirectory)
                | .ok (.file location _ _) => .ok location
                | .error .missing =>
                    if directory.removed = 0 then .ok (directory.child name)
                    else .error (.refused .missing)
                | .error cause => .error (.refused cause)

def move (files : FileSystem) (source target : Location) : FileSystem :=
  match files.node? source with
  | some node => (files.erase source).put target node
  | none => files

def rename (files : FileSystem) (source : Location) (place : Place)
    (path : Path) : Except AccessError FileSystem :=
  match files.landing place path with
  | .error error => .error error
  | .ok target => .ok (files.move source target)

/-- Remove the file that a path leads to. -/
def unlink (files : FileSystem) (place : Place) (path : Path) :
    Except AccessError FileSystem :=
  match path.refusal? with
  | some error => .error error
  | none =>
      match files.walk place path with
      | .error cause => .error (.refused cause)
      | .ok (.directory _) => .error (.refused .isDirectory)
      | .ok (.file location _ _) => .ok (files.erase location)

/-- Move a directory with everything below it to a free location. -/
def moveTree (files : FileSystem) (source target : Location) : FileSystem :=
  ⟨files.nodes.map fun entry =>
    if source.isPrefixOf entry.1 then
      (target ++ entry.1.drop source.length, entry.2)
    else entry⟩

/-- Move what a path leads to.  A file can take the place of a file, a
directory needs a free name. -/
def relocate (files : FileSystem) (place : Place) (source target : Path) :
    Except AccessError FileSystem :=
  match source.refusal? with
  | some error => .error error
  | none =>
      match files.walk place source with
      | .error cause => .error (.refused cause)
      | .ok (.file location _ _) => files.rename location place target
      | .ok (.directory directory) =>
          if source.names.getLastD upward = upward then .error (.refused .busy)
          else
            match files.landing place target with
            | .error error => .error error
            | .ok location =>
                if (files.node? location).isSome then
                  .error (.refused .notDirectory)
                else .ok (files.moveTree directory.location location)

/-- Open a file for writing: find it, or create it empty with a mode that lets
everyone read it. -/
def openFile (files : FileSystem) (place : Place) (path : Path) :
    Except AccessError (Location × FileSystem) :=
  match path.refusal? with
  | some error => .error error
  | none =>
      match files.walk place path with
      | .ok (.directory _) => .error (.refused .isDirectory)
      | .ok (.file location _ _) => .ok (location, files)
      | .error .missing =>
          match files.enter place path.parent with
          | .error cause => .error (.refused cause)
          | .ok directory =>
              match files.vacancy directory (path.names.getLastD []) with
              | .error cause => .error (.refused cause)
              | .ok location =>
                  .ok (location,
                    files.put location (.file publicMode ByteArray.empty))
      | .error cause => .error (.refused cause)

/-- The number of entries bounds the numbers that free names need. -/
def freshName (files : FileSystem) (directory : Location)
    (name : Nat → Text) : Text :=
  match (List.range (files.nodes.length + 1)).find? fun index =>
      (files.node? (directory ++ [name index])).isNone with
  | some index => name index
  | none => name 0

end PalletTypes.FileSystem
