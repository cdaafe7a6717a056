import PalletTypes.Entries
import PalletTypes.FileError

/-!
# File systems

A file system without links is a finite mapping from locations, the names on
the way from the top directory, to directories and files.  The top directory
is the empty location and needs no entry.  Names are bytes: a location holds
them as the system shows them, so that two texts which stand for the same
bytes lead to the same location.

A process stands in a place: a directory, or a removed directory of which only
the way up is left.  Walking a path takes one name at a time, so what a `..`
leads to is only known once everything before it has been found to be a
directory.
-/

namespace PalletTypes

/-- The names on the way from the top directory, as the system shows them. -/
abbrev Location := List Text

inductive Node where
  | directory
  | file (mode : Nat) (content : ByteArray)

/-- A finite mapping from locations to nodes. -/
structure FileSystem where
  nodes : List (Location × Node)

/-- A directory as a process holds it: a directory that exists, and how many
removed directories below it lead to the place. -/
structure Place where
  location : Location
  removed : Nat
deriving DecidableEq, Repr

namespace Place

def top : Place := ⟨[], 0⟩

def parent (place : Place) : Place :=
  if place.removed = 0 then ⟨place.location.dropLast, 0⟩
  else ⟨place.location, place.removed - 1⟩

/-- The path of a place, unless it has been removed. -/
def path? (place : Place) : Option Path :=
  if place.removed = 0 then some (Path.ofNames .absolute place.location)
  else none

def child (place : Place) (name : Text) : Location :=
  place.location ++ [name.shownName]

end Place

/-- What walking a path leads to. -/
inductive Spot where
  | directory (place : Place)
  | file (location : Location) (mode : Nat) (content : ByteArray)

/-- The greatest length of a name in bytes. -/
def maxNameBytes : Nat := 255

namespace FileSystem

def empty : FileSystem := ⟨[]⟩

def node? (files : FileSystem) (location : Location) : Option Node :=
  if location = [] then some .directory
  else Entries.get? location files.nodes

def put (files : FileSystem) (location : Location) (node : Node) :
    FileSystem :=
  ⟨Entries.put location node files.nodes⟩

def erase (files : FileSystem) (location : Location) : FileSystem :=
  ⟨Entries.remove location files.nodes⟩

def eraseBelow (files : FileSystem) (location : Location) : FileSystem :=
  ⟨files.nodes.filter fun entry =>
    !(location.isPrefixOf entry.1 && location != entry.1)⟩

theorem node?_put {location : Location} (named : location ≠ [])
    (files : FileSystem) (other : Location) (node : Node) :
    (files.put location node).node? other =
      if location = other then some node else files.node? other := by
  unfold node? put
  by_cases top : other = []
  · subst other
    simp [named]
  · simp [top, Entries.get?_put]

theorem put_put (files : FileSystem) (location : Location)
    (first second : Node) :
    (files.put location first).put location second =
      files.put location second := by
  simp [put, Entries.put_put]

theorem node?_erase {location : Location} (named : location ≠ [])
    (files : FileSystem) (other : Location) :
    (files.erase location).node? other =
      if other = location then none else files.node? other := by
  unfold node? erase
  by_cases top : other = []
  · subst other
    simp [Ne.symm named]
  · simp [top, Entries.get?_remove]

/-- Removing what was put under a free location leaves the file system as it
was before. -/
theorem erase_put_of_free {location : Location} {files : FileSystem}
    (free : files.node? location = none) (node : Node) :
    (files.put location node).erase location = files := by
  have named : location ≠ [] := by
    intro top
    simp [node?, top] at free
  have absent : location ∉ Entries.keys files.nodes := by
    simpa [node?, named, Entries.get?_eq_none_iff] using free
  simp [put, erase, Entries.remove_put_of_not_mem node absent]

def find (files : FileSystem) (place : Place) (name : Text) :
    Except FileError Spot :=
  if name = upward then .ok (.directory place.parent)
  else if place.removed ≠ 0 then .error .missing
  else if maxNameBytes < name.byteSize then .error .nameTooLong
  else
    let location := place.child name
    match files.node? location with
    | none => .error .missing
    | some .directory => .ok (.directory ⟨location, 0⟩)
    | some (.file mode content) => .ok (.file location mode content)

/-- Follow names, each in the directory that the ones before lead to. -/
def follow (files : FileSystem) : Spot → List Text → Except FileError Spot
  | spot, [] => .ok spot
  | .file _ _ _, _ :: _ => .error .notDirectory
  | .directory place, name :: names =>
      match files.find place name with
      | .error cause => .error cause
      | .ok spot => follow files spot names

/-- Where a path starts for a process in the given place. -/
def origin (place : Place) (root : PathRoot) : Place :=
  if root = .relative then place else Place.top

def walk (files : FileSystem) (place : Place) (path : Path) :
    Except FileError Spot :=
  files.follow (.directory (origin place path.root)) path.names

def enter (files : FileSystem) (place : Place) (path : Path) :
    Except FileError Place :=
  match files.walk place path with
  | .error cause => .error cause
  | .ok (.file _ _ _) => .error .notDirectory
  | .ok (.directory place) => .ok place

def read (files : FileSystem) (place : Place) (path : Path) :
    Except AccessError ByteArray :=
  match path.refusal? with
  | some error => .error error
  | none =>
      match files.walk place path with
      | .error cause => .error (.refused cause)
      | .ok (.directory _) => .error (.refused .isDirectory)
      | .ok (.file _ _ content) => .ok content

/-- What a path leads to, if it leads anywhere.  A path with a defect leads
nowhere; only a name or a path that is too long makes the question fail. -/
def probe (files : FileSystem) (place : Place) (path : Path) :
    Except FileError (Option Spot) :=
  match path.refusal? with
  | some (.defective _) => .ok none
  | some (.refused cause) => .error cause
  | none =>
      match files.walk place path with
      | .ok spot => .ok (some spot)
      | .error .nameTooLong => .error .nameTooLong
      | .error _ => .ok none

def isDirectory (files : FileSystem) (place : Place) (path : Path) :
    Except FileError Bool :=
  match files.probe place path with
  | .error cause => .error cause
  | .ok (some (.directory _)) => .ok true
  | .ok _ => .ok false

/-- The number of names at the start of a list that lead through directories,
seen from a location. -/
def standing (files : FileSystem) (location : Location) : Location → Nat
  | [] => 0
  | name :: names =>
      match files.node? (location ++ [name]) with
      | some .directory => files.standing (location ++ [name]) names + 1
      | _ => 0

end FileSystem

/-- The place after directories on the way to it may have been removed. -/
def Place.within (files : FileSystem) (place : Place) : Place :=
  let kept := files.standing [] place.location
  { location := place.location.take kept
    removed := place.removed + (place.location.length - kept) }

end PalletTypes
