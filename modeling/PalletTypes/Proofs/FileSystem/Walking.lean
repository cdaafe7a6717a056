import PalletTypes.FileSystem.Update
import PalletTypes.Proofs.Path.Defects

/-!
# Walks and the directories they pass

A walk that ends in a directory only ever asks which locations are
directories, so it ends in the same place in every file system with the same
directories.  A walk that ends in a file has entered the directory of the file
and found the file's name there.
-/

namespace PalletTypes

/-- A name that a directory can hold an entry for. -/
def Place.Admits (place : Place) (name : Text) : Prop :=
  name ≠ upward ∧ place.removed = 0 ∧ name.byteSize ≤ maxNameBytes

namespace Spot

/-- What a location leads to, given what stands there. -/
def ofNode? (location : Location) : Option Node → Except FileError Spot
  | none => .error .missing
  | some .directory => .ok (.directory ⟨location, 0⟩)
  | some (.file mode content) => .ok (.file location mode content)

theorem ofNode?_eq_directory_iff {location : Location} {node : Option Node}
    {target : Place} :
    ofNode? location node = .ok (.directory target) ↔
      node = some .directory ∧ (⟨location, 0⟩ : Place) = target := by
  cases node with
  | none => simp [ofNode?]
  | some found => cases found <;> simp [ofNode?]

theorem ofNode?_eq_file_iff {location other : Location} {node : Option Node}
    {mode : Nat} {content : ByteArray} :
    ofNode? location node = .ok (.file other mode content) ↔
      location = other ∧ node = some (.file mode content) := by
  cases node with
  | none => simp [ofNode?]
  | some found => cases found <;> simp [ofNode?]

end Spot

namespace FileSystem

/-- The same locations are directories. -/
def SameDirectories (files other : FileSystem) : Prop :=
  ∀ location, files.node? location = some .directory ↔
    other.node? location = some .directory

/-- The directories of a file system are directories of another one. -/
def KeepsDirectories (files other : FileSystem) : Prop :=
  ∀ location, files.node? location = some .directory →
    other.node? location = some .directory

namespace SameDirectories

theorem symm {files other : FileSystem}
    (same : files.SameDirectories other) : other.SameDirectories files :=
  fun location => (same location).symm

theorem keeps {files other : FileSystem}
    (same : files.SameDirectories other) : files.KeepsDirectories other :=
  fun location => (same location).mp

end SameDirectories

theorem ne_nil_of_not_directory {files : FileSystem} {location : Location}
    (noDirectory : files.node? location ≠ some .directory) :
    location ≠ [] := by
  intro top
  exact noDirectory (by simp [node?, top])

theorem ne_nil_of_free {files : FileSystem} {location : Location}
    (free : files.node? location = none) : location ≠ [] :=
  ne_nil_of_not_directory (by simp [free] : files.node? location ≠ some .directory)

theorem sameDirectories_put_file {files : FileSystem} {location : Location}
    (noDirectory : files.node? location ≠ some .directory) (mode : Nat)
    (content : ByteArray) :
    files.SameDirectories (files.put location (.file mode content)) := by
  intro other
  rw [node?_put (ne_nil_of_not_directory noDirectory)]
  by_cases same : location = other
  · subst other
    simp [noDirectory]
  · simp [same]

theorem find_of_admits {place : Place} {name : Text}
    (admitted : place.Admits name) (files : FileSystem) :
    files.find place name =
      Spot.ofNode? (place.child name) (files.node? (place.child name)) := by
  obtain ⟨notUpward, present, short⟩ := admitted
  simp only [find, notUpward, present, Nat.not_lt.mpr short, if_false,
    ne_eq, not_true_eq_false]
  cases files.node? (place.child name) with
  | none => rfl
  | some node => cases node <;> rfl

/-- A name that leads somewhere leads up or is admitted. -/
theorem admits_of_find {files : FileSystem} {place : Place} {name : Text}
    {spot : Spot} (found : files.find place name = .ok spot) :
    name = upward ∨ place.Admits name := by
  by_cases goesUp : name = upward
  · exact Or.inl goesUp
  · refine Or.inr ⟨goesUp, ?_, ?_⟩
    · by_cases present : place.removed = 0
      · exact present
      · simp [find, goesUp, present] at found
    · apply Nat.le_of_not_lt
      intro long
      by_cases present : place.removed = 0 <;>
        simp [find, goesUp, present, long] at found

theorem find_upward (files : FileSystem) (place : Place) :
    files.find place upward = .ok (.directory place.parent) := by
  simp [find]

theorem find_eq_directory_iff {files : FileSystem} {place target : Place}
    {name : Text} :
    files.find place name = .ok (.directory target) ↔
      name = upward ∧ place.parent = target ∨
        place.Admits name ∧
          files.node? (place.child name) = some .directory ∧
          (⟨place.child name, 0⟩ : Place) = target := by
  constructor
  · intro found
    rcases admits_of_find found with goesUp | admitted
    · subst name
      rw [find_upward] at found
      exact Or.inl ⟨rfl, by simpa using found⟩
    · rw [find_of_admits admitted] at found
      exact Or.inr ⟨admitted, Spot.ofNode?_eq_directory_iff.mp found⟩
  · rintro (⟨rfl, rfl⟩ | ⟨admitted, directory, rfl⟩)
    · exact find_upward files place
    · rw [find_of_admits admitted, directory]
      rfl

theorem find_eq_file_iff {files : FileSystem} {place : Place} {name : Text}
    {location : Location} {mode : Nat} {content : ByteArray} :
    files.find place name = .ok (.file location mode content) ↔
      place.Admits name ∧ place.child name = location ∧
        files.node? location = some (.file mode content) := by
  constructor
  · intro found
    rcases admits_of_find found with goesUp | admitted
    · rw [goesUp, find_upward] at found
      simp at found
    · rw [find_of_admits admitted] at found
      obtain ⟨rfl, node⟩ := Spot.ofNode?_eq_file_iff.mp found
      exact ⟨admitted, rfl, node⟩
  · rintro ⟨admitted, rfl, node⟩
    rw [find_of_admits admitted, node]
    rfl

theorem follow_append (files : FileSystem) (spot : Spot)
    (first second : List Text) :
    files.follow spot (first ++ second) =
      match files.follow spot first with
      | .error cause => .error cause
      | .ok next => files.follow next second := by
  induction first generalizing spot with
  | nil => cases spot <;> rfl
  | cons name names ih =>
      cases spot with
      | file location mode content => rfl
      | directory place =>
          cases found : files.find place name with
          | error cause => simp [follow, found]
          | ok next => simp [follow, found, ih]

/-- What has a name followed in it is a directory. -/
theorem exists_directory_of_follow {files : FileSystem} {spot next : Spot}
    {first later : List Text} {name : Text}
    (arrival : files.follow spot (first ++ name :: later) = .ok next) :
    ∃ place, files.follow spot first = .ok (.directory place) := by
  rw [follow_append] at arrival
  cases middle : files.follow spot first with
  | error cause => simp [middle] at arrival
  | ok spot =>
      cases spot with
      | file location mode content => simp [middle, follow] at arrival
      | directory place => exact ⟨place, rfl⟩

/-- Following names to a directory asks for directories only. -/
theorem KeepsDirectories.follow {files other : FileSystem}
    (keeps : files.KeepsDirectories other) {spot : Spot} {target : Place}
    {names : List Text}
    (arrival : files.follow spot names = .ok (.directory target)) :
    other.follow spot names = .ok (.directory target) := by
  induction names generalizing spot with
  | nil => cases spot <;> exact arrival
  | cons name names ih =>
      cases spot with
      | file location mode content => simp [FileSystem.follow] at arrival
      | directory place =>
          cases found : files.find place name with
          | error cause => simp [FileSystem.follow, found] at arrival
          | ok next =>
              rw [FileSystem.follow, found] at arrival
              have later := ih arrival
              cases next with
              | file location mode content =>
                  cases names <;> simp [FileSystem.follow] at arrival
              | directory next =>
                  have foundThere :
                      other.find place name = .ok (.directory next) := by
                    rw [find_eq_directory_iff] at found ⊢
                    exact found.imp_right fun inside =>
                      ⟨inside.1, keeps _ inside.2.1, inside.2.2⟩
                  rw [FileSystem.follow, foundThere]
                  exact later

theorem enter_eq_ok_iff {files : FileSystem} {place target : Place}
    {path : Path} :
    files.enter place path = .ok target ↔
      files.walk place path = .ok (.directory target) := by
  unfold enter
  cases walked : files.walk place path with
  | error cause => simp
  | ok spot => cases spot <;> simp

theorem KeepsDirectories.enter {files other : FileSystem}
    (keeps : files.KeepsDirectories other) {place target : Place} {path : Path}
    (entered : files.enter place path = .ok target) :
    other.enter place path = .ok target := by
  rw [enter_eq_ok_iff] at entered ⊢
  exact keeps.follow entered

theorem SameDirectories.enter {files other : FileSystem}
    (same : files.SameDirectories other) {place target : Place} {path : Path}
    (entered : files.enter place path = .ok target) :
    other.enter place path = .ok target :=
  same.keeps.enter entered

/-- A walk along a path with a last name enters the parent and finds that
name. -/
theorem walk_of_last {path : Path} {name : Text}
    (last : path.names.getLast? = some name) (files : FileSystem)
    (place : Place) :
    files.walk place path =
      match files.enter place path.parent with
      | .error cause => .error cause
      | .ok directory => files.find directory name := by
  obtain ⟨front, names⟩ := List.getLast?_eq_some_iff.mp last
  simp only [enter, walk, Path.parent, names, List.dropLast_concat,
    follow_append]
  cases files.follow (.directory (origin place path.root)) front with
  | error cause => rfl
  | ok spot =>
      cases spot with
      | file location mode content => rfl
      | directory directory =>
          cases found : files.find directory name with
          | error cause => simp [follow, found]
          | ok next => cases next <;> simp [follow, found]

/-- A walk ends in a file if the parent can be entered and holds the file
under the last name. -/
theorem walk_eq_file_iff {files : FileSystem} {place : Place} {path : Path}
    {location : Location} {mode : Nat} {content : ByteArray} :
    files.walk place path = .ok (.file location mode content) ↔
      ∃ directory name, files.enter place path.parent = .ok directory ∧
        path.names.getLast? = some name ∧ directory.Admits name ∧
        directory.child name = location ∧
        files.node? location = some (.file mode content) := by
  cases last : path.names.getLast? with
  | none =>
      have nameless := List.getLast?_eq_none_iff.mp last
      simp [walk, nameless, follow]
  | some name =>
      rw [walk_of_last last]
      cases files.enter place path.parent with
      | error cause => simp
      | ok directory => simp [find_eq_file_iff]

theorem read_eq_ok_iff {files : FileSystem} {place : Place} {path : Path}
    {content : ByteArray} :
    files.read place path = .ok content ↔
      path.refusal? = none ∧ ∃ location mode,
        files.walk place path = .ok (.file location mode content) := by
  unfold read
  cases path.refusal? with
  | some error => simp
  | none =>
      cases files.walk place path with
      | error cause => simp
      | ok spot => cases spot <;> simp

theorem read_eq_defective_iff {files : FileSystem} {place : Place}
    {path : Path} {defect : PathDefect} :
    files.read place path = .error (.defective defect) ↔
      path.defect? = some defect := by
  rw [← Path.refusal?_eq_defective_iff]
  unfold read
  cases path.refusal? with
  | some error => simp
  | none =>
      cases files.walk place path with
      | error cause => simp
      | ok spot => cases spot <;> simp

end FileSystem

end PalletTypes
